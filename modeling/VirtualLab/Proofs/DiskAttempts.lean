import VirtualLab.Proofs.ConfigurationErrors
import VirtualLab.Proofs.FaultyFiles
import VirtualLab.Proofs.Undoing

/-!
# Attempts at disks

The disks of a machine are attempted one after the other, whatever came of those before. A disk that
is found is kept. For any other one its directory is made, and then the tool is run once. Whether a
disk is found is decided when its turn comes: a disk behind a directory that is still missing on its
way is not.
-/

namespace VirtualLab

open BootConfig FileSystem

namespace FileSystem

variable {tool : SignatureToolConduct} {before middle after : FileSystem} {path : Path}

/-! ## What stays -/

/-- What the path names, it names still. -/
def StillNames (path : Path) (before after : FileSystem) : Prop :=
  ∀ entry, before.named? path = some entry → after.named? path = some entry

theorem StillNames.refl (path : Path) (files : FileSystem) : StillNames path files files := fun _ held => held

theorem StillNames.trans (first : StillNames path before middle) (second : StillNames path middle after) :
    StillNames path before after :=
  fun entry held => second entry (first entry held)

theorem StillNames.pathExists (keeps : StillNames path before after)
    (found : before.pathExists path = true) : after.pathExists path = true := by
  rw [pathExists_eq_isSome] at found ⊢
  obtain ⟨entry, held⟩ := Option.isSome_iff_exists.mp found
  exact Option.isSome_iff_exists.mpr ⟨entry, keeps entry held⟩

theorem AddsDirectories.stillNames (adds : AddsDirectories before after) (path : Path) :
    StillNames path before after := by
  intro entry held
  cases entry with
  | file content => exact named?_eq_file.mpr (adds.read (named?_eq_file.mp held))
  | directory =>
      obtain ⟨location, located, directory⟩ := isDirectory_iff.mp (named?_eq_directory.mp held)
      have still := locate_of_directories_kept adds.workingDirectory
        (fun place => adds.kept place .directory) located
      exact named?_eq_directory.mpr
        (isDirectory_iff.mpr ⟨location, still, adds.kept location _ directory⟩)

theorem DiffersOnlyAt.stillNames {paths : List Path} (differs : DiffersOnlyAt paths before after)
    (apart : ∀ other ∈ paths, other.Apart path) : StillNames path before after :=
  fun _ held => (differs.named? apart).trans held

theorem adds_of_faulty {directory : Path} {answer : Except FileError Unit}
    (conducted : faultyConduct tool (.createDirectories directory) before answer after) :
    before.AddsDirectories after ∧ ∀ location entry, before.get? location = none →
      after.get? location = some entry → location ∈ directory.stops before.workingDirectory := by
  rcases conducted with made | ⟨_, leaves⟩
  · have made : before.createDirectories directory = (answer, after) := made
    have adds := createDirectories_adds before directory
    have held_of {location : Location} {entry : Entry} (held : after.get? location = some entry) :
        (before.createDirectories directory).2.get? location = some entry := by rwa [made]
    rw [made] at adds
    exact ⟨adds, fun _ _ absent held => added_of_createDirectoriesWithin absent (held_of held)⟩
  · exact leaves

theorem tool_of_faulty {name : String} {arguments : List String}
    {answer : Except ToolFailure ToolOutput}
    (conducted : faultyConduct tool (.runTool name arguments) before answer after) :
    tool arguments before answer after :=
  conduct_of_not_failed conducted id

theorem unchanged_of_looks {request : Request} {answer : request.Answer} (looks : request.Looks)
    (conducted : faultyConduct tool request before answer after) : after = before := by
  cases request with
  | pathExists | isFile => exact (conduct_of_not_failed conducted id).2
  | readFile =>
      rcases conducted with conducted | ⟨_, leaves⟩
      · exact conducted.2
      · exact leaves
  | _ => exact looks.elim

end FileSystem

namespace Machine

theorem Owns.apart {machine : Machine} {first second : Path} (owns : machine.Owns first)
    (otherOwns : machine.Owns second) (different : first ≠ second) : first.Apart second := by
  obtain ⟨file, isName, rfl⟩ := owns.eq_join
  obtain ⟨other, otherIsName, rfl⟩ := otherOwns.eq_join
  refine Path.join_apart_join _ isName.2.2.2 otherIsName.2.2.2 fun same => different ?_
  rw [same]

end Machine

/-! ## One disk after the other

A disk that is there is kept. For any other one its directory is made and then the tool is run.
-/

namespace VirtualDisk

structure Trial where
  disk : VirtualDisk
  before : FileSystem
  events : List (Event FileSystem)
  outcome : Except DiskFailure Unit
  after : FileSystem

namespace Trial

def looked (disk : VirtualDisk) (files : FileSystem) (found : Bool) : Event FileSystem :=
  ⟨files, .pathExists disk.path, found, files⟩

def result (disk : VirtualDisk) (answer : Except ToolFailure ToolOutput) :
    Except DiskFailure Unit :=
  (answer.mapError (.tool disk.path)).map fun _ => ()

inductive Follows (backing : VirtualDisk → Option Path) : Trial → Prop
  | kept {disk : VirtualDisk} {files : FileSystem} (found : files.pathExists disk.path = true) :
      Follows backing ⟨disk, files, [looked disk files true], .ok (), files⟩
  | unplaced {disk : VirtualDisk} {files after : FileSystem} {directory : Path} {cause : FileError}
      (missing : files.pathExists disk.path = false) (above : disk.path.parent = some directory) :
      Follows backing ⟨disk, files,
        [looked disk files false, ⟨files, .createDirectories directory, .error cause, after⟩],
        .error (.directory directory cause), after⟩
  | tooled {disk : VirtualDisk} {files middle after : FileSystem} {directory : Path}
      {answer : Except ToolFailure ToolOutput} (missing : files.pathExists disk.path = false)
      (above : disk.path.parent = some directory) :
      Follows backing ⟨disk, files,
        [looked disk files false, ⟨files, .createDirectories directory, .ok (), middle⟩,
          ⟨middle, .runTool creationTool (disk.creationArguments (backing disk)), answer, after⟩],
        result disk answer, after⟩

def failure? (trial : Trial) : Option DiskFailure :=
  match trial.outcome with
  | .ok () => none
  | .error failure => some failure

end Trial

inductive Tried (backing : VirtualDisk → Option Path) :
    FileSystem → List Trial → FileSystem → Prop
  | nil (files : FileSystem) : Tried backing files [] files
  | cons {trial : Trial} {rest : List Trial} {final : FileSystem} (follows : trial.Follows backing)
      (others : Tried backing trial.after rest final) :
      Tried backing trial.before (trial :: rest) final

section Runs

variable {tool : SignatureToolConduct} {before after : FileSystem}
  {events : List (Event FileSystem)} {backing : VirtualDisk → Option Path} {disk : VirtualDisk}

theorem follows_of_create {directory : Path} {outcome : Except DiskFailure Unit}
    (above : disk.path.parent = some directory)
    (run : (disk.create (backing disk)).run.Runs (faultyConduct tool) before events outcome after) :
    (Trial.mk disk before events outcome after).Follows backing := by
  rw [create, above, Attempt.runs_ask_bind] at run
  obtain ⟨found, middle, rest, asked, going, rfl⟩ := run
  obtain ⟨rfl, rfl⟩ : found = before.pathExists disk.path ∧ middle = before :=
    conduct_of_not_failed asked id
  cases present : middle.pathExists disk.path with
  | true =>
      rw [present, if_pos rfl] at going
      obtain ⟨rfl, rfl, rfl⟩ := Attempt.runs_pure.mp going
      exact .kept present
  | false =>
      rw [present, if_neg Bool.false_ne_true] at going
      obtain ⟨made, placed, later, making, creating, rfl⟩ := Attempt.runs_ask_bind.mp going
      rcases Attempt.runs_orFail_bind.mp creating with ⟨cause, rfl, rfl, rfl, rfl⟩ |
        ⟨_, rfl, running⟩
      · exact .unplaced present above
      · obtain ⟨answer, ended, last, _, finishing, rfl⟩ := Attempt.runs_ask_bind.mp running
        rcases Attempt.runs_orFail_bind.mp finishing with ⟨cause, rfl, rfl, rfl, rfl⟩ |
          ⟨output, rfl, done⟩
        · exact .tooled present above
        · obtain ⟨rfl, rfl, rfl⟩ := Attempt.runs_pure.mp done
          exact .tooled present above

/-- Creating disks attempts each of them once, in order, and collects the failures. -/
theorem tried_of_createAll {disks : List VirtualDisk} {failures : List DiskFailure}
    (placed : ∀ disk ∈ disks, ∃ directory, disk.path.parent = some directory)
    (run : (createAll backing disks).Runs (faultyConduct tool) before events failures after) :
    ∃ trials, trials.map (·.disk) = disks ∧ events = trials.flatMap (·.events) ∧
      failures = trials.filterMap (·.failure?) ∧ Tried backing before trials after := by
  induction disks generalizing before events failures with
  | nil =>
      obtain ⟨rfl, rfl, rfl⟩ := Script.runs_pure.mp run
      exact ⟨[], rfl, rfl, rfl, .nil _⟩
  | cons disk rest induction =>
      obtain ⟨⟨directory, above⟩, others⟩ := List.forall_mem_cons.mp placed
      obtain ⟨created, early, middle, late, left, creates, createsRest, rfl, rfl⟩ :=
        Lab.runs_createAll_cons.mp run
      have follows := follows_of_create above creates
      obtain ⟨trials, rfl, rfl, rfl, tried⟩ := induction others createsRest
      refine ⟨⟨disk, before, early, created, middle⟩ :: trials, rfl, rfl, ?_, .cons follows tried⟩
      cases created <;> rfl

end Runs

/-! ## How often the tool is run -/

namespace Trial

def Placed (trial : Trial) : Prop :=
  trial.before.pathExists trial.disk.path = false ∧ ∃ before directory after,
    (⟨before, .createDirectories directory, .ok (), after⟩ : Event FileSystem) ∈ trial.events

end Trial

def calls (backing : VirtualDisk → Option Path) (disk : VirtualDisk)
    (events : List (Event FileSystem)) : Nat :=
  events.countP fun event =>
    event.request = .runTool creationTool (disk.creationArguments (backing disk))

section Calls

variable {backing : VirtualDisk → Option Path} {disk : VirtualDisk} {trial : Trial}

theorem path_of_creationArguments {first second : VirtualDisk} {image other : Option Path}
    (equal : first.creationArguments image = second.creationArguments other) :
    first.path = second.path := by
  have ends := (List.append_inj' equal rfl).2
  exact congrArg Path.mk (List.cons.inj ends).1

/-- For its own disk an attempt runs the tool once if the directory was made, else not at all. -/
theorem calls_of_follows (follows : trial.Follows backing) :
    (trial.Placed → calls backing trial.disk trial.events = 1) ∧
      (¬ trial.Placed → calls backing trial.disk trial.events = 0) := by
  cases follows with
  | kept found =>
      refine ⟨fun placed => ?_, fun _ => by simp [calls, Trial.looked]⟩
      exact absurd (found.symm.trans placed.1) (by decide)
  | unplaced missing above =>
      refine ⟨fun placed => ?_, fun _ => by simp [calls, Trial.looked]⟩
      obtain ⟨_, _, _, _, made⟩ := placed
      simp [Trial.looked] at made
  | tooled missing above =>
      refine ⟨fun _ => by simp [calls, Trial.looked], fun unplaced => absurd ?_ unplaced⟩
      exact ⟨missing, _, _, _, List.mem_cons_of_mem _ List.mem_cons_self⟩

theorem calls_of_other (follows : trial.Follows backing) (different : trial.disk.path ≠ disk.path) :
    calls backing disk trial.events = 0 := by
  cases follows with
  | kept | unplaced => simp [calls, Trial.looked]
  | @tooled other _ _ _ _ _ _ _ =>
      have unequal : other.creationArguments (backing other) ≠ disk.creationArguments (backing disk) :=
        fun equal => different (path_of_creationArguments equal)
      simp [calls, Trial.looked, unequal]

theorem calls_append (early late : List (Event FileSystem)) :
    calls backing disk (early ++ late) = calls backing disk early + calls backing disk late :=
  List.countP_append

theorem calls_of_noDisk {events : List (Event FileSystem)}
    (noDisk : ∀ event ∈ events, ∀ arguments, event.request ≠ .runTool creationTool arguments) :
    calls backing disk events = 0 :=
  List.countP_eq_zero.mpr fun event member => by simpa using noDisk event member _

theorem Tried.follows {start final : FileSystem} {trials : List Trial}
    (tried : Tried backing start trials final) : ∀ trial ∈ trials, trial.Follows backing := by
  induction tried with
  | nil files => simp
  | cons follows others induction => exact List.forall_mem_cons.mpr ⟨follows, induction⟩

theorem calls_of_others {trials : List Trial} (follows : ∀ trial ∈ trials, trial.Follows backing)
    (different : ∀ trial ∈ trials, trial.disk.path ≠ disk.path) :
    calls backing disk (trials.flatMap (·.events)) = 0 := by
  refine List.countP_eq_zero.mpr fun event member => ?_
  obtain ⟨trial, among, within⟩ := List.mem_flatMap.mp member
  have none := calls_of_other (follows trial among) (different trial among)
  exact List.countP_eq_zero.mp none event within

/-- Among attempts at disks with different files, only a disk's own runs the tool for it. -/
theorem calls_of_own {trials : List Trial} (follows : ∀ trial ∈ trials, trial.Follows backing)
    (apart : (trials.map (·.disk.path)).Nodup) :
    ∀ trial ∈ trials, calls backing trial.disk (trials.flatMap (·.events)) =
      calls backing trial.disk trial.events := by
  induction trials with
  | nil => simp
  | cons first rest induction =>
      obtain ⟨firstFollows, restFollows⟩ := List.forall_mem_cons.mp follows
      obtain ⟨new, apartRest⟩ := List.nodup_cons.mp apart
      have different : ∀ trial ∈ rest, trial.disk.path ≠ first.disk.path := fun trial among same =>
        new (List.mem_map.mpr ⟨trial, among, same⟩)
      refine List.forall_mem_cons.mpr ⟨?_, fun trial among => ?_⟩
      · rw [List.flatMap_cons, calls_append, calls_of_others restFollows different, Nat.add_zero]
      · rw [List.flatMap_cons, calls_append, induction restFollows apartRest trial among,
          calls_of_other firstFollows (different trial among).symm, Nat.zero_add]

end Calls

/-! ## What attempts leave -/

/-- Nothing is in the place of the disk, nor does making the machine's directory put anything
there. -/
structure Absent (machine : Machine) (files : FileSystem) (disk : VirtualDisk) : Prop where
  empty : files.get? (disk.path.place files.workingDirectory) = none
  off : disk.path.place files.workingDirectory ∉
    machine.workDirectory.stops files.workingDirectory

theorem Absent.not_found {machine : Machine} {files : FileSystem} {disk : VirtualDisk}
    (absent : disk.Absent machine files) : files.pathExists disk.path = false := by
  rw [Bool.eq_false_iff]
  intro found
  obtain ⟨_, entry, located, held, _⟩ := pathExists_iff.mp found
  rw [locate_eq_place located, absent.empty] at held
  cases held

end VirtualDisk

/-- The tools that make a machine write what they are to make and nothing else: the tool for disks
the disk, and the packing tool the medium. Installing writes no files. -/
structure Machine.CraftedBy (machine : Machine) (image : Path) (tool : SignatureToolConduct) :
    Prop where
  disk : ∀ disk ∈ VirtualDisk.ofMachine machine, ∀ {before answer after},
    tool (disk.creationArguments (Lab.backingFor image disk)) before answer after →
      DiffersOnlyAt [disk.path] before after
  medium : ∀ {before answer after},
    tool (Bundle.inDirectory machine.workDirectory).packingArguments before answer after →
      DiffersOnlyAt [(Bundle.inDirectory machine.workDirectory).medium] before after
  domain : ∀ install : InstallRequest, install.name = machine.vmName → ∀ {before answer after},
    tool install.arguments before answer after → DiffersOnlyAt [] before after

namespace VirtualDisk

section Frames

variable {tool : SignatureToolConduct} {machine : Machine} {image : Path} {disk : VirtualDisk}
  {trial : Trial}

theorem stillNames_of_follows (crafted : machine.CraftedBy image tool)
    (follows : trial.Follows (Lab.backingFor image)) (attempted : trial.disk ∈ ofMachine machine)
    (conducted : ∀ event ∈ trial.events,
      faultyConduct tool event.request event.before event.answer event.after)
    (member : disk ∈ ofMachine machine) :
    StillNames disk.path trial.before trial.after := by
  cases follows with
  | kept found => exact .refl _ _
  | unplaced missing above =>
      have making := conducted _ (List.mem_cons_of_mem _ List.mem_cons_self)
      exact (adds_of_faulty making).1.stillNames _
  | @tooled other files middle after directory answer missing above =>
      simp only [List.forall_mem_cons] at conducted
      obtain ⟨-, making, running, -⟩ := conducted
      intro entry held
      have different : other.path ≠ disk.path := by
        intro same
        rw [same, pathExists_eq_isSome, held] at missing
        cases missing
      have owns := Lab.owns_of_mem_ofMachine attempted
      have apart := owns.apart (Lab.owns_of_mem_ofMachine member) different
      have made := (adds_of_faulty making).1.stillNames disk.path
      have differs := crafted.disk _ attempted (tool_of_faulty running)
      exact differs.stillNames (List.forall_mem_singleton.mpr apart) _ (made _ held)

theorem absent_of_follows (crafted : machine.CraftedBy image tool)
    (follows : trial.Follows (Lab.backingFor image)) (attempted : trial.disk ∈ ofMachine machine)
    (conducted : ∀ event ∈ trial.events,
      faultyConduct tool event.request event.before event.answer event.after)
    (member : disk ∈ ofMachine machine) (different : trial.disk ≠ disk)
    (absent : disk.Absent machine trial.before) : disk.Absent machine trial.after := by
  have owns := Lab.owns_of_mem_ofMachine attempted
  have placing : ∀ {directory before answer after}, trial.disk.path.parent = some directory →
      faultyConduct tool (.createDirectories directory) before answer after →
      disk.Absent machine before → disk.Absent machine after := by
    intro directory before answer after above making absent
    obtain ⟨adds, added⟩ := adds_of_faulty making
    refine ⟨?_, by rw [adds.workingDirectory]; exact absent.off⟩
    rw [adds.workingDirectory, Option.eq_none_iff_forall_ne_some]
    intro entry held
    have stop := added _ entry absent.empty held
    rw [owns.stops_parent above] at stop
    exact absent.off stop
  cases follows with
  | kept found => exact absent
  | unplaced missing above =>
      exact placing above (conducted _ (List.mem_cons_of_mem _ List.mem_cons_self)) absent
  | @tooled other files middle after directory answer missing above =>
      simp only [List.forall_mem_cons] at conducted
      obtain ⟨-, making, running, -⟩ := conducted
      have still := placing above making absent
      have differs := crafted.disk _ attempted (tool_of_faulty running)
      have elsewhere := differs.elsewhere (disk.path.place middle.workingDirectory)
        (List.forall_mem_singleton.mpr fun found => by
          have place := locate_eq_place (fileLocation?_eq_some.mp found).2
          have same := (Lab.owns_of_mem_ofMachine member).eq_of_place owns place
          exact different (eq_of_path attempted member same.symm))
      constructor
      · rw [differs.workingDirectory, elsewhere]
        exact still.empty
      · rw [differs.workingDirectory]
        exact still.off

end Frames

section Whole

variable {tool : SignatureToolConduct} {machine : Machine} {image : Path} {disk : VirtualDisk}
  {start final : FileSystem} {trials : List Trial}

/-- A disk that is found at the start is found at every turn and at the end. -/
theorem Tried.stillNames (crafted : machine.CraftedBy image tool)
    (tried : Tried (Lab.backingFor image) start trials final)
    (attempted : ∀ trial ∈ trials, trial.disk ∈ ofMachine machine)
    (conducted : ∀ trial ∈ trials, ∀ event ∈ trial.events,
      faultyConduct tool event.request event.before event.answer event.after)
    (member : disk ∈ ofMachine machine) :
    (∀ trial ∈ trials, StillNames disk.path start trial.before) ∧
      StillNames disk.path start final := by
  induction tried with
  | nil files => exact ⟨by simp, .refl _ _⟩
  | cons follows others induction =>
      obtain ⟨first, rest⟩ := List.forall_mem_cons.mp attempted
      obtain ⟨firstEvents, restEvents⟩ := List.forall_mem_cons.mp conducted
      have still := stillNames_of_follows crafted follows first firstEvents member
      obtain ⟨turns, ended⟩ := induction rest restEvents
      refine ⟨List.forall_mem_cons.mpr ⟨.refl _ _, fun trial among => ?_⟩, still.trans ended⟩
      exact still.trans (turns trial among)

/-- A disk that is absent at the start is still absent when its turn comes. -/
theorem Tried.absent (crafted : machine.CraftedBy image tool)
    (tried : Tried (Lab.backingFor image) start trials final)
    (attempted : ∀ trial ∈ trials, trial.disk ∈ ofMachine machine)
    (conducted : ∀ trial ∈ trials, ∀ event ∈ trial.events,
      faultyConduct tool event.request event.before event.answer event.after)
    (once : (trials.map (·.disk)).Nodup) (member : disk ∈ ofMachine machine)
    (absent : disk.Absent machine start) :
    ∀ trial ∈ trials, trial.disk = disk → disk.Absent machine trial.before := by
  induction tried with
  | nil files => simp
  | @cons trial rest final follows others induction =>
      obtain ⟨first, attemptedRest⟩ := List.forall_mem_cons.mp attempted
      obtain ⟨firstEvents, restEvents⟩ := List.forall_mem_cons.mp conducted
      obtain ⟨new, onceRest⟩ := List.nodup_cons.mp once
      refine List.forall_mem_cons.mpr ⟨fun _ => absent, fun other among same => ?_⟩
      have different : trial.disk ≠ disk := by
        intro equal
        exact new (List.mem_map.mpr ⟨other, among, same.trans equal.symm⟩)
      exact induction attemptedRest restEvents onceRest
        (absent_of_follows crafted follows first firstEvents member different absent) other among
        same

theorem nodup_ofMachine (machine : Machine) : (ofMachine machine).Nodup := by
  have positions : (ofMachine machine).map (·.index) = List.range machine.disks.length :=
    List.ext_getElem (by simp [ofMachine]) fun _ _ _ => by simp [ofMachine]
  exact List.Nodup.of_map _ (positions ▸ List.nodup_range)

theorem nodup_paths (machine : Machine) : ((ofMachine machine).map (·.path)).Nodup :=
  (nodup_ofMachine machine).map_on fun _ member _ other => eq_of_path member other

end Whole

end VirtualDisk

/-! ## Creating a machine -/

namespace CloudImage

theorem handedOut_of_trusted {tool : SignatureToolConduct} {image : CloudImage}
    {before after : FileSystem} {events : List (Event FileSystem)} {outcome : Except LabError Path}
    (trusted : image.Trusted before)
    (run : image.requireTrusted.run.Runs (faultyConduct tool) before events outcome after) :
    outcome = .ok image.imagePath ∧ after = before := by
  have finds : image.requireTrusted.Confined (fun request => ∃ path, request = .isFile path)
      fun _ => True :=
    Lab.requireTrusted_confined image (fun path => ⟨path, rfl⟩) fun _ => trivial
  have answers : ∀ {request : Request}, (∃ path, request = .isFile path) →
      ∀ {before answer after}, faultyConduct tool request before answer after ↔
        (answer, after) = respond copySigned (fun _ => .error "") request before := by
    rintro _ ⟨path, rfl⟩ before answer after
    constructor
    · intro conducted
      obtain ⟨rfl, rfl⟩ := conduct_of_not_failed conducted id
      rfl
    · intro equal
      cases equal
      exact .inl ⟨rfl, rfl⟩
  have ended := (Script.runs_iff_run answers finds.run).mp ⟨events, run⟩
  rw [run_requireTrusted, handedOut, if_pos trusted] at ended
  exact Prod.ext_iff.mp ended

end CloudImage

namespace Request

/-- The request belongs to what follows the disks: it looks at files, makes a file that the machine
boots from, or installs the machine. -/
def Finishes (machine : Machine) (request : Request) : Prop :=
  request.Looks ∨ request.Stages machine ∨ request.Installs machine

variable {machine : Machine} {image : Path} {tool : SignatureToolConduct} {disk : VirtualDisk}
  {before after : FileSystem} {request : Request} {answer : request.Answer}

theorem Finishes.noDisk (finishes : request.Finishes machine) (arguments : List String) :
    request ≠ .runTool VirtualDisk.creationTool arguments := by
  rintro rfl
  rcases finishes with looks | stages | ⟨install, _, same⟩
  · exact looks
  · exact absurd stages.1 (by decide)
  · exact absurd (Request.runTool.inj same).1 (by decide)

theorem Stages.stillNames (stages : request.Stages machine)
    (crafted : machine.CraftedBy image tool)
    (conducted : faultyConduct tool request before answer after)
    (member : disk ∈ VirtualDisk.ofMachine machine) : StillNames disk.path before after := by
  have apart : ∀ path ∈ (Bundle.inDirectory machine.workDirectory).paths, path.Apart disk.path := by
    intro path boot
    refine (Machine.Owns.boot boot).apart (Lab.owns_of_mem_ofMachine member) ?_
    rintro rfl
    obtain ⟨index, _, rfl⟩ := List.mem_mapIdx.mp member
    exact Machine.pathAt_not_mem_paths _ index boot
  cases request with
  | createDirectories path => exact (adds_of_faulty conducted).1.stillNames _
  | writeFile path content =>
      have differs : DiffersOnlyAt [path] before after :=
        differs_of_faulty List.mem_cons_self conducted
      exact differs.stillNames (List.forall_mem_singleton.mpr (apart path stages))
  | runTool name arguments =>
      obtain ⟨rfl, rfl⟩ := stages
      have differs := crafted.medium (tool_of_faulty conducted)
      exact differs.stillNames (List.forall_mem_singleton.mpr (apart _ (by simp [Bundle.paths])))
  | _ => exact stages.elim

theorem Finishes.stillNames (finishes : request.Finishes machine)
    (crafted : machine.CraftedBy image tool)
    (conducted : faultyConduct tool request before answer after)
    (member : disk ∈ VirtualDisk.ofMachine machine) : StillNames disk.path before after := by
  rcases finishes with looks | stages | ⟨install, named, rfl⟩
  · rw [unchanged_of_looks looks conducted]
    exact .refl _ _
  · exact stages.stillNames crafted conducted member
  · exact (crafted.domain install named (tool_of_faulty conducted)).stillNames (by simp)

end Request

namespace Lab

variable {tool : SignatureToolConduct} {start final : FileSystem} {events : List (Event FileSystem)}
  {lab : Lab} {machine : Machine}

theorem runs_createDisks {image : Path} {outcome : Except LabError Unit}
    (run : (createDisks machine image).run.Runs (faultyConduct tool) start events outcome final) :
    ∃ failures, (VirtualDisk.createAll (backingFor image) (VirtualDisk.ofMachine machine)).Runs
        (faultyConduct tool) start events failures final ∧
      ((failures = [] ∧ outcome = .ok ()) ∨ (failures ≠ [] ∧ outcome =
        .error (.disksFailed machine.vmName (VirtualDisk.ofMachine machine).length failures))) := by
  obtain ⟨failures, early, middle, late, creating, judging, rfl⟩ := Attempt.runs_lift_bind.mp run
  cases failures with
  | nil =>
      obtain ⟨rfl, rfl, rfl⟩ := Attempt.runs_pure.mp judging
      exact ⟨[], by simpa using creating, .inl ⟨rfl, rfl⟩⟩
  | cons failure others =>
      obtain ⟨rfl, rfl, rfl⟩ := Attempt.runs_throw.mp judging
      exact ⟨_, by simpa using creating, .inr ⟨List.cons_ne_nil _ _, rfl⟩⟩

structure AttemptsDisks (machine : Machine) (image : Path) (start : FileSystem)
    (looking : List (Event FileSystem)) (trials : List VirtualDisk.Trial)
    (rest : List (Event FileSystem)) (outcome : Except LabError Unit) (final : FileSystem) :
    Prop where
  looks : ∀ event ∈ looking, event.request.Looks
  /-- Every disk is attempted, in order. -/
  each : trials.map (·.disk) = VirtualDisk.ofMachine machine
  tried : ∃ made, VirtualDisk.Tried (backingFor image) start trials made
  /-- A disk that was found at the start is found when its turn comes. -/
  found : ∀ trial ∈ trials, start.pathExists trial.disk.path = true →
    trial.before.pathExists trial.disk.path = true
  /-- One that was absent is not. -/
  missing : ∀ trial ∈ trials, trial.disk.Absent machine start →
    trial.before.pathExists trial.disk.path = false
  /-- The tool is run once for a disk that was not found and whose directory was made, and not at
  all for any other. -/
  called : ∀ trial ∈ trials, let all := looking ++ trials.flatMap (·.events) ++ rest
    (trial.Placed → VirtualDisk.calls (backingFor image) trial.disk all = 1) ∧
      (¬ trial.Placed → VirtualDisk.calls (backingFor image) trial.disk all = 0)
  /-- If an attempt fails, this is all that is done, and all failures are told in order. -/
  failed : trials.filterMap (·.failure?) ≠ [] → rest = [] ∧
    (∀ event ∈ trials.flatMap (·.events), event.request.MakesDisks machine) ∧
    outcome = .error (.disksFailed machine.vmName (VirtualDisk.ofMachine machine).length
      (trials.filterMap (·.failure?)))
  /-- What was found of a disk stays. -/
  kept : ∀ disk ∈ VirtualDisk.ofMachine machine, StillNames disk.path start final

theorem attemptsDisks_of_tried {image : Path} {made : FileSystem}
    {looking rest : List (Event FileSystem)} {trials : List VirtualDisk.Trial}
    {outcome : Except LabError Unit} (crafted : machine.CraftedBy image tool)
    (looks : ∀ event ∈ looking, event.request.Looks)
    (each : trials.map (·.disk) = VirtualDisk.ofMachine machine)
    (tried : VirtualDisk.Tried (backingFor image) start trials made)
    (conducted : ∀ trial ∈ trials, ∀ event ∈ trial.events,
      faultyConduct tool event.request event.before event.answer event.after)
    (finishes : ∀ event ∈ rest, event.request.Finishes machine)
    (stays : ∀ disk ∈ VirtualDisk.ofMachine machine, StillNames disk.path made final)
    (failed : trials.filterMap (·.failure?) ≠ [] → rest = [] ∧
      (∀ event ∈ trials.flatMap (·.events), event.request.MakesDisks machine) ∧
      outcome = .error (.disksFailed machine.vmName (VirtualDisk.ofMachine machine).length
        (trials.filterMap (·.failure?)))) :
    AttemptsDisks machine image start looking trials rest outcome final := by
  have members : ∀ trial ∈ trials, trial.disk ∈ VirtualDisk.ofMachine machine :=
    fun trial among => each ▸ List.mem_map_of_mem among
  have once : (trials.map (·.disk)).Nodup := each ▸ VirtualDisk.nodup_ofMachine machine
  have apart : (trials.map (·.disk.path)).Nodup := by
    have paths := VirtualDisk.nodup_paths machine
    rwa [← each, List.map_map] at paths
  refine ⟨looks, each, ⟨made, tried⟩, fun trial among found => ?_, fun trial among absent => ?_,
    fun trial among => ?_, failed, fun disk member => ?_⟩
  · have turns := (tried.stillNames crafted members conducted (members trial among)).1
    exact (turns trial among).pathExists found
  · exact (tried.absent crafted members conducted once (members trial among) absent trial among
      rfl).not_found
  · have none : ∀ {events : List (Event FileSystem)},
        (∀ event ∈ events, event.request.Finishes machine) →
          VirtualDisk.calls (backingFor image) trial.disk events = 0 :=
      fun finishes => VirtualDisk.calls_of_noDisk fun event member => (finishes event member).noDisk
    have early := none fun event member => .inl (looks event member)
    have late := none finishes
    have own := VirtualDisk.calls_of_own tried.follows apart trial among
    simp only [VirtualDisk.calls_append, early, late, own, Nat.zero_add, Nat.add_zero]
    exact VirtualDisk.calls_of_follows (tried.follows trial among)
  · exact (tried.stillNames crafted members conducted member).2.trans (stays disk member)

theorem finishing_finishes (lab : Lab) (machine : Machine) (image : CloudImage) :
    Attempt.Confined (Request.Finishes machine) (fun _ => True) (do
      let bundle := Bundle.inDirectory machine.workDirectory
      let documents ← Documents.render lab.home machine image.networkVersion lab.hostsCommands
      bundle.stage documents
      Attempt.mapError .tool bundle.package
      Attempt.mapError .tool (lab.installation machine image).install : LabTask Unit) := by
  refine Attempt.confined_bind ((render_looks _ _ _ _).mono fun _ => .inl) fun documents => ?_
  refine Attempt.confined_bind ((stage_stages documents).mono fun _ stages => .inr (.inl stages))
    fun _ => ?_
  refine Attempt.confined_bind (Attempt.confined_mapError (package_stages.mono fun _ stages =>
    .inr (.inl stages)) fun _ => trivial) fun _ => ?_
  exact (installation_installs lab image).mono fun _ installs => .inr (.inr installs)

/-- In every run that has an image, whatever fails, every disk of the machine is attempted, in
order. A disk that is found is kept, and the tool is run once for any other one whose directory can
be made. If any attempt fails, nothing else is done, and all failures are told. -/
theorem disks_attempted {image : CloudImage} {outcome : Except LabError Unit}
    (backs : lab.Backs machine start image) (crafted : machine.CraftedBy image.imagePath tool)
    (run : (lab.deploy machine).run.Runs (faultyConduct tool) start events outcome final) :
    ∃ looking trials rest, events = looking ++ trials.flatMap (·.events) ++ rest ∧
      AttemptsDisks machine image.imagePath start looking trials rest outcome final := by
  obtain ⟨declaration, first, resolved, trusted⟩ := backs
  have isImage := imageFor_eq_ok.mpr ⟨declaration, first, resolved⟩
  rcases Attempt.runs_orFail_bind.mp run with ⟨_, other, _⟩ | ⟨_, found, asking⟩
  · rw [isImage] at other
    cases other
  obtain rfl := Except.ok.inj (isImage.symm.trans found)
  rcases Attempt.runs_bind.mp asking with ⟨_, refused, _⟩ |
    ⟨backing, looking, _, later, asked, building, rfl⟩
  · cases (CloudImage.handedOut_of_trusted trusted refused).1
  obtain ⟨isPath, rfl⟩ := CloudImage.handedOut_of_trusted trusted asked
  obtain rfl := Except.ok.inj isPath
  have looks := asked.request_of_confined (requireTrusted_looks image).run
  have placed : ∀ disk ∈ VirtualDisk.ofMachine machine,
      ∃ directory, disk.path.parent = some directory :=
    fun disk member => Path.exists_parent (owns_of_mem_ofMachine member).names_ne_nil
  have makes : (createDisks machine image.imagePath).Confined (Request.MakesDisks machine)
      fun _ => True :=
    createDisks_confined (fun disk member => create_confined trivial
      (fun _ above => ⟨disk, member, above⟩) ⟨rfl, disk, member, _, rfl⟩) fun _ _ => trivial
  rcases Attempt.runs_bind.mp building with ⟨failure, failing, rfl⟩ |
    ⟨_, early, made, late, creating, finishing, rfl⟩
  · obtain ⟨failures, creates, ⟨_, impossible⟩ | ⟨_, equal⟩⟩ := runs_createDisks failing
    · cases impossible
    obtain ⟨trials, each, rfl, rfl, tried⟩ := VirtualDisk.tried_of_createAll placed creates
    refine ⟨looking, trials, [], by simp, attemptsDisks_of_tried crafted looks each tried ?_
      (by simp) (fun _ _ => .refl _ _) fun _ => ⟨rfl, makes.requests failing, ?_⟩⟩
    · exact fun trial among event member =>
        failing.conducted event (List.mem_flatMap.mpr ⟨trial, among, member⟩)
    · exact congrArg Except.error (Except.error.inj equal)
  · obtain ⟨failures, creates, ⟨rfl, _⟩ | ⟨_, impossible⟩⟩ := runs_createDisks creating
    swap
    · cases impossible
    obtain ⟨trials, each, rfl, none, tried⟩ := VirtualDisk.tried_of_createAll placed creates
    have finishes := (finishing_finishes lab machine image).requests finishing
    refine ⟨looking, trials, late, by simp, attemptsDisks_of_tried crafted looks each tried ?_
      finishes (fun disk member => ?_) fun failed => absurd none.symm failed⟩
    · exact fun trial among event member =>
        creating.conducted event (List.mem_flatMap.mpr ⟨trial, among, member⟩)
    · exact finishing.related (StillNames.refl _) StillNames.trans fun event among =>
        (finishes event among).stillNames crafted (finishing.conducted event among) member

/-! ### A disk that is refused, and one that is overlooked -/

def toldToMake : (arguments : List String) → List Path
  | "create" :: others => [⟨others.dropLast.getLastD ""⟩]
  | "-output" :: medium :: _ => [⟨medium⟩]
  | _ => []

def makesWhatIsTold : SignatureToolConduct := fun arguments before _ after =>
  DiffersOnlyAt (toldToMake arguments) before after

theorem craftedBy_makesWhatIsTold (machine : Machine) (image : Path) :
    machine.CraftedBy image makesWhatIsTold := by
  constructor
  · intro disk _ before after answer made
    have told : toldToMake (disk.creationArguments (backingFor image disk)) = [disk.path] := by
      unfold backingFor
      split <;> rfl
    rwa [makesWhatIsTold, told] at made
  · exact fun made => made
  · exact fun _ _ {_ _ _} made => made

def makeExcept (refused : Path) (arguments : List String) (files : FileSystem) :
    Except ToolFailure ToolOutput × FileSystem :=
  match toldToMake arguments with
  | [path] =>
    if path = refused then (.error (.failed "" arguments 1 ""), files)
    else
      match files.write path [7] with
      | .ok made => (.ok {}, made)
      | .error _ => (.error (.failed "" arguments 1 ""), files)
  | _ => (.ok {}, files)

theorem makeExcept_makes (refused : Path) (arguments : List String) (files : FileSystem) :
    makesWhatIsTold arguments files (makeExcept refused arguments files).1
      (makeExcept refused arguments files).2 := by
  unfold makesWhatIsTold makeExcept
  split
  · rename_i path told
    rw [told]
    split
    · exact .refl _ _
    · split
      · exact modifyFile_differs (by assumption) List.mem_cons_self
      · exact .refl _ _
  · exact .refl _ _

def soleImage : CloudImage where
  name := Machine.defaultOs
  imageUrl := "https://h/i"
  checksumUrl := none
  checksumType := none
  keyUrl := none
  networkVersion := 1
  osVariant := Machine.defaultOs
  directory := ⟨"/cloud-images"⟩
  imagePath := ⟨"/cloud-images/i"⟩
  checksumPath := none
  keyPath := none

theorem backs_soleImage (directory : Path) {files : FileSystem}
    (present : files.isFile soleImage.imagePath = true) :
    (Site.labIn directory).Backs (Site.twoDiskMachine (Site.labIn directory)) files soleImage := by
  refine ⟨{ name := Machine.defaultOs, imageUrl := "https://h/i" }, ?_, ?_, present, nofun⟩
  · rfl
  · change CloudImage.resolveIn (Path.join ⟨"/"⟩ "cloud-images") _ = _
    decide +kernel

def respondExcept (refused : Path) : Script.Responder FileSystem :=
  respond (makeExcept refused) fun url => .error url

theorem faultyConduct_respondExcept (refused : Path) (request : Request) (files : FileSystem) :
    faultyConduct makesWhatIsTold request files (respondExcept refused request files).1
      (respondExcept refused request files).2 :=
  .inl (conduct_respond (makeExcept_makes refused) request files)

theorem second_disk_refused :
    let machine := Site.twoDiskMachine (Site.labIn ⟨"/"⟩)
    ∃ events failures final looking trials rest,
      ((Site.labIn ⟨"/"⟩).deploy machine).run.Runs (faultyConduct makesWhatIsTold)
        Site.imageSite.files events (.error (.disksFailed "w" 2 failures)) final ∧
      failures.length = 1 ∧ events = looking ++ trials.flatMap (·.events) ++ rest ∧
      AttemptsDisks machine soleImage.imagePath Site.imageSite.files looking trials rest
        (.error (.disksFailed "w" 2 failures)) final := by
  intro machine
  let refused : Path := ⟨"/l/w/disk1.qcow2"⟩
  obtain ⟨events, run⟩ := Script.runs_run (faultyConduct_respondExcept refused)
    ((Site.labIn ⟨"/"⟩).deploy machine).run Site.imageSite.files
  have ended : (((Site.labIn ⟨"/"⟩).deploy machine).run.run (respondExcept refused)
      Site.imageSite.files).1 = .error (.disksFailed "w" 2 [.tool refused (.failed ""
        ["create", "-f", "qcow2", "/l/w/disk1.qcow2", Machine.defaultDiskSize] 1 "")]) := by
    decide +kernel
  rw [ended] at run
  obtain ⟨looking, trials, rest, split, attempts⟩ := disks_attempted
    (backs_soleImage ⟨"/"⟩ (by decide +kernel))
    (craftedBy_makesWhatIsTold machine soleImage.imagePath) run
  exact ⟨events, _, _, looking, trials, rest, run, rfl, split, attempts⟩

def stockedFiles : FileSystem where
  entries := Site.imageSite.files.entries ++ [(["l"], .directory), (["l", "w"], .directory),
    (["l", "w", "disk0.qcow2"], .file [1]), (["l", "w", "disk1.qcow2"], .file [2])]

/-- The way to the disks leads through a directory that is missing. When the turn of the first comes
it is not found, and it is made anew; this brings the second to light, which is kept. -/
theorem hidden_disk_made_anew :
    let lab := Site.labIn ⟨"/m/.."⟩
    let machine := Site.twoDiskMachine lab
    lab.Backs machine stockedFiles soleImage ∧
    (VirtualDisk.ofMachine machine).map (·.path.place []) =
      [["l", "w", "disk0.qcow2"], ["l", "w", "disk1.qcow2"]] ∧
    (∀ disk ∈ VirtualDisk.ofMachine machine, stockedFiles.pathExists disk.path = false) ∧
    stockedFiles.get? ["l", "w", "disk0.qcow2"] = some (.file [1]) ∧
    stockedFiles.get? ["l", "w", "disk1.qcow2"] = some (.file [2]) ∧
    ∃ events final, (lab.deploy machine).run.Runs (faultyConduct makesWhatIsTold) stockedFiles
      events (.ok ()) final ∧
      final.get? ["l", "w", "disk0.qcow2"] = some (.file [7]) ∧
      final.get? ["l", "w", "disk1.qcow2"] = some (.file [2]) := by
  intro lab machine
  obtain ⟨events, run⟩ := Script.runs_run (faultyConduct_respondExcept ⟨""⟩)
    (lab.deploy machine).run stockedFiles
  have ended : ((lab.deploy machine).run.run (respondExcept ⟨""⟩) stockedFiles).1 = .ok () ∧
      ((lab.deploy machine).run.run (respondExcept ⟨""⟩) stockedFiles).2.get?
        ["l", "w", "disk0.qcow2"] = some (.file [7]) ∧
      ((lab.deploy machine).run.run (respondExcept ⟨""⟩) stockedFiles).2.get?
        ["l", "w", "disk1.qcow2"] = some (.file [2]) := by
    decide +kernel
  rw [ended.1] at run
  exact ⟨backs_soleImage ⟨"/m/.."⟩ (by decide +kernel), by decide +kernel, by decide +kernel,
    by decide +kernel, by decide +kernel, events, _, run, ended.2⟩

end Lab

end VirtualLab
