import Mathlib.Data.List.Nodup
import Mathlib.Data.List.Pairwise
import VirtualLab.Proofs.Directories
import VirtualLab.Proofs.MachineFiles
import VirtualLab.Proofs.Worlds

/-!
# The files of a defined domain

A domain is defined only after all files of its machine are there, and they are removed only after
it is gone. So in every state that operations on machines lead to, whatever fails on the way, the
machine of a defined domain has all its files. This needs that no machine's directory is that of
another machine or in it.
-/

namespace VirtualLab

open BootConfig

/-! ## What the requests for a machine change -/

theorem InstallRequest.name_of_arguments {first second : InstallRequest}
    (equal : first.arguments = second.arguments) : first.name = second.name := by
  have fourth := congrArg (fun arguments : List String => arguments[3]?) equal
  simpa [arguments] using fourth

namespace Request

variable {machine : Machine} {request : Request} {before after : World} {answer : request.Answer}

theorem Makes.steady (makes : request.Makes machine)
    (conducted : World.conduct request before answer after) : World.Steady before after := by
  cases request with
  | pathExists | isFile | readFile | fetch | currentTime | readLine | print =>
      first
      | cases conducted.2; exact .refl _
      | cases conducted; exact .refl _
  | createDirectories => exact conducted
  | writeFile => exact conducted.1
  | runTool tool arguments =>
      refine ⟨conducted.1.files, fun domain member => ?_⟩
      rcases conducted.1.domains domain member with earlier | ⟨install, _, installs, _⟩
      · exact .inl earlier
      · rcases makes with ⟨creates, _⟩ | ⟨packs, _⟩
        · exact absurd (creates.symm.trans installs) (by decide)
        · exact absurd (packs.symm.trans installs) (by decide)
  | hypervisor call => cases call <;> first | exact conducted | exact conducted.1
  | appendFile | renameFile | removeFile | removeDirectory => exact makes.elim

theorem Installs.changes (installs : request.Installs machine)
    (conducted : World.conduct request before answer after) :
    World.Changes (fun _ => False) (· = machine.vmName) before after := by
  obtain ⟨install, own, rfl⟩ := installs
  refine ⟨conducted.1.files, fun domain member => ?_⟩
  rcases conducted.1.domains domain member with earlier | ⟨other, named, _, told⟩
  · exact .inl earlier
  · exact .inr (named.trans ((InstallRequest.name_of_arguments told).symm.trans own))

theorem Removes.changes (removes : request.Removes machine)
    (conducted : World.conduct request before answer after) :
    World.Changes (machine.workDirectory.place before.files.workingDirectory <+: ·)
      (fun _ => False) before after := by
  cases request with
  | pathExists =>
      cases conducted.2
      exact ⟨.refl _ _, fun _ member => .inl member⟩
  | removeFile path =>
      refine ⟨conducted.files.mono ?_, conducted.domains⟩
      rintro location rfl
      obtain ⟨file, place⟩ := Machine.Owns.place removes before.files.workingDirectory
      rw [place]
      exact List.prefix_append _ _
  | removeDirectory path =>
      refine ⟨conducted.files.mono ?_, conducted.domains⟩
      have own : path = machine.workDirectory := removes
      subst own
      rintro location rfl
      exact List.prefix_rfl
  | _ => exact removes.elim

end Request

/-! ## Making the files of a machine -/

namespace Machine

def files (machine : Machine) : List Path :=
  (VirtualDisk.ofMachine machine).map (·.path) ++
    (Bundle.inDirectory machine.workDirectory).paths

/-- All files of the machine are there. What it boots from are files; a disk is whatever was found
in its place when it was to be created. -/
structure Complete (clear : Prop) (machine : Machine) (world : World) : Prop where
  disks : ∀ disk ∈ VirtualDisk.ofMachine machine, world.files.Holds clear disk.path
  boot : ∀ path ∈ (Bundle.inDirectory machine.workDirectory).paths,
    world.files.HoldsFile clear path

theorem owns_of_mem_files {machine : Machine} {path : Path} (member : path ∈ machine.files) :
    machine.Owns path := by
  rcases List.mem_append.mp member with disk | boot
  · obtain ⟨disk, among, rfl⟩ := List.mem_map.mp disk
    exact Lab.owns_of_mem_ofMachine among
  · exact .boot boot

end Machine

section Making

variable {ε α : Type} {machine : Machine} {clear : Prop} {start final : World}
  {events : List (Event World)}

variable (machine) in
theorem World.steady_of_makes {attempt : Attempt ε α} {outcome : Except ε α}
    (run : attempt.run.Runs World.conduct start events outcome final)
    (makes : attempt.Makes machine) : World.Steady start final :=
  run.related .refl .trans fun event member =>
    (run.request_of_confined makes.run event member).steady (run.conducted event member)

theorem VirtualDisk.pathExists_of_create {disk : VirtualDisk} {backing : Option Path}
    (run : (disk.create backing).run.Runs World.conduct start events (.ok ()) final) :
    final.files.pathExists disk.path = true := by
  have making : ∀ {start events},
      (Attempt.ask (ε := DiskFailure) (.runTool creationTool (disk.creationArguments backing)) >>=
        fun answer => Attempt.orFail (.tool disk.path) answer >>= fun _ => pure ()).run.Runs
          World.conduct start events (.ok ()) final → final.files.pathExists disk.path = true := by
    intro start events ran
    obtain ⟨answer, middle, rest, conducted, ended, rfl⟩ := Attempt.runs_ask_bind.mp ran
    rcases Attempt.runs_orFail_bind.mp ended with ⟨_, _, _, impossible, _⟩ | ⟨output, rfl, done⟩
    · cases impossible
    · obtain ⟨_, _, rfl⟩ := Attempt.runs_pure.mp done
      exact (conducted.2 rfl).1 disk backing rfl rfl
  unfold create at run
  obtain ⟨present, middle, rest, conducted, ended, rfl⟩ := Attempt.runs_ask_bind.mp run
  split at ended
  · rename_i found
    obtain ⟨_, _, rfl⟩ := Attempt.runs_pure.mp ended
    obtain ⟨truly, rfl⟩ := conducted
    exact truly found
  · dsimp only at ended
    split at ended
    · obtain ⟨_, _, _, _, made, _⟩ := Attempt.runs_ask_bind.mp ended
      obtain ⟨_, _, _, _, _, rest, _⟩ := Attempt.runs_bind_ok.mp made
      exact making rest
    · exact making ended

theorem VirtualDisk.holds_of_createAll {backing : VirtualDisk → Option Path}
    {disks : List VirtualDisk} (own : ∀ disk ∈ disks, machine.Owns disk.path)
    (run : (createAll backing disks).Runs World.conduct start events [] final) :
    ∀ disk ∈ disks, final.files.Holds clear disk.path := by
  induction disks generalizing start events with
  | nil => simp
  | cons disk rest induction =>
      obtain ⟨owns, others⟩ := List.forall_mem_cons.mp own
      obtain ⟨created, _, middle, _, left, creates, createsRest, _, none⟩ :=
        Lab.runs_createAll_cons.mp run
      cases created with
      | error failure => cases none
      | ok value =>
          cases none
          have makes : (createAll backing rest).Confined (Request.Makes machine) fun _ => True :=
            Lab.createAll_confined fun disk member =>
              Lab.create_makes (others disk member) (backing disk)
          have steady : World.Steady middle final :=
            createsRest.related .refl .trans fun event member =>
              (createsRest.request_of_confined makes event member).steady
                (createsRest.conducted event member)
          have found := pathExists_of_create creates
          refine List.forall_mem_cons.mpr ⟨?_, induction others createsRest⟩
          exact steady.holds (FileSystem.holds_of_pathExists clear found)

theorem Lab.holds_of_createDisks {image : Path}
    (run : (createDisks machine image).run.Runs World.conduct start events (.ok ()) final) :
    ∀ disk ∈ VirtualDisk.ofMachine machine, final.files.Holds clear disk.path := by
  obtain ⟨failures, _, middle, _, creates, ended, _⟩ := Attempt.runs_lift_bind.mp run
  split at ended
  · obtain ⟨_, impossible, _⟩ := Attempt.runs_throw.mp ended
    cases impossible
  · rename_i none
    obtain ⟨_, _, rfl⟩ := Attempt.runs_pure.mp ended
    have empty : failures = [] := by simpa using none
    subst empty
    exact VirtualDisk.holds_of_createAll (fun _ => owns_of_mem_ofMachine) creates

namespace BootConfig.Bundle

theorem isFile_of_stageDocument {path : Path} {content : String}
    (run : (stageDocument path content).run.Runs World.conduct start events (.ok ()) final) :
    final.files.isFile path = true := by
  have writing : ∀ {start events},
      (Attempt.ask (ε := LabError) (.writeFile path (Bytes.ofText content)) >>=
        Attempt.orFail (.staging path)).run.Runs World.conduct start events (.ok ()) final →
          final.files.isFile path = true := by
    intro start events ran
    obtain ⟨answer, middle, rest, conducted, ended, rfl⟩ := Attempt.runs_ask_bind.mp ran
    obtain ⟨_, written, rfl⟩ := Attempt.runs_orFail.mp ended
    cases answer with
    | error cause => cases written
    | ok value => exact conducted.2 rfl
  unfold stageDocument at run
  split at run
  · obtain ⟨_, _, _, _, made, _⟩ := Attempt.runs_ask_bind.mp run
    obtain ⟨_, _, _, _, _, rest, _⟩ := Attempt.runs_bind_ok.mp made
    exact writing rest
  · exact writing run

theorem isFile_of_package {bundle : Bundle}
    (run : bundle.package.run.Runs World.conduct start events (.ok ()) final) :
    final.files.isFile bundle.medium = true := by
  obtain ⟨answer, _, _, conducted, ended, _⟩ := Attempt.runs_ask_bind.mp run
  rcases Attempt.runs_orFail_bind.mp ended with ⟨_, _, _, impossible, _⟩ | ⟨output, rfl, done⟩
  · cases impossible
  · obtain ⟨_, _, rfl⟩ := Attempt.runs_pure.mp done
    exact (conducted.2 rfl).2 bundle rfl rfl

end BootConfig.Bundle

theorem Lab.holds_of_stage (clear : Prop) {documents : Documents}
    (run : ((Bundle.inDirectory machine.workDirectory).stage documents).run.Runs World.conduct
      start events (.ok ()) final) :
    final.files.HoldsFile clear (Bundle.inDirectory machine.workDirectory).metaData ∧
      final.files.HoldsFile clear (Bundle.inDirectory machine.workDirectory).userData ∧
        final.files.HoldsFile clear (Bundle.inDirectory machine.workDirectory).networkConfig := by
  obtain ⟨_, _, second, _, metaRun, rest, _⟩ := Attempt.runs_bind_ok.mp run
  obtain ⟨_, _, third, _, userRun, networkRun, _⟩ := Attempt.runs_bind_ok.mp rest
  have userSteady : World.Steady second third := World.steady_of_makes machine userRun
    (stageDocument_stages (by simp [Bundle.paths]) _).staging
  have networkSteady : World.Steady third final := World.steady_of_makes machine networkRun
    (stageDocument_stages (by simp [Bundle.paths]) _).staging
  have metaData := FileSystem.holdsFile_of_isFile clear (Bundle.isFile_of_stageDocument metaRun)
  have userData := FileSystem.holdsFile_of_isFile clear (Bundle.isFile_of_stageDocument userRun)
  exact ⟨networkSteady.holdsFile (userSteady.holdsFile metaData), networkSteady.holdsFile userData,
    FileSystem.holdsFile_of_isFile clear (Bundle.isFile_of_stageDocument networkRun)⟩

theorem Lab.complete_of_prepare {lab : Lab} {image : CloudImage}
    (run : (lab.prepare machine).run.Runs World.conduct start events (.ok image) final) :
    machine.Complete clear final := by
  obtain ⟨_, _, _, _, _, trusting, _⟩ := Attempt.runs_bind_ok.mp run
  obtain ⟨backing, _, _, _, _, creating, _⟩ := Attempt.runs_bind_ok.mp trusting
  obtain ⟨_, _, created, _, createRun, rendering, _⟩ := Attempt.runs_bind_ok.mp creating
  obtain ⟨documents, _, rendered, _, renderRun, staging, _⟩ := Attempt.runs_bind_ok.mp rendering
  obtain ⟨_, _, staged, _, stageRun, packing, _⟩ := Attempt.runs_bind_ok.mp staging
  obtain ⟨_, _, packed, _, packRun, ended, _⟩ := Attempt.runs_bind_ok.mp packing
  obtain ⟨_, _, rfl⟩ := Attempt.runs_pure.mp ended
  obtain ⟨result, packageRun, succeeded⟩ := Attempt.runs_mapError.mp packRun
  have packing : World.Steady staged final :=
    World.steady_of_makes machine packageRun package_stages.staging
  have renders : World.Steady created rendered :=
    World.steady_of_makes machine renderRun (render_looks _ _ _ _).looking
  have stages : World.Steady rendered staged :=
    World.steady_of_makes machine stageRun (stage_stages documents).staging
  have disks : ∀ disk ∈ VirtualDisk.ofMachine machine, created.files.Holds clear disk.path :=
    holds_of_createDisks createRun
  obtain ⟨metaData, userData, networkConfig⟩ := holds_of_stage clear stageRun
  have medium : final.files.HoldsFile clear (Bundle.inDirectory machine.workDirectory).medium := by
    cases result with
    | error failure => cases succeeded
    | ok value =>
        exact FileSystem.holdsFile_of_isFile clear (Bundle.isFile_of_package packageRun)
  refine ⟨fun disk among => ((renders.trans stages).trans packing).holds (disks _ among), ?_⟩
  intro path boot
  simp only [Bundle.paths, List.mem_cons, List.not_mem_nil, or_false] at boot
  rcases boot with rfl | rfl | rfl | rfl
  · exact packing.holdsFile metaData
  · exact packing.holdsFile userData
  · exact packing.holdsFile networkConfig
  · exact medium

end Making

/-! ## Machines apart -/

namespace Machine

variable {machine other : Machine} {working : Location}

def Disjoint (working : Location) (first second : Machine) : Prop :=
  ¬ first.workDirectory.place working <+: second.workDirectory.place working ∧
    ¬ second.workDirectory.place working <+: first.workDirectory.place working

def Avoids (working : Location) (machine other : Machine) : Prop :=
  ∀ place ∈ machine.workDirectory.passes working, ¬ other.workDirectory.place working <+: place

/-- The way to the machine's directory passes that of no other machine. -/
def Clear (working : Location) (machines : List Machine) (machine : Machine) : Prop :=
  ∀ other ∈ machines, machine ≠ other → machine.Avoids working other

instance (working : Location) (first second : Machine) :
    Decidable (Disjoint working first second) :=
  inferInstanceAs (Decidable (_ ∧ _))

instance (working : Location) : Std.Symm (Disjoint working) where
  symm _ _ disjoint := ⟨disjoint.2, disjoint.1⟩

/-- A way that only leads down passes no directory that its end is not in. -/
theorem avoids_of_descending (disjoint : Disjoint working machine other)
    (descending : ".." ∉ machine.workDirectory.names) : machine.Avoids working other :=
  fun _ passed within => disjoint.2 (within.trans (Path.prefix_of_mem_passed descending passed))

theorem clear_of_descending {machines : List Machine}
    (disjoint : machines.Pairwise (Disjoint working)) (member : machine ∈ machines)
    (descending : ".." ∉ machine.workDirectory.names) :
    machine.Clear working machines := fun _ otherMember differ =>
  avoids_of_descending (disjoint.forall member otherMember differ) descending

/-- No file of a machine is lost with what is in the other's directory. -/
theorem Disjoint.away (disjoint : Disjoint working machine other) {path : Path}
    (owns : machine.Owns path) : ¬ other.workDirectory.place working <+: path.place working := by
  intro within
  obtain ⟨file, place⟩ := owns.place working
  rw [place] at within
  rcases List.prefix_concat_iff.mp within with equal | inside
  · refine disjoint.1 ?_
    rw [equal]
    exact List.prefix_append _ _
  · exact disjoint.2 inside

theorem Disjoint.passable (disjoint : Disjoint working machine other)
    (avoids : machine.Avoids working other) {path : Path} (owns : machine.Owns path) :
    ∀ place ∈ path.passes working, ¬ other.workDirectory.place working <+: place := by
  obtain ⟨file, isName, rfl⟩ := owns.eq_join
  rw [Path.passes_join_of_isName working _ isName]
  intro place member
  rcases List.mem_append.mp member with above | last
  · exact avoids place above
  · rw [List.mem_singleton.mp last]
    exact disjoint.2

/-! ## Guarded machines -/

/-- If the machine's domain is defined, all its files are there. -/
def Guarded (clear : Prop) (machine : Machine) (world : World) : Prop :=
  machine.vmName ∈ world.domains → machine.Complete clear world

variable {clear : Prop} {before after : World} {request : Request} {answer : request.Answer}

theorem Complete.of_keeps {lost : Location → Prop} (complete : machine.Complete clear before)
    (keeps : FileSystem.Keeps lost before.files after.files)
    (away : ∀ path, machine.Owns path → ¬ lost (path.place before.files.workingDirectory))
    (passable : clear → ∀ path, machine.Owns path →
      ∀ place ∈ path.passes before.files.workingDirectory, ¬ lost place) :
    machine.Complete clear after where
  disks disk among :=
    have owns := Lab.owns_of_mem_ofMachine among
    keeps.holds (away _ owns) (fun way => passable way _ owns) (complete.disks disk among)
  boot path among :=
    keeps.holdsFile (away _ (.boot among)) (fun way => passable way _ (.boot among))
      (complete.boot path among)

theorem Complete.of_changes {defined : String → Prop} (complete : machine.Complete clear before)
    (changes : World.Changes (fun _ => False) defined before after) :
    machine.Complete clear after :=
  complete.of_keeps changes.files (fun _ _ impossible => impossible)
    fun _ _ _ _ _ impossible => impossible

theorem Guarded.of_changes {lost : Location → Prop} {defined : String → Prop}
    (guarded : machine.Guarded clear before) (changes : World.Changes lost defined before after)
    (notDefined : ¬ defined machine.vmName)
    (kept : machine.Complete clear before → machine.Complete clear after) :
    machine.Guarded clear after := by
  intro member
  rcases changes.domains _ member with earlier | impossible
  · exact kept (guarded earlier)
  · exact absurd impossible notDefined

theorem Guarded.of_steady (guarded : machine.Guarded clear before)
    (steady : World.Steady before after) : machine.Guarded clear after :=
  guarded.of_changes steady (fun impossible => impossible) fun complete =>
    complete.of_changes steady

theorem Guarded.of_concerns (guarded : machine.Guarded clear before)
    (concerns : request.Concerns other) (conducted : World.conduct request before answer after)
    (differ : machine.vmName ≠ other.vmName)
    (disjoint : Disjoint before.files.workingDirectory machine other)
    (avoids : clear → machine.Avoids before.files.workingDirectory other) :
    machine.Guarded clear after := by
  rcases concerns with makes | removes | installs
  · exact guarded.of_steady (makes.steady conducted)
  · have changes := removes.changes conducted
    refine guarded.of_changes changes (fun impossible => impossible) fun complete => ?_
    exact complete.of_keeps changes.files (fun _ => disjoint.away)
      fun way _ => disjoint.passable (avoids way)
  · have changes := installs.changes conducted
    exact guarded.of_changes changes differ fun complete => complete.of_changes changes

end Machine

/-! ## Operations on a machine -/

inductive Operation where
  | up (lab : Lab)
  | down
  | destroy
  | createSnapshot (snapshot : String) (description : Option String)
  | listSnapshots
  | deleteSnapshot (snapshot : String)

namespace Operation

abbrev Result : Operation → Type
  | .up _ => UpOutcome
  | .down => DownOutcome
  | .destroy => DestroyOutcome
  | .createSnapshot _ _ => Unit
  | .listSnapshots => List String
  | .deleteSnapshot _ => Unit

def task (machine : Machine) : (operation : Operation) → LabTask operation.Result
  | .up lab => lab.up machine
  | .down => Lab.down machine
  | .destroy => Lab.destroy machine
  | .createSnapshot snapshot description => Lab.createSnapshot machine snapshot description
  | .listSnapshots => Lab.listSnapshots machine
  | .deleteSnapshot snapshot => Lab.deleteSnapshot machine snapshot

theorem task_concerns (operation : Operation) (machine : Machine) :
    (operation.task machine).Concerns machine := by
  cases operation with
  | up lab => exact Lab.up_concerns lab machine
  | down => exact (Lab.down_makes machine).concerns
  | destroy => exact Lab.destroy_concerns machine
  | createSnapshot snapshot description =>
      exact (Lab.createSnapshot_makes machine snapshot description).concerns
  | listSnapshots => exact (Lab.listSnapshots_makes machine).concerns
  | deleteSnapshot snapshot => exact (Lab.deleteSnapshot_makes machine snapshot).concerns

end Operation

/-! ## A machine is guarded throughout operations on it -/

section Guarding

variable {ε α : Type} {machine : Machine} {clear : Prop}

abbrev Attempt.Guards (clear : Prop) (machine : Machine) (attempt : Attempt ε α) : Prop :=
  attempt.Secures World.conduct (machine.Guarded clear) (machine.Guarded clear) fun _ _ => True

theorem Attempt.Confined.guarded {attempt : Attempt ε α} (makes : attempt.Makes machine) :
    attempt.Secures World.conduct (machine.Guarded clear) (machine.Guarded clear)
      fun _ => machine.Guarded clear :=
  makes.secures (fun making conducted guarded => guarded.of_steady (making.steady conducted))
    fun _ guarded => guarded

theorem Attempt.Confined.guards {attempt : Attempt ε α} (makes : attempt.Makes machine) :
    attempt.Guards clear machine :=
  makes.guarded.achieving fun _ => trivial

namespace Lab

/-- The domain is installed when all files are there, so it has them from the moment on at which it
may be defined. -/
theorem deploy_guards (lab : Lab) (machine : Machine) :
    (lab.deploy machine).Guards clear machine := by
  rw [deploy_eq_prepare]
  have prepares : (lab.prepare machine).Secures World.conduct (machine.Guarded clear)
      (machine.Guarded clear) fun _ => machine.Complete clear :=
    (prepare_makes lab machine).guarded.achieving complete_of_prepare
  refine Attempt.secures_bind prepares fun image => ?_
  have installs : (Attempt.mapError LabError.tool (lab.installation machine image).install).Secures
      World.conduct (machine.Guarded clear) (machine.Complete clear)
      fun _ => machine.Complete clear := by
    refine (installation_installs lab image).secures ?_ fun _ complete _ => complete
    intro request before answer after installing conducted complete
    exact complete.of_changes (installing.changes conducted)
  exact installs.achieving fun _ => trivial

theorem up_guards (lab : Lab) (machine : Machine) : (lab.up machine).Guards clear machine := by
  rw [up_eq_powerOn]
  refine Attempt.secures_bind (lookup_makes _).guarded fun found => ?_
  cases found with
  | none =>
      exact Attempt.secures_bind (deploy_guards lab machine) fun _ =>
        Attempt.secures_pure fun _ _ => trivial
  | some status => exact (powerOn_makes status).guards

theorem removeFiles_guards :
    Attempt.Secures World.conduct (machine.Guarded clear)
      (fun world => machine.vmName ∉ world.domains)
      (ExceptT.lift (removeFiles machine) : LabTask Bool)
      fun _ world => machine.vmName ∉ world.domains := by
  have confined : Attempt.Confined (Request.Removes machine) (fun _ => True)
      (ExceptT.lift (removeFiles machine) : LabTask Bool) :=
    Attempt.confined_lift removeFiles_removes
  refine confined.secures ?_ fun _ undefined defined => absurd defined undefined
  intro request before answer after removes conducted undefined defined
  rcases (removes.changes conducted).domains _ defined with earlier | impossible
  · exact undefined earlier
  · exact impossible

theorem undefined_of_undefine {domain : String} {start final : World} {events : List (Event World)}
    (run : (Hypervisor.perform (.undefine domain)).run.Runs World.conduct start events (.ok ())
      final) : domain ∉ final.domains :=
  (runs_perform_iff.mp run).1.2 rfl

/-- Files are removed only when the domain is known to be gone. -/
theorem removeDomain_guards (machine : Machine) : (removeDomain machine).Guards clear machine := by
  refine Attempt.secures_bind (perform_makes _).guarded fun snapshots => ?_
  refine Attempt.secures_bind (deleteSnapshots_makes _ _).guarded fun left => ?_
  dsimp only
  split
  · exact Attempt.secures_throw _
  · refine Attempt.secures_bind ((perform_makes _).guarded.achieving undefined_of_undefine) ?_
    intro _
    exact Attempt.secures_bind removeFiles_guards fun _ => Attempt.secures_pure fun _ _ => trivial

theorem destroy_guards (machine : Machine) : (destroy machine).Guards clear machine := by
  rw [destroy_eq_removeDomain]
  refine Attempt.secures_bind (lookup_makes _).guarded fun found => ?_
  cases found with
  | none => exact Attempt.secures_pure fun _ _ => trivial
  | some status =>
      dsimp only
      split
      · exact Attempt.secures_bind (forceOff_makes _).guarded fun _ => removeDomain_guards machine
      · exact removeDomain_guards machine

end Lab

theorem Operation.task_guards (operation : Operation) (machine : Machine) :
    (operation.task machine).Guards clear machine := by
  cases operation with
  | up lab => exact Lab.up_guards lab machine
  | down => exact (Lab.down_makes machine).guards
  | destroy => exact Lab.destroy_guards machine
  | createSnapshot snapshot description =>
      exact (Lab.createSnapshot_makes machine snapshot description).guards
  | listSnapshots => exact (Lab.listSnapshots_makes machine).guards
  | deleteSnapshot snapshot => exact (Lab.deleteSnapshot_makes machine snapshot).guards

end Guarding

/-! ## Reachable worlds -/

namespace World

variable {working : Location} {machines : List Machine}

/-- The worlds that operations on machines lead to, begun where none of their domains is defined:
one after each request that is answered. Operations follow each other in any order, and may begin
after an earlier one was broken off. -/
inductive Reachable (working : Location) (machines : List Machine) : World → Prop
  | start {world : World} (begun : world.files.workingDirectory = working)
      (undefined : ∀ machine ∈ machines, machine.vmName ∉ world.domains) :
      Reachable working machines world
  | step {world final : World} {machine : Machine} {operation : Operation}
      {outcome : Except LabError operation.Result} {events : List (Event World)}
      {event : Event World} (reachable : Reachable working machines world)
      (member : machine ∈ machines)
      (run : (operation.task machine).run.Runs World.conduct world events outcome final)
      (among : event ∈ events) : Reachable working machines event.after

structure Sound (working : Location) (machines : List Machine) (world : World) : Prop where
  workingDirectory : world.files.workingDirectory = working
  guarded : ∀ machine ∈ machines, machine.Guarded (machine.Clear working machines) world

theorem workingDirectory_of_conducted {request : Request} {machine : Machine}
    {before after : World} {answer : request.Answer} (concerns : request.Concerns machine)
    (conducted : conduct request before answer after) :
    after.files.workingDirectory = before.files.workingDirectory := by
  rcases concerns with makes | removes | installs
  · exact (makes.steady conducted).files.workingDirectory
  · exact (removes.changes conducted).files.workingDirectory
  · exact (installs.changes conducted).files.workingDirectory

variable {world final : World} {machine : Machine} {operation : Operation}
  {outcome : Except LabError operation.Result} {events : List (Event World)}

theorem workingDirectory_of_run
    (run : (operation.task machine).run.Runs conduct world events outcome final)
    (begun : world.files.workingDirectory = working) :
    ∀ event ∈ events, event.after.files.workingDirectory = working := by
  have concerns := run.request_of_confined (operation.task_concerns machine).run
  refine (run.kept (fun world => world.files.workingDirectory = working) ?_ begun).1
  intro event member equal
  have same := workingDirectory_of_conducted (concerns event member) (run.conducted event member)
  exact same.trans equal

theorem guarded_of_run {other : Machine} {clear : Prop}
    (run : (operation.task machine).run.Runs conduct world events outcome final)
    (begun : world.files.workingDirectory = working) (guarded : other.Guarded clear world)
    (differ : other.vmName ≠ machine.vmName) (disjoint : Machine.Disjoint working other machine)
    (avoids : clear → other.Avoids working machine) :
    ∀ event ∈ events, other.Guarded clear event.after := by
  have concerns := run.request_of_confined (operation.task_concerns machine).run
  let holds (world : World) : Prop :=
    world.files.workingDirectory = working ∧ other.Guarded clear world
  have kept : ∀ event ∈ events, holds event.before → holds event.after := by
    rintro event member ⟨equal, guarded⟩
    have concerned := concerns event member
    have conducted := run.conducted event member
    refine ⟨(workingDirectory_of_conducted concerned conducted).trans equal, ?_⟩
    subst equal
    exact guarded.of_concerns concerned conducted differ disjoint avoids
  exact fun event member => ((run.kept holds kept ⟨begun, guarded⟩).1 event member).2

theorem Sound.step {event : Event World} (sound : Sound working machines world)
    (names : (machines.map (·.vmName)).Nodup)
    (disjoint : machines.Pairwise (Machine.Disjoint working)) (member : machine ∈ machines)
    (run : (operation.task machine).run.Runs conduct world events outcome final)
    (among : event ∈ events) : Sound working machines event.after := by
  refine ⟨workingDirectory_of_run run sound.workingDirectory event among, ?_⟩
  intro other otherMember
  have guarded := sound.guarded other otherMember
  by_cases same : other = machine
  · subst same
    exact ((operation.task_guards other).run guarded run).1 event among
  · have differ : other.vmName ≠ machine.vmName := fun equal =>
      same (List.inj_on_of_nodup_map names otherMember member equal)
    have apart : Machine.Disjoint working other machine :=
      disjoint.forall otherMember member same
    have avoids : other.Clear working machines → other.Avoids working machine :=
      fun clear => clear machine member same
    exact guarded_of_run run sound.workingDirectory guarded differ apart avoids event among

theorem Reachable.sound (reachable : Reachable working machines world)
    (names : (machines.map (·.vmName)).Nodup)
    (disjoint : machines.Pairwise (Machine.Disjoint working)) : Sound working machines world := by
  induction reachable with
  | start begun undefined =>
      exact ⟨begun, fun machine member defined => absurd defined (undefined machine member)⟩
  | step _ member run among sound => exact sound.step names disjoint member run among

end World

namespace Machine

/-- No defined domain loses its files: wherever operations on machines with different names and
disjoint directories lead, the disks of a machine whose domain is defined and the files it boots
from are in their places, and are found there by their paths, unless these lead through another
machine's directory and up again. A disk is a file if there is no directory in its place. -/
theorem files_of_defined {working : Location} {machines : List Machine}
    (names : (machines.map (·.vmName)).Nodup)
    (disjoint : machines.Pairwise (Machine.Disjoint working)) {world : World}
    (reachable : World.Reachable working machines world) {machine : Machine}
    (member : machine ∈ machines) (defined : machine.vmName ∈ world.domains) :
    (∀ index < machine.disks.length,
      let path := machine.workDirectory.join ("disk" ++ toString index ++ ".qcow2")
      (world.files.get? (path.place working)).isSome ∧
        (machine.Clear working machines → world.files.pathExists path = true ∧
          (world.files.isDirectory path = false → world.files.isFile path = true))) ∧
    ∀ file ∈ ["meta-data", "user-data", "network-config", "cidata.iso"],
      let path := machine.workDirectory.join file
      world.files.HasFile (path.place working) ∧
        (machine.Clear working machines → world.files.isFile path = true) := by
  have sound := reachable.sound names disjoint
  have complete := sound.guarded machine member defined
  rw [← sound.workingDirectory]
  rw [← sound.workingDirectory] at complete
  constructor
  · intro index within path
    have holds := complete.disks _ (List.mem_mapIdx.mpr ⟨index, within, rfl⟩)
    refine ⟨holds.occupied, fun clear => ⟨holds.found clear, fun notDirectory => ?_⟩⟩
    have found : world.files.pathExists path = true := holds.found clear
    rwa [FileSystem.pathExists_eq, notDirectory, Bool.or_false] at found
  · intro file among path
    have joined : (Bundle.inDirectory machine.workDirectory).paths =
      ["meta-data", "user-data", "network-config", "cidata.iso"].map machine.workDirectory.join := rfl
    have boot := complete.boot path (joined ▸ List.mem_map_of_mem among)
    exact ⟨boot.hasFile, boot.isFile⟩

end Machine

/-! ## A world with a domain -/

def oneImageLab : Lab where
  home := none
  environment := { Machine.pairEnvironment with cloudImageDirectory := ⟨"/disks"⟩ }
  images := [{ name := "fedora40", imageUrl := "https://host/fedora.img" }]
  uri := Environment.defaultUri
  hostsCommands := []

def imageWorld : World where
  files := { entries := [(["disks"], .directory), (["disks", "cloud-images"], .directory),
    (["disks", "cloud-images", "fedora.img"], .file [])] }

def oneDiskMachine (name : String) : Machine where
  vmName := name
  hostname := name
  fqdn := name
  os := "fedora40"
  cpus := 1
  memoryMib := 1024
  interfaces := []
  disks := [⟨"root", "15G"⟩]
  cloudInit := ⟨"lab", none, none, [], []⟩
  workDirectory := Machine.pairEnvironment.workDirectory name

/-- Bringing up one of two machines leads to a world where its domain is defined. -/
theorem Machine.deployed_has_files : ∃ world,
    World.Reachable [] [oneDiskMachine "web", oneDiskMachine "db"] world ∧
      "web" ∈ world.domains ∧
        ∀ file ∈ ["disk0.qcow2", "meta-data", "user-data", "network-config", "cidata.iso"],
          world.files.isFile ((oneDiskMachine "web").workDirectory.join file) = true := by
  have disjoint : [oneDiskMachine "web", oneDiskMachine "db"].Pairwise (Disjoint []) := by
    decide +kernel
  let task := (Operation.up oneImageLab).task (oneDiskMachine "web")
  let installs := oneImageLab.imageFor (oneDiskMachine "web") |>.toOption.map
    (oneImageLab.installation (oneDiskMachine "web")) |>.toList
  obtain ⟨events, run⟩ := Script.runs_run (World.conduct_respond installs) task.run imageWorld
  have deployed : (task.run.run (World.respond installs) imageWorld).2.domains = ["web"] ∧
      (task.run.run (World.respond installs) imageWorld).2.files.isDirectory
        ((oneDiskMachine "web").workDirectory.join "disk0.qcow2") = false := by
    decide +kernel
  obtain ⟨event, among, ended⟩ := run.final_mem fun same => by
    rw [same] at deployed
    cases deployed.1
  have begun : World.Reachable [] [oneDiskMachine "web", oneDiskMachine "db"] imageWorld :=
    .start rfl fun _ _ => List.not_mem_nil
  have reachable := begun.step List.mem_cons_self run among
  rw [← ended] at deployed
  have defined : "web" ∈ event.after.domains := by
    rw [deployed.1]
    exact List.mem_cons_self
  have clear : (oneDiskMachine "web").Clear [] [oneDiskMachine "web", oneDiskMachine "db"] :=
    clear_of_descending disjoint List.mem_cons_self (by decide +kernel)
  have files := files_of_defined (by decide) disjoint reachable List.mem_cons_self defined
  refine ⟨event.after, reachable, defined, List.forall_mem_cons.mpr ⟨?_, fun file member => ?_⟩⟩
  · exact ((files.1 0 Nat.one_pos).2 clear).2 deployed.2
  · exact (files.2 file member).2 clear

end VirtualLab
