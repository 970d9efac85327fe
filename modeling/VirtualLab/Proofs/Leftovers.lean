import VirtualLab.Proofs.MachineFiles
import VirtualLab.Proofs.Sites

/-!
# What is left of a machine

What bringing a machine up leaves at a site, however far it comes: directories on the way to the
machine's own, files that it boots from, and disks where there were none. Everything else is as it
was.
-/

namespace VirtualLab

open BootConfig

namespace FileSystem

/-! ## Two file systems, one ahead of the other -/

/-- What one of two file systems may hold where the other holds something else: a directory at a
stop; away from the stops, a loose file with any content or a file that was made. -/
inductive Lead (stops : List Location) (loose : Location → Prop) (made : Location → Bytes → Prop)
    (location : Location) : Option Entry → Option Entry → Prop
  | same {entry : Option Entry} : Lead stops loose made location entry entry
  | directory (stop : location ∈ stops) :
      Lead stops loose made location none (some .directory)
  | loose {earlier : Option Entry} {content : Bytes} (off : location ∉ stops)
      (isLoose : loose location) (free : earlier ≠ some .directory) :
      Lead stops loose made location earlier (some (.file content))
  | made {content : Bytes} (off : location ∉ stops) (isMade : made location content) :
      Lead stops loose made location none (some (.file content))

structure Ahead (stops : List Location) (loose : Location → Prop) (made : Location → Bytes → Prop)
    (behind ahead : FileSystem) : Prop where
  workingDirectory : ahead.workingDirectory = behind.workingDirectory
  lead : ∀ location, Lead stops loose made location (behind.get? location) (ahead.get? location)

variable {stops : List Location} {loose : Location → Prop} {made : Location → Bytes → Prop}
  {behind middle after ahead : FileSystem} {location : Location}

namespace Ahead

theorem refl (files : FileSystem) : Ahead stops loose made files files := ⟨rfl, fun _ => .same⟩

theorem keepsDirectories (isAhead : Ahead stops loose made behind ahead) :
    KeepsDirectories behind ahead := by
  refine ⟨isAhead.workingDirectory, fun location held => ?_⟩
  have lead := isAhead.lead location
  rw [held] at lead
  generalize ahead.get? location = there at lead
  cases lead with
  | same => rfl
  | loose _ _ free => exact absurd rfl free

theorem covers (isAhead : Ahead stops loose made behind ahead) : Covers behind ahead := by
  refine ⟨isAhead.keepsDirectories, fun location content held => ?_⟩
  have lead := isAhead.lead location
  rw [held] at lead
  generalize ahead.get? location = there at lead
  cases lead with
  | same => exact ⟨content, rfl⟩
  | loose => exact ⟨_, rfl⟩

theorem addDirectories (isAhead : Ahead stops loose made behind middle)
    (adds : AddsDirectories middle after)
    (within : ∀ location entry, middle.get? location = none → after.get? location = some entry →
      location ∈ stops) : Ahead stops loose made behind after := by
  refine ⟨adds.workingDirectory.trans isAhead.workingDirectory, fun location => ?_⟩
  have lead := isAhead.lead location
  cases held : middle.get? location with
  | some entry =>
      rw [held] at lead
      rwa [adds.kept location entry held]
  | none =>
      cases added : after.get? location with
      | none => rwa [held] at lead
      | some entry =>
          rw [held] at lead
          generalize behind.get? location = here at lead
          cases lead
          rw [adds.added location entry held added]
          exact .directory (within location entry held added)

theorem put {content : Bytes} (isAhead : Ahead stops loose made behind middle)
    (off : location ∉ stops) (free : middle.get? location ≠ some .directory)
    (allowed : loose location ∨ behind.get? location = none ∧ made location content) :
    Ahead stops loose made behind (middle.put location (.file content)) := by
  have below : location ≠ [] := fun root => free (root ▸ middle.get?_root)
  refine ⟨isAhead.workingDirectory, fun other => ?_⟩
  rw [get?_put below]
  split
  · rename_i same
    subst same
    rcases allowed with isLoose | ⟨absent, isMade⟩
    · exact .loose off isLoose fun held => free (isAhead.keepsDirectories.kept _ held)
    · rw [absent]
      exact .made off isMade
  · exact isAhead.lead other

end Ahead

end FileSystem

/-! ## Writing the files of a machine -/

namespace Machine

open FileSystem

variable {machine : Machine} {path : Path} {files after : FileSystem}

theorem Owns.passes (owns : machine.Owns path) (working : Location) :
    path.passes working = machine.workDirectory.stops working := by
  obtain ⟨file, isName, rfl⟩ := owns.eq_join
  exact Path.passes_join_of_isName working _ isName

theorem Owns.eq_of_place (owns : machine.Owns path) {other : Path} (otherOwns : machine.Owns other)
    {working : Location} (equal : path.place working = other.place working) : path = other := by
  obtain ⟨file, isName, rfl⟩ := owns.eq_join
  obtain ⟨otherFile, otherIsName, rfl⟩ := otherOwns.eq_join
  rw [Path.place_join_of_isName working _ isName,
    Path.place_join_of_isName working _ otherIsName] at equal
  rw [List.singleton_inj.mp (List.append_cancel_left equal)]

theorem Owns.names_ne_nil (owns : machine.Owns path) : path.names ≠ [] := by
  obtain ⟨file, isName, rfl⟩ := owns.eq_join
  rw [Path.names_join (Path.relative_of_plain isName.2.2.2), Path.names_of_isName isName]
  simp

theorem Owns.stops_parent (owns : machine.Owns path) {directory : Path}
    (above : path.parent = some directory) (working : Location) :
    directory.stops working = machine.workDirectory.stops working := by
  rw [Path.stops_parent above owns.names_ne_nil, owns.passes]

/-- The path means a file wherever the directories on the way are there. -/
structure MeansFile (path : Path) : Prop where
  followable : Followable path
  file : meansDirectory path = false

structure Writable (machine : Machine) (files : FileSystem) (path : Path) : Prop where
  means : MeansFile path
  settled : ∀ stop ∈ machine.workDirectory.stops files.workingDirectory,
    files.get? stop = some .directory
  free : files.get? (path.place files.workingDirectory) ≠ some .directory

theorem Writable.off (writable : machine.Writable files path) :
    path.place files.workingDirectory ∉ machine.workDirectory.stops files.workingDirectory :=
  fun stop => writable.free (writable.settled _ stop)

theorem Owns.write_eq_ok (owns : machine.Owns path) {content : Bytes} :
    files.write path content = .ok after ↔ machine.Writable files path ∧
      after = files.put (path.place files.workingDirectory) (.file content) := by
  constructor
  · intro written
    obtain ⟨location, _, found, free, rfl⟩ := modifyFile_eq_ok written
    obtain ⟨meansFile, located⟩ := fileLocation?_eq_some.mp found
    obtain ⟨followable, passed, rfl⟩ := locate_eq_ok.mp located
    rw [owns.passes] at passed
    exact ⟨⟨⟨followable, meansFile⟩, passed, free⟩, rfl⟩
  · rintro ⟨writable, rfl⟩
    have located : files.locate path = .ok (path.place files.workingDirectory) :=
      locate_eq_ok.mpr ⟨writable.means.followable, owns.passes _ ▸ writable.settled, rfl⟩
    have free := writable.free
    simp only [write, modifyFile, located, bind, Except.bind, writable.means.file]
    generalize files.get? (path.place files.workingDirectory) = entry at free
    cases entry with
    | none => rfl
    | some kind =>
        cases kind with
        | directory => exact absurd rfl free
        | file earlier => rfl

end Machine

/-! ## What one attempt leaves -/

namespace Site

open FileSystem

def BootPlace (machine : Machine) (working : Location) (location : Location) : Prop :=
  ∃ path ∈ (Bundle.inDirectory machine.workDirectory).paths,
    Machine.MeansFile path ∧ location = path.place working

/-- What may be at a site after attempts to bring the machine up: nothing but what is left of the
machine, and no other domains. -/
structure Strewn (machine : Machine) (made : Location → Bytes → Prop) (start now : Site) :
    Prop where
  ahead : Ahead (machine.workDirectory.stops start.files.workingDirectory)
    (BootPlace machine start.files.workingDirectory) made start.files now.files
  domains : now.domains = start.domains

structure Settled (machine : Machine) (site : Site) : Prop where
  followed : ∃ path, machine.Owns path ∧ Followable path
  made : ∀ stop ∈ machine.workDirectory.stops site.files.workingDirectory,
    site.files.get? stop = some .directory

variable {machine : Machine} {made : Location → Bytes → Prop} {craft : Craft}
  {start before after : Site} {request : Request} {answer : request.Answer}

theorem conduct_looks (looks : request.Looks)
    (conducted : conduct craft request before answer after) : after = before := by
  cases request with
  | pathExists | isFile | readFile =>
      rcases conducted with answered | impossible
      · exact congrArg Prod.snd answered
      · exact impossible.elim
  | _ => exact looks.elim

theorem Settled.of_keeps (settled : Settled machine before)
    (keeps : KeepsDirectories before.files after.files) : Settled machine after := by
  refine ⟨settled.followed, fun stop member => ?_⟩
  rw [keeps.workingDirectory] at member
  exact keeps.kept stop (settled.made stop member)

theorem adds_of_createDirectories {path : Path} {answer : Except FileError Unit}
    (conducted : conduct craft (.createDirectories path) before answer after) :
    after.domains = before.domains ∧ AddsDirectories before.files after.files ∧
      ∀ location entry, before.files.get? location = none →
        after.files.get? location = some entry →
          location ∈ path.stops before.files.workingDirectory := by
  rcases conducted with answered | ⟨_, domains, adds, within⟩
  · cases answered
    exact ⟨rfl, createDirectories_adds _ _, fun _ _ => added_of_createDirectoriesWithin⟩
  · exact ⟨domains, adds, within⟩

namespace Strewn

theorem createDirectories {path file : Path} {answer : Except FileError Unit}
    (strewn : Strewn machine made start before) (owns : machine.Owns file)
    (above : file.parent = some path)
    (conducted : conduct craft (.createDirectories path) before answer after) :
    Strewn machine made start after := by
  obtain ⟨domains, adds, within⟩ := adds_of_createDirectories conducted
  refine ⟨strewn.ahead.addDirectories adds fun location entry absent held => ?_,
    domains.trans strewn.domains⟩
  rw [← strewn.ahead.workingDirectory, ← owns.stops_parent above]
  exact within location entry absent held

theorem write {path : Path} {content : Bytes} {changed : FileSystem}
    (strewn : Strewn machine made start before) (owns : machine.Owns path)
    (allowed : Machine.MeansFile path →
      BootPlace machine start.files.workingDirectory (path.place start.files.workingDirectory) ∨
        start.files.get? (path.place start.files.workingDirectory) = none ∧
          made (path.place start.files.workingDirectory) content)
    (written : before.files.write path content = .ok changed) :
    Strewn machine made start { before with files := changed } := by
  obtain ⟨writable, rfl⟩ := owns.write_eq_ok.mp written
  have off := writable.off
  have free := writable.free
  rw [strewn.ahead.workingDirectory] at off free ⊢
  exact ⟨strewn.ahead.put off free (allowed writable.means), strewn.domains⟩

end Strewn

/-! ### Requests that write -/

def Wrote (path : Path) (content : Bytes) (before after : Site) : Prop :=
  ∃ changed, before.files.write path content = .ok changed ∧
    after = { before with files := changed }

theorem wrote_of_writeFile {path : Path} {content : Bytes} {answer : Except FileError Unit}
    (conducted : conduct craft (.writeFile path content) before answer after) :
    (answer = .ok () ∧ Wrote path content before after) ∨
      answer.isOk = false ∧ (after = before ∨ ∃ partly, Wrote path partly before after) := by
  rcases conducted with answered | ⟨failed, same | partly⟩
  · change (answer, after) = before.attempted (before.files.write path content) at answered
    cases written : before.files.write path content with
    | ok changed =>
        rw [written] at answered
        cases answered
        exact .inl ⟨rfl, changed, written, rfl⟩
    | error cause =>
        rw [written] at answered
        cases answered
        exact .inr ⟨rfl, .inl rfl⟩
  · exact .inr ⟨failed, .inl same⟩
  · exact .inr ⟨failed, .inr partly⟩

theorem wrote_of_crafted {tool : String} {arguments : List String} {path : Path} {content : Bytes}
    {answer : Except ToolFailure ToolOutput}
    (crafts : before.runTool craft tool arguments = before.crafted tool arguments path content)
    (conducted : conduct craft (.runTool tool arguments) before answer after) :
    (answer = .ok {} ∧ Wrote path content before after) ∨
      answer.isOk = false ∧ after = before := by
  rcases conducted with answered | ⟨failed, same⟩
  · change (answer, after) = before.runTool craft tool arguments at answered
    rw [crafts, crafted] at answered
    split at answered
    · rename_i changed written
      cases answered
      exact .inl ⟨rfl, changed, written, rfl⟩
    · cases answered
      exact .inr ⟨rfl, rfl⟩
  · exact .inr ⟨failed, same⟩

theorem runTool_disk (disk : VirtualDisk) (backing : Option Path) (site : Site) :
    site.runTool craft VirtualDisk.creationTool (disk.creationArguments backing) =
      site.crafted VirtualDisk.creationTool (disk.creationArguments backing) disk.path
        (craft.diskFrom site.files (disk.creationArguments backing)) := by
  rw [runTool, if_pos rfl]
  congr 1
  cases backing <;> simp [VirtualDisk.creationArguments]

theorem runTool_medium (bundle : Bundle) (site : Site) :
    site.runTool craft Bundle.packingTool bundle.packingArguments =
      site.crafted Bundle.packingTool bundle.packingArguments bundle.medium
        (craft.mediumFrom site.files bundle.packingArguments) := by
  rw [runTool, if_neg (by decide), if_pos rfl]
  rfl

theorem Wrote.keepsDirectories {path : Path} {content : Bytes}
    (wrote : Wrote path content before after) : KeepsDirectories before.files after.files := by
  obtain ⟨changed, written, rfl⟩ := wrote
  have keeps := modifyFile_keeps written fun _ => False
  exact ⟨keeps.workingDirectory, fun location => keeps.directory location id⟩

theorem stages_cases (stages : request.Stages machine)
    (conducted : conduct craft request before answer after) :
    (∃ path file, file ∈ (Bundle.inDirectory machine.workDirectory).paths ∧
        file.parent = some path ∧ request = .createDirectories path) ∨ after = before ∨
      ∃ file ∈ (Bundle.inDirectory machine.workDirectory).paths, ∃ content,
        Wrote file content before after := by
  cases request with
  | createDirectories path =>
      obtain ⟨file, member, above⟩ := stages
      exact .inl ⟨path, file, member, above, rfl⟩
  | writeFile path content =>
      rcases wrote_of_writeFile conducted with ⟨_, wrote⟩ | ⟨_, same | ⟨partly, wrote⟩⟩
      · exact .inr (.inr ⟨path, stages, content, wrote⟩)
      · exact .inr (.inl same)
      · exact .inr (.inr ⟨path, stages, partly, wrote⟩)
  | runTool tool arguments =>
      obtain ⟨rfl, rfl⟩ := stages
      rcases wrote_of_crafted (runTool_medium _ _) conducted with ⟨_, wrote⟩ | ⟨_, same⟩
      · exact .inr (.inr ⟨_, by simp [Bundle.paths], _, wrote⟩)
      · exact .inr (.inl same)
  | _ => exact stages.elim

theorem keepsDirectories_of_stages (stages : request.Stages machine)
    (conducted : conduct craft request before answer after) :
    KeepsDirectories before.files after.files := by
  rcases stages_cases stages conducted with
    ⟨path, _, _, _, rfl⟩ | rfl | ⟨file, _, content, wrote⟩
  · obtain ⟨_, adds, _⟩ := adds_of_createDirectories conducted
    exact ⟨adds.workingDirectory, fun location => adds.kept location _⟩
  · exact ⟨rfl, fun _ held => held⟩
  · exact wrote.keepsDirectories

theorem Strewn.stages (strewn : Strewn machine made start before)
    (stages : request.Stages machine) (conducted : conduct craft request before answer after) :
    Strewn machine made start after := by
  rcases stages_cases stages conducted with
    ⟨path, file, member, above, rfl⟩ | rfl | ⟨file, member, content, changed, written, rfl⟩
  · exact strewn.createDirectories (.boot member) above conducted
  · exact strewn
  · exact strewn.write (.boot member) (fun means => .inl ⟨file, member, means, rfl⟩) written

/-! ### Preparing a machine -/

structure Makes (machine : Machine) (made : Location → Bytes → Prop) (craft : Craft) (start : Site)
    (disk : VirtualDisk) (backing : Option Path) : Prop where
  found : ∀ content,
    start.files.get? (disk.path.place start.files.workingDirectory) = some (.file content) →
      start.files.pathExists disk.path = true
  made : Machine.MeansFile disk.path → ∀ now, Strewn machine made start now →
    made (disk.path.place start.files.workingDirectory)
      (craft.diskFrom now.files (disk.creationArguments backing))

section Creating

variable {disk : VirtualDisk} {backing : Option Path}

/-- Where a file can be written that was missing from the start, there was nothing at the start. -/
theorem Strewn.free {path : Path} (strewn : Strewn machine made start before)
    (writable : machine.Writable before.files path)
    (found : ∀ content,
      start.files.get? (path.place start.files.workingDirectory) = some (.file content) →
        start.files.pathExists path = true)
    (absent : start.files.pathExists path = false) :
    start.files.get? (path.place start.files.workingDirectory) = none := by
  have free := writable.free
  rw [strewn.ahead.workingDirectory] at free
  cases held : start.files.get? (path.place start.files.workingDirectory) with
  | none => rfl
  | some entry =>
      cases entry with
      | directory => exact absurd (strewn.ahead.keepsDirectories.kept _ held) free
      | file content =>
          rw [found content held] at absent
          cases absent

theorem Strewn.create {answer : Except ToolFailure ToolOutput}
    (strewn : Strewn machine made start before)
    (owns : machine.Owns disk.path) (makes : Makes machine made craft start disk backing)
    (absent : start.files.pathExists disk.path = false)
    (conducted : conduct craft (.runTool VirtualDisk.creationTool (disk.creationArguments backing))
      before answer after) : Strewn machine made start after := by
  rcases wrote_of_crafted (runTool_disk _ _ _) conducted with
    ⟨_, changed, written, rfl⟩ | ⟨_, rfl⟩
  · have free := strewn.free (owns.write_eq_ok.mp written).1 makes.found absent
    exact strewn.write owns (fun means => .inr ⟨free, makes.made means before strewn⟩) written
  · exact strewn

/-- A disk is made only where it was missing from the start. -/
theorem create_strews (owns : machine.Owns disk.path)
    (makes : Makes machine made craft start disk backing) :
    (disk.create backing).Secures (conduct craft) (Strewn machine made start)
      (Strewn machine made start) fun _ => Strewn machine made start := by
  let checked (present : Bool) (now : Site) : Prop :=
    Strewn machine made start now ∧ (present = false → start.files.pathExists disk.path = false)
  have toolRun : Attempt.Secures (conduct craft) (Strewn machine made start) (checked false)
      (Attempt.ask (ε := DiskFailure)
        (.runTool VirtualDisk.creationTool (disk.creationArguments backing)))
      fun _ => Strewn machine made start :=
    Attempt.secures_ask fun ⟨strewn, absent⟩ conducted =>
      have created := strewn.create owns makes (absent rfl) conducted
      ⟨created, created⟩
  have making : Attempt.Secures (conduct craft) (Strewn machine made start) (checked false)
      (Attempt.ask (ε := DiskFailure)
        (.runTool VirtualDisk.creationTool (disk.creationArguments backing)) >>= fun answer =>
          Attempt.orFail (.tool disk.path) answer >>= fun _ => pure ())
      fun _ => Strewn machine made start := by
    refine Attempt.secures_bind toolRun fun answer => ?_
    exact Attempt.secures_bind (Attempt.secures_orFail fun _ _ _ strewn => strewn) fun _ =>
      Attempt.secures_pure fun _ strewn => strewn
  have checking : Attempt.Secures (conduct craft) (Strewn machine made start)
      (Strewn machine made start) (Attempt.ask (ε := DiskFailure) (.pathExists disk.path))
      checked := by
    refine Attempt.secures_ask fun {now answer after} strewn conducted => ?_
    obtain answered | impossible := conducted
    · cases answered
      refine ⟨strewn, strewn, fun missing => Bool.eq_false_iff.mpr fun found => ?_⟩
      exact Bool.eq_false_iff.mp missing (strewn.ahead.covers.pathExists found)
    · exact impossible.elim
  refine Attempt.secures_bind checking fun present => ?_
  cases present with
  | true => exact Attempt.secures_pure fun _ holds => holds.1
  | false =>
      rw [if_neg Bool.false_ne_true]
      dsimp only
      split
      · rename_i directory above
        have opening : Attempt.Secures (conduct craft) (Strewn machine made start) (checked false)
            (Attempt.ask (ε := DiskFailure) (.createDirectories directory))
            fun _ => checked false :=
          Attempt.secures_ask fun ⟨strewn, absent⟩ conducted =>
            have opened := strewn.createDirectories owns above conducted
            ⟨opened, opened, absent⟩
        refine Attempt.secures_bind opening fun answer => ?_
        exact Attempt.secures_bind (Attempt.secures_orFail fun _ _ _ holds => holds) fun _ => making
      · exact making

end Creating

section Preparing

variable {lab : Lab} {image : Path}

theorem strewn_of_createAll {backing : VirtualDisk → Option Path} {disks : List VirtualDisk}
    (owns : ∀ disk ∈ disks, machine.Owns disk.path)
    (makes : ∀ disk ∈ disks, Makes machine made craft start disk (backing disk))
    {events : List (Event Site)} {failures : List DiskFailure}
    (strewn : Strewn machine made start before)
    (run : (VirtualDisk.createAll backing disks).Runs (conduct craft) before events failures
      after) :
    (∀ event ∈ events, Strewn machine made start event.after) ∧
      Strewn machine made start after := by
  induction disks generalizing before after events failures with
  | nil =>
      obtain ⟨rfl, _, rfl⟩ := Script.runs_pure.mp run
      exact ⟨by simp, strewn⟩
  | cons disk rest induction =>
      obtain ⟨ownsFirst, ownsRest⟩ := List.forall_mem_cons.mp owns
      obtain ⟨makesFirst, makesRest⟩ := List.forall_mem_cons.mp makes
      obtain ⟨_, early, middle, late, _, creates, createsRest, rfl, _⟩ :=
        Lab.runs_createAll_cons.mp run
      have secures := create_strews ownsFirst makesFirst
      have created := secures.final strewn strewn creates
      obtain ⟨laterStrewn, lastStrewn⟩ := induction ownsRest makesRest created createsRest
      exact ⟨List.forall_mem_append.mpr ⟨(secures.run strewn creates).1, laterStrewn⟩, lastStrewn⟩

theorem createDisks_strews
    (makes : ∀ disk ∈ VirtualDisk.ofMachine machine,
      Makes machine made craft start disk (Lab.backingFor image disk)) :
    (Lab.createDisks machine image).Secures (conduct craft) (Strewn machine made start)
      (Strewn machine made start) fun _ => Strewn machine made start := by
  have creating : Attempt.Secures (conduct craft) (Strewn machine made start)
      (Strewn machine made start) (ExceptT.lift (VirtualDisk.createAll (Lab.backingFor image)
        (VirtualDisk.ofMachine machine)) : LabTask (List DiskFailure))
      fun _ => Strewn machine made start := by
    constructor
    intro now events outcome final strewn run
    obtain ⟨failures, ran, rfl⟩ := Attempt.runs_lift.mp run
    obtain ⟨between, ended⟩ :=
      strewn_of_createAll (fun _ => Lab.owns_of_mem_ofMachine) makes strewn ran
    exact ⟨between, fun _ _ => ended⟩
  refine Attempt.secures_bind creating fun failures => ?_
  split
  · exact Attempt.secures_throw _
  · exact Attempt.secures_pure fun _ strewn => strewn

theorem eq_imagePath_of_requireTrusted {image : CloudImage} {events : List (Event Site)}
    {backing : Path}
    (run : image.requireTrusted.run.Runs (conduct craft) before events (.ok backing) after) :
    backing = image.imagePath := by
  obtain ⟨present, _, _, _, trusting, _⟩ := Attempt.runs_ask_bind.mp run
  split at trusting
  · obtain ⟨_, impossible, _⟩ := Attempt.runs_throw.mp trusting
    cases impossible
  · obtain ⟨trusted, _, _, _, _, ended, _⟩ := Attempt.runs_lift_bind.mp trusting
    split at ended
    · obtain ⟨_, impossible, _⟩ := Attempt.runs_throw.mp ended
      cases impossible
    · obtain ⟨_, equal, _⟩ := Attempt.runs_pure.mp ended
      exact Except.ok.inj equal

theorem settled_of_stageDocument {path : Path} {content : String} {events : List (Event Site)}
    (owns : machine.Owns path)
    (run : (Bundle.stageDocument path content).run.Runs (conduct craft) before events (.ok ())
      after) : Settled machine after := by
  have writing : ∀ {before events},
      (Attempt.ask (ε := LabError) (.writeFile path (Bytes.ofText content)) >>=
        Attempt.orFail (.staging path)).run.Runs (conduct craft) before events (.ok ()) after →
          Settled machine after := by
    intro before events ran
    obtain ⟨answer, middle, rest, conducted, ended, rfl⟩ := Attempt.runs_ask_bind.mp ran
    obtain ⟨_, succeeded, rfl⟩ := Attempt.runs_orFail.mp ended
    rcases wrote_of_writeFile conducted with ⟨_, wrote⟩ | ⟨failed, _⟩
    · have keeps := wrote.keepsDirectories
      obtain ⟨changed, written, rfl⟩ := wrote
      have writable := (owns.write_eq_ok.mp written).1
      have settled : Settled machine _ :=
        ⟨⟨path, owns, writable.means.followable⟩, writable.settled⟩
      exact settled.of_keeps keeps
    · cases answer with
      | ok value => cases failed
      | error cause => cases succeeded
  unfold Bundle.stageDocument at run
  split at run
  · obtain ⟨_, _, _, _, made, _⟩ := Attempt.runs_ask_bind.mp run
    obtain ⟨_, _, _, _, _, rest, _⟩ := Attempt.runs_bind_ok.mp made
    exact writing rest
  · exact writing run

theorem secures_of_looks {ε α : Type} {attempt : Attempt ε α} {kept : Site → Prop}
    (looks : attempt.Confined Request.Looks fun _ => True) :
    attempt.Secures (conduct craft) kept kept fun _ => kept :=
  looks.secures (fun looking conducted holds => by rwa [conduct_looks looking conducted])
    fun _ => id

theorem secures_of_stages {ε α : Type} {attempt : Attempt ε α}
    (stages : attempt.Confined (Request.Stages machine) fun _ => True) :
    attempt.Secures (conduct craft) (Strewn machine made start) (Strewn machine made start)
      fun _ => Strewn machine made start :=
  stages.secures (fun staging conducted strewn => strewn.stages staging conducted) fun _ => id

def Prepared (machine : Machine) (made : Location → Bytes → Prop) (start now : Site) : Prop :=
  Settled machine now ∧ Strewn machine made start now

theorem prepared_of_stages {ε α : Type} {attempt : Attempt ε α}
    (stages : attempt.Confined (Request.Stages machine) fun _ => True) :
    attempt.Secures (conduct craft) (Strewn machine made start) (Prepared machine made start)
      fun _ => Prepared machine made start :=
  stages.secures (fun staging conducted ⟨settled, strewn⟩ =>
    ⟨settled.of_keeps (keepsDirectories_of_stages staging conducted),
      strewn.stages staging conducted⟩) fun _ => And.right

theorem stage_strews (documents : Documents) :
    ((Bundle.inDirectory machine.workDirectory).stage documents).Secures (conduct craft)
      (Strewn machine made start) (Strewn machine made start)
      fun _ => Prepared machine made start := by
  have stages : ∀ {path} content, path ∈ (Bundle.inDirectory machine.workDirectory).paths →
      (Bundle.stageDocument path content).Confined (Request.Stages machine) fun _ => True :=
    fun content member => Lab.stageDocument_stages member content
  have first : ∀ {path} content, path ∈ (Bundle.inDirectory machine.workDirectory).paths →
      (Bundle.stageDocument path content).Secures (conduct craft) (Strewn machine made start)
        (Strewn machine made start) fun _ => Prepared machine made start :=
    fun content member => (secures_of_stages (stages content member)).also
      (settled_of_stageDocument (.boot member))
  refine Attempt.secures_bind (first _ (by simp [Bundle.paths])) fun _ => ?_
  refine Attempt.secures_bind (prepared_of_stages (stages _ (by simp [Bundle.paths]))) fun _ => ?_
  exact prepared_of_stages (stages _ (by simp [Bundle.paths]))

/-- However far the preparation of a machine comes, it leaves nothing else; and if it succeeds, the
way to the machine's files is made. -/
theorem prepare_strews
    (makes : ∀ image, lab.imageFor machine = .ok image → ∀ disk ∈ VirtualDisk.ofMachine machine,
      Makes machine made craft start disk (Lab.backingFor image.imagePath disk)) :
    (lab.prepare machine).Secures (conduct craft) (Strewn machine made start)
      (Strewn machine made start) fun _ => Prepared machine made start := by
  unfold Lab.prepare
  refine Attempt.secures_bind (Attempt.secures_orFail fun image now found strewn =>
    (⟨found, strewn⟩ : lab.imageFor machine = .ok image ∧ Strewn machine made start now))
    fun image => Attempt.secures_of_fact fun found => ?_
  refine Attempt.secures_bind ((secures_of_looks (Lab.requireTrusted_looks image)).also
    eq_imagePath_of_requireTrusted) fun backing => Attempt.secures_of_fact fun same => ?_
  subst same
  refine Attempt.secures_bind (createDisks_strews (makes image found)) fun _ => ?_
  refine Attempt.secures_bind (secures_of_looks (Lab.render_looks _ _ _ _)) fun documents => ?_
  refine Attempt.secures_bind (stage_strews documents) fun _ => ?_
  refine Attempt.secures_bind (prepared_of_stages
    (Attempt.confined_mapError Lab.package_stages fun _ => trivial)) fun _ => ?_
  exact Attempt.secures_pure fun _ prepared => prepared

/-! ### Bringing a machine up -/

def deploying (craft : Craft) (machine : Machine) (site : Site) : Site :=
  { site with domains := (machine.vmName, ⟨craft.running, []⟩) :: site.domains }

theorem runTool_install (install : InstallRequest) (site : Site) :
    site.runTool craft InstallRequest.installationTool install.arguments =
      match site.guest? install.name with
      | some _ => (.error (.failed InstallRequest.installationTool install.arguments 1
          "already defined"), site)
      | none =>
        (.ok {}, { site with domains := (install.name, ⟨craft.running, []⟩) :: site.domains }) := by
  rw [runTool, if_neg (by decide), if_neg (by decide), if_pos rfl]
  rfl

theorem deploying_of_install {install : InstallRequest} {events : List (Event Site)}
    {outcome : Except ToolFailure Unit} (own : install.name = machine.vmName)
    (run : install.install.run.Runs (conduct craft) before events outcome after) :
    (outcome = .ok () ∧ before.guest? machine.vmName = none ∧
        after = deploying craft machine before) ∨
      ∃ failure, outcome = .error failure ∧ after = before := by
  obtain ⟨answer, middle, rest, conducted, ended, rfl⟩ := Attempt.runs_ask_bind.mp run
  have done : (∃ failure, answer = .error failure ∧ outcome = .error failure ∧ after = middle) ∨
      (∃ output, answer = .ok output) ∧ outcome = .ok () ∧ after = middle := by
    rcases Attempt.runs_orFail_bind.mp ended with
      ⟨failure, failed, _, rfl, rfl⟩ | ⟨output, succeeded, last⟩
    · exact .inl ⟨failure, failed, rfl, rfl⟩
    · obtain ⟨_, rfl, rfl⟩ := Attempt.runs_pure.mp last
      exact .inr ⟨⟨output, succeeded⟩, rfl, rfl⟩
  rcases conducted with answered | ⟨failed, rfl⟩
  · change (answer, middle) = before.runTool craft _ _ at answered
    rw [runTool_install, own] at answered
    split at answered
    · cases answered
      rcases done with ⟨failure, _, rfl, rfl⟩ | ⟨⟨_, impossible⟩, _⟩
      · exact .inr ⟨failure, rfl, rfl⟩
      · cases impossible
    · rename_i absent
      cases answered
      rcases done with ⟨_, impossible, _⟩ | ⟨_, rfl, rfl⟩
      · cases impossible
      · exact .inl ⟨rfl, absent, rfl⟩
  · rcases done with ⟨failure, _, rfl, rfl⟩ | ⟨⟨_, rfl⟩, _⟩
    · exact .inr ⟨failure, rfl, rfl⟩
    · cases failed

/-- Creating a machine defines its domain, or fails and leaves nothing but what is left of it. -/
theorem deploying_or_strewn {events : List (Event Site)} {outcome : Except LabError Unit}
    {final : Site}
    (makes : ∀ image, lab.imageFor machine = .ok image → ∀ disk ∈ VirtualDisk.ofMachine machine,
      Makes machine made craft start disk (Lab.backingFor image.imagePath disk))
    (run : (lab.deploy machine).run.Runs (conduct craft) start events outcome final) :
    (outcome = .ok () ∧ ∃ prepared, Prepared machine made start prepared ∧
        prepared.guest? machine.vmName = none ∧ final = deploying craft machine prepared) ∨
      (∃ failure, outcome = .error failure) ∧ Strewn machine made start final := by
  have began : Strewn machine made start start := ⟨.refl _, rfl⟩
  rw [Lab.deploy_eq_prepare] at run
  rcases Attempt.runs_bind.mp run with
    ⟨failure, failed, rfl⟩ | ⟨image, early, prepared, late, ran, installs, rfl⟩
  · exact .inr ⟨⟨failure, rfl⟩, (prepare_strews makes).final began began failed⟩
  · have isPrepared := ((prepare_strews makes).run began ran).2 image rfl
    obtain ⟨result, installed, rfl⟩ := Attempt.runs_mapError.mp installs
    rcases deploying_of_install rfl installed with ⟨rfl, absent, rfl⟩ | ⟨failure, rfl, rfl⟩
    · exact .inl ⟨rfl, prepared, isPrepared, absent, rfl⟩
    · exact .inr ⟨⟨_, rfl⟩, isPrepared.2⟩

theorem up_cases {events : List (Event Site)} {outcome : Except LabError UpOutcome} {final : Site}
    (run : (lab.up machine).run.Runs (conduct craft) start events outcome final) :
    (∃ guest late, start.guest? machine.vmName = some guest ∧
        (Lab.powerOn machine guest.status).run.Runs (conduct craft) start late outcome final) ∨
      start.guest? machine.vmName = none ∧ ∃ late result,
        (lab.deploy machine).run.Runs (conduct craft) start late result final ∧
          outcome = result.map fun _ => .deployed := by
  rw [Lab.up_eq_powerOn] at run
  rcases Attempt.runs_bind.mp run with
    ⟨failure, failed, _⟩ | ⟨found, _, now, late, looked, rest, _⟩
  · obtain ⟨impossible, _⟩ := runs_lookup failed
    cases impossible
  · obtain ⟨equal, rfl⟩ := runs_lookup looked
    cases equal
    cases known : now.guest? machine.vmName with
    | some guest =>
        rw [known] at rest
        exact .inl ⟨guest, late, rfl, rest⟩
    | none =>
        rw [known] at rest
        obtain ⟨result, deploys, rfl⟩ := Attempt.runs_bind_pure.mp rest
        exact .inr ⟨rfl, late, result, deploys, rfl⟩

end Preparing

end Site

end VirtualLab
