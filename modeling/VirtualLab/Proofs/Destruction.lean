import VirtualLab.Proofs.Acquisition
import VirtualLab.Proofs.Directories
import VirtualLab.Proofs.DomainFiles

/-!
# The course of a removal

Destroying a machine, in surroundings whose hypervisor answers every call as it likes and whose
files may refuse to be removed. A run takes one of few courses: what it asks is listed for each, and
only the last one touches files.
-/

namespace VirtualLab

open BootConfig Hypervisor

namespace FileSystem

/-! ## Files that are gone -/

structure Sheds (paths : List Path) (before after : FileSystem) : Prop where
  workingDirectory : after.workingDirectory = before.workingDirectory
  get? : ∀ location, after.get? location = before.get? location ∨
    after.get? location = none ∧ (∃ content, before.get? location = some (.file content)) ∧
      ∃ path ∈ paths, location = path.place before.workingDirectory

namespace Sheds

variable {paths : List Path} {before middle after : FileSystem}

theorem refl (paths : List Path) (files : FileSystem) : Sheds paths files files :=
  ⟨rfl, fun _ => .inl rfl⟩

theorem trans (first : Sheds paths before middle) (second : Sheds paths middle after) :
    Sheds paths before after := by
  refine ⟨second.workingDirectory.trans first.workingDirectory, fun location => ?_⟩
  rcases second.get? location with same | ⟨gone, ⟨content, held⟩, path, member, place⟩
  · rw [same]
    exact first.get? location
  · rcases first.get? location with same | ⟨already, _⟩
    · rw [same] at held
      rw [first.workingDirectory] at place
      exact .inr ⟨gone, ⟨content, held⟩, path, member, place⟩
    · rw [already] at held
      cases held

end Sheds

variable {files after : FileSystem} {path : Path}

theorem sheds_of_removeFile {paths : List Path} (removed : files.removeFile path = .ok after)
    (member : path ∈ paths) : Sheds paths files after := by
  obtain ⟨location, content, found, held, rfl⟩ := removeFile_eq_ok removed
  refine ⟨rfl, fun other => ?_⟩
  by_cases same : other = location
  · subst same
    have below : other ≠ [] := by
      rintro rfl
      simp at held
    rw [get?_erase below, if_pos rfl]
    have place := locate_eq_place (fileLocation?_eq_some.mp found).2
    exact .inr ⟨rfl, ⟨content, held⟩, path, member, place⟩
  · exact .inl (get?_erase_of_ne files same)

/-! ## Surroundings in which a machine is removed -/

/-- Looking for something and removing it may fail for reasons that the files do not show. -/
def Refuses : Conduct FileSystem
  | .pathExists _, before, answer, after => answer = false ∧ after = before
  | .removeFile _, before, answer, after => answer.isOk = false ∧ after = before
  | .removeDirectory _, before, answer, after => answer.isOk = false ∧ after = before
  | _, _, _, _ => False

/-- Surroundings with these files, some of which may refuse to be removed. The hypervisor answers
anything. -/
def removalConduct (tool : SignatureToolConduct) : Conduct FileSystem :=
  fun request before answer after =>
    conduct tool request before answer after ∨ Refuses request before answer after

end FileSystem

namespace Lab

open FileSystem

variable {tool : SignatureToolConduct} {start final : FileSystem} {events : List (Event FileSystem)}
  {machine : Machine} {domain : String}

def called (files : FileSystem) (call : Call) (answer : Except LabError call.Value) :
    Event FileSystem := ⟨files, .hypervisor call, answer, files⟩

theorem runs_perform {call : Call} {outcome : Except LabError call.Value}
    (run : (perform call).run.Runs (removalConduct tool) start events outcome final) :
    events = [called start call outcome] ∧ final = start := by
  obtain ⟨conducted, rfl⟩ := runs_perform_iff.mp run
  have kept : final = start := conducted.resolve_right id
  subst kept
  exact ⟨rfl, rfl⟩

/-! ### Reading the state of a domain -/

inductive LookedUp (files : FileSystem) (domain : String) :
    List (Event FileSystem) → Except LabError (Option DomainStatus) → Prop
  | unlisted {failure : LabError} :
      LookedUp files domain [called files .domains (.error failure)] (.error failure)
  | absent {domains : List String} (absent : domain ∉ domains) :
      LookedUp files domain [called files .domains (.ok domains)] (.ok none)
  | unread {domains : List String} {failure : LabError} (listed : domain ∈ domains) :
      LookedUp files domain
        [called files .domains (.ok domains), called files (.status domain) (.error failure)]
        (.error failure)
  | read {domains : List String} {status : DomainStatus} (listed : domain ∈ domains) :
      LookedUp files domain
        [called files .domains (.ok domains), called files (.status domain) (.ok status)]
        (.ok (some status))

theorem lookedUp_of_lookup {outcome : Except LabError (Option DomainStatus)}
    (run : (lookup domain).run.Runs (removalConduct tool) start events outcome final) :
    LookedUp start domain events outcome ∧ final = start := by
  rcases Attempt.runs_bind.mp run with
    ⟨failure, failed, rfl⟩ | ⟨domains, _, _, _, listed, rest, rfl⟩
  · obtain ⟨rfl, rfl⟩ := runs_perform failed
    exact ⟨.unlisted, rfl⟩
  · obtain ⟨rfl, rfl⟩ := runs_perform listed
    split at rest
    · rename_i member
      rcases Attempt.runs_bind.mp rest with
        ⟨failure, failed, rfl⟩ | ⟨status, _, _, _, read, ended, rfl⟩
      · obtain ⟨rfl, rfl⟩ := runs_perform failed
        exact ⟨.unread member, rfl⟩
      · obtain ⟨rfl, rfl⟩ := runs_perform read
        obtain ⟨rfl, rfl, rfl⟩ := Attempt.runs_pure.mp ended
        exact ⟨.read member, rfl⟩
    · rename_i missing
      obtain ⟨rfl, rfl, rfl⟩ := Attempt.runs_pure.mp rest
      exact ⟨.absent missing, rfl⟩

theorem lookedUp_of_require {outcome : Except LabError DomainStatus}
    (run : (require domain).run.Runs (removalConduct tool) start events outcome final) :
    final = start ∧ ∃ found, LookedUp start domain events found ∧
      ∀ status, outcome = .ok status → found = .ok (some status) := by
  rcases Attempt.runs_bind.mp run with ⟨failure, failed, rfl⟩ | ⟨found, _, _, _, looked, rest, rfl⟩
  · obtain ⟨looked, rfl⟩ := lookedUp_of_lookup failed
    exact ⟨rfl, _, looked, fun _ impossible => nomatch impossible⟩
  · obtain ⟨looked, rfl⟩ := lookedUp_of_lookup looked
    cases found with
    | none =>
        obtain ⟨rfl, rfl, rfl⟩ := Attempt.runs_throw.mp rest
        exact ⟨rfl, _, by simpa using looked, fun _ impossible => nomatch impossible⟩
    | some status =>
        obtain ⟨rfl, rfl, rfl⟩ := Attempt.runs_pure.mp rest
        exact ⟨rfl, _, by simpa using looked, fun _ equal => by cases equal; rfl⟩

/-! ### Switching a domain off -/

/-- What forcing a domain off asks. A stop is followed by a look at the state, and nothing but a
state that is off is a success. -/
inductive ForcedOff (files : FileSystem) (domain : String) :
    List (Event FileSystem) → Except LabError Unit → Prop
  | unstopped {failure : LabError} :
      ForcedOff files domain [called files (.stop domain) (.error failure)] (.error failure)
  | unsettled {read : List (Event FileSystem)} {found : Except LabError (Option DomainStatus)}
      {failure : LabError} (looked : LookedUp files domain read found) :
      ForcedOff files domain (called files (.stop domain) (.ok ()) :: read) (.error failure)
  | off {read : List (Event FileSystem)} {status : DomainStatus}
      (looked : LookedUp files domain read (.ok (some status)))
      (inactive : status.state.isActive = false) :
      ForcedOff files domain (called files (.stop domain) (.ok ()) :: read) (.ok ())

theorem forcedOff_of_forceOff {outcome : Except LabError Unit}
    (run : (forceOff domain).run.Runs (removalConduct tool) start events outcome final) :
    ForcedOff start domain events outcome ∧ final = start := by
  rcases Attempt.runs_bind.mp run with ⟨failure, failed, rfl⟩ | ⟨_, _, _, _, stopped, rest, rfl⟩
  · obtain ⟨rfl, rfl⟩ := runs_perform failed
    exact ⟨.unstopped, rfl⟩
  · obtain ⟨rfl, rfl⟩ := runs_perform stopped
    rcases Attempt.runs_bind.mp rest with
      ⟨failure, failed, rfl⟩ | ⟨status, _, _, _, read, ended, rfl⟩
    · obtain ⟨rfl, found, looked, _⟩ := lookedUp_of_require failed
      exact ⟨.unsettled looked, rfl⟩
    · obtain ⟨rfl, found, looked, known⟩ := lookedUp_of_require read
      rw [known status rfl] at looked
      split at ended
      · obtain ⟨rfl, rfl, rfl⟩ := Attempt.runs_throw.mp ended
        exact ⟨.unsettled (by simpa using looked), rfl⟩
      · rename_i inactive
        obtain ⟨rfl, rfl, rfl⟩ := Attempt.runs_pure.mp ended
        exact ⟨.off (by simpa using looked) (by simpa using inactive), rfl⟩

/-! ### Deleting snapshots -/

abbrev Deletion := String × Except LabError Unit

def Deletion.event (files : FileSystem) (domain : String) (deletion : Deletion) :
    Event FileSystem := called files (.deleteSnapshot domain deletion.1) deletion.2

def undeleted (deletions : List Deletion) : List String :=
  (deletions.filter (!·.2.isOk)).map (·.1)

theorem runs_deleteSnapshots {snapshots : List String} {outcome : Except LabError (List String)}
    (run : (deleteSnapshots domain snapshots).run.Runs (removalConduct tool) start events outcome
      final) :
    final = start ∧ ∃ deletions : List Deletion, deletions.map (·.1) = snapshots ∧
      events = deletions.map (Deletion.event start domain) ∧
        outcome = .ok (undeleted deletions) := by
  induction snapshots generalizing events outcome final with
  | nil =>
      obtain ⟨rfl, rfl, rfl⟩ := Attempt.runs_pure.mp run
      exact ⟨rfl, [], rfl, rfl, rfl⟩
  | cons snapshot rest induction =>
      obtain ⟨answer, _, _, _, asked, following, rfl⟩ := Attempt.runs_lift_bind.mp run
      obtain ⟨rfl, rfl⟩ := runs_perform asked
      rcases Attempt.runs_bind.mp following with
        ⟨_, failed, rfl⟩ | ⟨left, _, _, _, others, ended, rfl⟩
      · obtain ⟨_, _, _, _, impossible⟩ := induction failed
        cases impossible
      · obtain ⟨rfl, deletions, rfl, rfl, equal⟩ := induction others
        cases equal
        cases answer with
        | ok value =>
            obtain ⟨rfl, rfl, rfl⟩ := Attempt.runs_pure.mp ended
            exact ⟨rfl, (snapshot, .ok ()) :: deletions, rfl, by simp [Deletion.event], rfl⟩
        | error failure =>
            obtain ⟨rfl, rfl, rfl⟩ := Attempt.runs_pure.mp ended
            exact ⟨rfl, (snapshot, .error failure) :: deletions, rfl, by simp [Deletion.event], rfl⟩

theorem deletions_of_undeleted_nil {deletions : List Deletion} (none : undeleted deletions = []) :
    deletions.map (Deletion.event start domain) = (deletions.map (·.1)).map fun snapshot =>
      called start (.deleteSnapshot domain snapshot) (.ok ()) := by
  rw [List.map_map]
  refine List.map_congr_left fun deletion member => ?_
  have deleted : deletion.2.isOk = true := by
    have all := List.filter_eq_nil_iff.mp (List.map_eq_nil_iff.mp none) deletion member
    simpa using all
  obtain ⟨snapshot, answer⟩ := deletion
  cases answer with
  | ok value => rfl
  | error failure => cases deleted

/-! ### Removing the files -/

variable {paths : List Path}

def ShedsAt (paths : List Path) : Request → Prop
  | .pathExists _ => True
  | .removeFile path => path ∈ paths
  | _ => False

theorem sheds_of_conducted {request : Request} {before after : FileSystem}
    {answer : request.Answer} (allowed : ShedsAt paths request)
    (conducted : removalConduct tool request before answer after) : Sheds paths before after := by
  cases request with
  | pathExists path =>
      obtain ⟨_, rfl⟩ | ⟨_, rfl⟩ := conducted <;> exact .refl _ _
  | removeFile path =>
      rcases conducted with applies | ⟨_, rfl⟩
      · obtain ⟨removed, _⟩ | ⟨_, _, _, rfl⟩ := Applies.changed_or_failed applies
        · exact sheds_of_removeFile removed allowed
        · exact .refl _ _
      · exact .refl _ _
  | _ => exact allowed.elim

theorem sheds_of_runs {α : Type} {script : Script α} {value : α}
    (confined : script.Confined (ShedsAt paths) fun _ => True)
    (run : script.Runs (removalConduct tool) start events value final) :
    Sheds paths start final :=
  run.related (Sheds.refl paths) Sheds.trans fun event member =>
    sheds_of_conducted (run.request_of_confined confined event member) (run.conducted event member)

theorem deleteDisks_shedsAt {disks : List VirtualDisk}
    (among : ∀ disk ∈ disks, disk.path ∈ paths) :
    (VirtualDisk.deleteAll disks).Confined (ShedsAt paths) fun _ => True := by
  induction disks with
  | nil => trivial
  | cons disk rest induction =>
      obtain ⟨member, others⟩ := List.forall_mem_cons.mp among
      have deletes : disk.delete.Confined (ShedsAt paths) fun _ => True := by
        refine ⟨trivial, fun present => ?_⟩
        cases present
        · trivial
        · exact ⟨member, fun _ => trivial⟩
      exact deletes.bind fun _ _ => induction others

theorem deletePaths_shedsAt {listed : List Path} (among : ∀ path ∈ listed, path ∈ paths) :
    (Bundle.deleteAll listed).Confined (ShedsAt paths) fun _ => True := by
  induction listed with
  | nil => trivial
  | cons path rest induction =>
      obtain ⟨member, others⟩ := List.forall_mem_cons.mp among
      refine ⟨trivial, fun present => ?_⟩
      cases present
      · exact induction others
      · exact ⟨member, fun _ => induction others⟩

/-- Of all that was there, only files of the machine are gone, and its directory if that was then
empty. -/
structure Removed (machine : Machine) (before after : FileSystem) : Prop where
  get? : ∀ location, after.get? location = before.get? location ∨
    after.get? location = none ∧
      ((∃ content, before.get? location = some (.file content)) ∧
          (∃ path ∈ machine.files, location = path.place before.workingDirectory) ∨
        before.get? location = some .directory ∧
          location = machine.workDirectory.place before.workingDirectory ∧
          ∀ name, after.get? (location ++ [name]) = none)

theorem removed_of_sheds (sheds : Sheds machine.files start final) : Removed machine start final :=
  ⟨fun location => (sheds.get? location).imp_right fun ⟨gone, was⟩ => ⟨gone, .inl was⟩⟩

theorem removed_of_removeDirectory {middle : FileSystem} (sheds : Sheds machine.files start middle)
    (removed : middle.removeDirectory machine.workDirectory = .ok final) :
    Removed machine start final := by
  obtain ⟨location, located, held, _, free, _, rfl⟩ := removeDirectory_eq_ok.mp removed
  refine ⟨fun other => ?_⟩
  by_cases same : other = location
  · subst same
    by_cases root : other = []
    · left
      simp [root]
    · right
      rw [get?_erase root, if_pos rfl]
      refine ⟨rfl, .inr ⟨?_, ?_, fun name => ?_⟩⟩
      · rcases sheds.get? other with kept | ⟨gone, _⟩
        · rw [← kept, held]
        · rw [gone] at held
          cases held
      · rw [← sheds.workingDirectory]
        exact locate_eq_place located
      · rw [get?_erase_of_ne middle (by simp)]
        by_contra occupied
        have inside := isOccupied_iff.mpr ⟨name, Option.isSome_iff_ne_none.mpr occupied⟩
        rw [free] at inside
        cases inside
  · rw [get?_erase_of_ne middle same]
    exact (sheds.get? other).imp_right fun ⟨gone, was⟩ => ⟨gone, .inl was⟩

theorem removed_of_removeFiles {gone : Bool}
    (run : (removeFiles machine).Runs (removalConduct tool) start events gone final) :
    Removed machine start final := by
  obtain ⟨_, _, disksGone, _, disksRun, following, _⟩ := Script.runs_bind.mp run
  obtain ⟨_, _, bootGone, _, bootRun, removing, _⟩ := Script.runs_bind.mp following
  have disks : Sheds machine.files start disksGone :=
    sheds_of_runs (deleteDisks_shedsAt fun disk member =>
      List.mem_append_left _ (List.mem_map_of_mem member)) disksRun
  have boot : Sheds machine.files disksGone bootGone :=
    sheds_of_runs (deletePaths_shedsAt fun path member =>
      List.mem_append_right _ member) bootRun
  obtain ⟨answer, last, _, conducted, ended, _⟩ := Script.runs_ask.mp removing
  have kept : final = last := by
    cases answer <;> exact (Script.runs_pure.mp ended).2.2
  subst kept
  rcases conducted with applies | ⟨_, rfl⟩
  · obtain ⟨removed, _⟩ | ⟨_, _, _, rfl⟩ := Applies.changed_or_failed applies
    · exact removed_of_removeDirectory (disks.trans boot) removed
    · exact removed_of_sheds (disks.trans boot)
  · exact removed_of_sheds (disks.trans boot)

/-! ### The course of a removal

A domain is found to be off, at once or after it was forced off. Then its snapshots, its definition
and its files are removed, each only after all that comes before.
-/

/-- The domain was found to be off, by the state that was read last. -/
inductive FoundOff (files : FileSystem) (domain : String) : List (Event FileSystem) → Prop
  | already {read : List (Event FileSystem)} {status : DomainStatus}
      (looked : LookedUp files domain read (.ok (some status)))
      (inactive : status.state.isActive = false) : FoundOff files domain read
  | forced {read forcing : List (Event FileSystem)} {status : DomainStatus}
      (looked : LookedUp files domain read (.ok (some status)))
      (forced : ForcedOff files domain forcing (.ok ())) : FoundOff files domain (read ++ forcing)

def emptying (files : FileSystem) (domain : String) (deletions : List Deletion) :
    List (Event FileSystem) :=
  called files (.snapshots domain) (.ok (deletions.map (·.1))) ::
    deletions.map (Deletion.event files domain)

inductive DomainRemoved (tool : SignatureToolConduct) (machine : Machine) (start : FileSystem) :
    List (Event FileSystem) → Except LabError DestroyOutcome → FileSystem → Prop
  | unlisted {failure : LabError} :
      DomainRemoved tool machine start
        [called start (.snapshots machine.vmName) (.error failure)] (.error failure) start
  | snapshotsLeft {deletions : List Deletion} (left : undeleted deletions ≠ []) :
      DomainRemoved tool machine start (emptying start machine.vmName deletions)
        (.error (.hypervisor "snapshot-delete" machine.vmName
          (.snapshotsLeft (undeleted deletions)))) start
  | stillDefined {deletions : List Deletion} {failure : LabError}
      (deleted : undeleted deletions = []) :
      DomainRemoved tool machine start
        (emptying start machine.vmName deletions ++
          [called start (.undefine machine.vmName) (.error failure)]) (.error failure) start
  | removed {deletions : List Deletion} {removing : List (Event FileSystem)} {gone : Bool}
      {final : FileSystem} (deleted : undeleted deletions = [])
      (run : (removeFiles machine).Runs (removalConduct tool) start removing gone final) :
      DomainRemoved tool machine start
        (emptying start machine.vmName deletions ++
          called start (.undefine machine.vmName) (.ok ()) :: removing)
        (.ok (.destroyed deletions.length gone)) final

inductive Destruction (tool : SignatureToolConduct) (machine : Machine) (start : FileSystem) :
    List (Event FileSystem) → Except LabError DestroyOutcome → FileSystem → Prop
  | unread {read : List (Event FileSystem)} {failure : LabError}
      (looked : LookedUp start machine.vmName read (.error failure)) :
      Destruction tool machine start read (.error failure) start
  | absent {read : List (Event FileSystem)}
      (looked : LookedUp start machine.vmName read (.ok none)) :
      Destruction tool machine start read (.ok .notDeployed) start
  | stillOn {read forcing : List (Event FileSystem)} {status : DomainStatus} {failure : LabError}
      (looked : LookedUp start machine.vmName read (.ok (some status)))
      (forced : ForcedOff start machine.vmName forcing (.error failure)) :
      Destruction tool machine start (read ++ forcing) (.error failure) start
  | off {settling rest : List (Event FileSystem)} {outcome : Except LabError DestroyOutcome}
      {final : FileSystem} (off : FoundOff start machine.vmName settling)
      (removed : DomainRemoved tool machine start rest outcome final) :
      Destruction tool machine start (settling ++ rest) outcome final

variable {outcome : Except LabError DestroyOutcome}

theorem domainRemoved_of_removeDomain
    (run : (removeDomain machine).run.Runs (removalConduct tool) start events outcome final) :
    DomainRemoved tool machine start events outcome final := by
  rcases Attempt.runs_bind.mp run with
    ⟨failure, failed, rfl⟩ | ⟨snapshots, _, _, _, listed, deleting, rfl⟩
  · obtain ⟨rfl, rfl⟩ := runs_perform failed
    exact .unlisted
  · obtain ⟨rfl, rfl⟩ := runs_perform listed
    rcases Attempt.runs_bind.mp deleting with
      ⟨failure, failed, rfl⟩ | ⟨left, _, _, _, deleted, rest, rfl⟩
    · obtain ⟨_, _, _, _, impossible⟩ := runs_deleteSnapshots failed
      cases impossible
    · obtain ⟨rfl, deletions, rfl, rfl, equal⟩ := runs_deleteSnapshots deleted
      cases equal
      split at rest
      · rename_i some
        obtain ⟨rfl, rfl, rfl⟩ := Attempt.runs_throw.mp rest
        have left : undeleted deletions ≠ [] := by simpa using some
        simpa [emptying] using DomainRemoved.snapshotsLeft left
      · rename_i none
        have allDeleted : undeleted deletions = [] := by simpa using none
        rcases Attempt.runs_bind.mp rest with
          ⟨failure, failed, rfl⟩ | ⟨_, _, _, _, undefined, removing, rfl⟩
        · obtain ⟨rfl, rfl⟩ := runs_perform failed
          exact .stillDefined allDeleted
        · obtain ⟨rfl, rfl⟩ := runs_perform undefined
          obtain ⟨gone, early, _, late, removes, ended, rfl⟩ := Attempt.runs_lift_bind.mp removing
          obtain ⟨rfl, rfl, rfl⟩ := Attempt.runs_pure.mp ended
          simpa [emptying] using DomainRemoved.removed allDeleted removes

theorem destruction_of_destroy
    (run : (destroy machine).run.Runs (removalConduct tool) start events outcome final) :
    Destruction tool machine start events outcome final := by
  rw [destroy_eq_removeDomain] at run
  rcases Attempt.runs_bind.mp run with ⟨failure, failed, rfl⟩ | ⟨found, _, _, _, looked, rest, rfl⟩
  · obtain ⟨looked, rfl⟩ := lookedUp_of_lookup failed
    exact .unread looked
  · obtain ⟨looked, rfl⟩ := lookedUp_of_lookup looked
    cases found with
    | none =>
        obtain ⟨rfl, rfl, rfl⟩ := Attempt.runs_pure.mp rest
        simpa using Destruction.absent looked
    | some status =>
        dsimp only at rest
        split at rest
        · rcases Attempt.runs_bind.mp rest with
            ⟨failure, failed, rfl⟩ | ⟨_, _, _, _, forced, removing, rfl⟩
          · obtain ⟨forced, rfl⟩ := forcedOff_of_forceOff failed
            exact .stillOn looked forced
          · obtain ⟨forced, rfl⟩ := forcedOff_of_forceOff forced
            rw [← List.append_assoc]
            exact .off (.forced looked forced) (domainRemoved_of_removeDomain removing)
        · rename_i inactive
          exact .off (.already looked (by simpa using inactive))
            (domainRemoved_of_removeDomain rest)

end Lab

end VirtualLab
