import VirtualLab.Proofs.Destruction

/-!
# Removing a machine

What every removal keeps to, whatever the hypervisor answers. The domain is undefined only when the
last state read of it is off and all its snapshots are gone, and no file is touched before that.
-/

namespace VirtualLab

open BootConfig Hypervisor

namespace Lab

open FileSystem

variable {tool : SignatureToolConduct} {start final : FileSystem} {events : List (Event FileSystem)}
  {machine : Machine} {domain : String} {outcome : Except LabError DestroyOutcome}

/-! ## Where the events of a removal stand -/

def OnlyCalls (files : FileSystem) (kind : Call → Prop) (events : List (Event FileSystem)) : Prop :=
  ∀ event ∈ events, ∃ call answer, kind call ∧ event = called files call answer

def Reads (domain : String) (call : Call) : Prop := call = .domains ∨ call = .status domain

def Settles (domain : String) (call : Call) : Prop := Reads domain call ∨ call = .stop domain

def Empties (domain : String) (call : Call) : Prop :=
  call = .snapshots domain ∨ ∃ snapshot, call = .deleteSnapshot domain snapshot

namespace OnlyCalls

variable {kind more : Call → Prop} {others : List (Event FileSystem)} {event : Event FileSystem}
  {call : Call}

theorem mono (only : OnlyCalls start kind events) (included : ∀ call, kind call → more call) :
    OnlyCalls start more events := fun event member =>
  let ⟨call, answer, holds, equal⟩ := only event member
  ⟨call, answer, included call holds, equal⟩

theorem append (only : OnlyCalls start kind events) (other : OnlyCalls start kind others) :
    OnlyCalls start kind (events ++ others) :=
  List.forall_mem_append.mpr ⟨only, other⟩

theorem cons {answer : Except LabError call.Value} (holds : kind call)
    (only : OnlyCalls start kind events) :
    OnlyCalls start kind (called start call answer :: events) :=
  List.forall_mem_cons.mpr ⟨⟨call, answer, holds, rfl⟩, only⟩

theorem notMem (only : OnlyCalls start kind events) (asks : event.request = .hypervisor call)
    (other : ¬ kind call) : event ∉ events := by
  intro member
  obtain ⟨known, answer, holds, rfl⟩ := only event member
  have same : known = call := by simpa [called] using asks
  exact other (same ▸ holds)

end OnlyCalls

theorem LookedUp.onlyCalls {found : Except LabError (Option DomainStatus)}
    (looked : LookedUp start domain events found) : OnlyCalls start (Reads domain) events := by
  have none : OnlyCalls start (Reads domain) [] := by simp [OnlyCalls]
  cases looked with
  | unlisted => exact .cons (.inl rfl) none
  | absent => exact .cons (.inl rfl) none
  | unread => exact .cons (.inl rfl) (.cons (.inr rfl) none)
  | read => exact .cons (.inl rfl) (.cons (.inr rfl) none)

theorem ForcedOff.onlyCalls {result : Except LabError Unit}
    (forced : ForcedOff start domain events result) : OnlyCalls start (Settles domain) events := by
  cases forced with
  | unstopped => exact .cons (.inr rfl) (by simp [OnlyCalls])
  | unsettled looked => exact .cons (.inr rfl) (looked.onlyCalls.mono fun _ => .inl)
  | off looked => exact .cons (.inr rfl) (looked.onlyCalls.mono fun _ => .inl)

theorem FoundOff.onlyCalls (off : FoundOff start domain events) :
    OnlyCalls start (Settles domain) events := by
  cases off with
  | already looked => exact looked.onlyCalls.mono fun _ => .inl
  | forced looked forced => exact (looked.onlyCalls.mono fun _ => .inl).append forced.onlyCalls

theorem onlyCalls_deletions (deletions : List Deletion) :
    OnlyCalls start (fun call => ∃ snapshot, call = .deleteSnapshot domain snapshot)
      (deletions.map (Deletion.event start domain)) := by
  intro event member
  obtain ⟨deletion, _, rfl⟩ := List.mem_map.mp member
  exact ⟨_, _, ⟨deletion.1, rfl⟩, rfl⟩

theorem onlyCalls_emptying (deletions : List Deletion) :
    OnlyCalls start (Empties domain) (emptying start domain deletions) :=
  .cons (.inl rfl) ((onlyCalls_deletions deletions).mono fun _ => .inr)

theorem notMem_removing {removing : List (Event FileSystem)} {gone : Bool}
    (run : (removeFiles machine).Runs (removalConduct tool) start removing gone final)
    {event : Event FileSystem} {call : Call} (asks : event.request = .hypervisor call) :
    event ∉ removing := by
  intro member
  have removes : event.request.Removes machine :=
    run.request_of_confined removeFiles_removes event member
  rw [asks] at removes
  exact removes

theorem LookedUp.ends {status : DomainStatus}
    (looked : LookedUp start domain events (.ok (some status))) :
    ∃ front, events = front ++ [called start (.status domain) (.ok status)] := by
  cases looked with
  | read => exact ⟨[_], rfl⟩

theorem FoundOff.ends (off : FoundOff start domain events) :
    ∃ front status, status.state.isActive = false ∧
      events = front ++ [called start (.status domain) (.ok status)] := by
  cases off with
  | already looked inactive =>
      obtain ⟨front, rfl⟩ := looked.ends
      exact ⟨front, _, inactive, rfl⟩
  | @forced read _ _ _ forced =>
      cases forced with
      | off looked inactive =>
          obtain ⟨front, rfl⟩ := looked.ends
          exact ⟨read ++ called start (.stop domain) (.ok ()) :: front, _, inactive, by simp⟩

/-! ## What a removal keeps to -/

variable {earlier later : List (Event FileSystem)} {event : Event FileSystem}

def Prepares (domain : String) (call : Call) : Prop := Settles domain call ∨ Empties domain call

theorem FoundOff.prepares (off : FoundOff start domain events) (deletions : List Deletion) :
    OnlyCalls start (Prepares domain) (events ++ emptying start domain deletions) :=
  .append (off.onlyCalls.mono fun _ settles => .inl settles)
    ((onlyCalls_emptying deletions).mono fun _ empties => .inr empties)

/-- A removal ends before the domain is undefined, or that is asked once, when all snapshots are
deleted. -/
theorem Destruction.before_undefine
    (destruction : Destruction tool machine start events outcome final) :
    (OnlyCalls start (Prepares machine.vmName) events ∧ final = start ∧
      ∀ deleted gone, outcome ≠ .ok (.destroyed deleted gone)) ∨
    ∃ settling deletions answer removing, FoundOff start machine.vmName settling ∧
      undeleted deletions = [] ∧
      events = settling ++ emptying start machine.vmName deletions ++
        called start (.undefine machine.vmName) answer :: removing ∧
      ((∃ failure, answer = .error failure ∧ removing = [] ∧ final = start ∧
          outcome = .error failure) ∨
        ∃ gone, answer = .ok () ∧ outcome = .ok (.destroyed deletions.length gone) ∧
          (removeFiles machine).Runs (removalConduct tool) start removing gone final) := by
  cases destruction with
  | unread looked =>
      exact .inl ⟨looked.onlyCalls.mono fun _ reads => .inl (.inl reads), rfl, nofun⟩
  | absent looked =>
      exact .inl ⟨looked.onlyCalls.mono fun _ reads => .inl (.inl reads), rfl, nofun⟩
  | stillOn looked forced =>
      refine .inl ⟨.append ?_ ?_, rfl, nofun⟩
      · exact looked.onlyCalls.mono fun _ reads => .inl (.inl reads)
      · exact forced.onlyCalls.mono fun _ settles => .inl settles
  | off off removed =>
      have settled := off.onlyCalls.mono fun _ settles =>
        (.inl settles : Prepares machine.vmName _)
      cases removed with
      | unlisted =>
          refine .inl ⟨settled.append (.cons (.inr (.inl rfl)) ?_), rfl, nofun⟩
          simp [OnlyCalls]
      | snapshotsLeft left =>
          refine .inl ⟨settled.append ?_, rfl, nofun⟩
          exact (onlyCalls_emptying _).mono fun _ empties => .inr empties
      | stillDefined deleted =>
          exact .inr ⟨_, _, _, [], off, deleted, by simp, .inl ⟨_, rfl, rfl, rfl, rfl⟩⟩
      | removed deleted run =>
          exact .inr ⟨_, _, _, _, off, deleted, by simp, .inr ⟨_, rfl, rfl, run⟩⟩

/-- Undefining follows the last look at a state that is off, the listing of the snapshots and their
deletion, one after the other. -/
theorem Destruction.undefined (destruction : Destruction tool machine start events outcome final)
    (split : events = earlier ++ event :: later)
    (asks : event.request = .hypervisor (.undefine domain)) :
    domain = machine.vmName ∧ ∃ front status snapshots, status.state.isActive = false ∧
      earlier = front ++ called start (.status domain) (.ok status) ::
        called start (.snapshots domain) (.ok snapshots) ::
          snapshots.map fun snapshot =>
            called start (.deleteSnapshot domain snapshot) (.ok ()) := by
  have unprepared : ¬ Prepares machine.vmName (.undefine domain) := by
    simp [Prepares, Settles, Reads, Empties]
  rcases destruction.before_undefine with
    ⟨only, _⟩ | ⟨settling, deletions, answer, removing, off, deleted, equal, ending⟩
  · exact absurd (split ▸ List.mem_append_right _ List.mem_cons_self)
      (only.notMem asks unprepared)
  · rw [equal] at split
    have before : event ∉ settling ++ emptying start machine.vmName deletions :=
      (off.prepares deletions).notMem asks unprepared
    have after : event ∉ removing := by
      rcases ending with ⟨_, _, rfl, _⟩ | ⟨_, _, _, run⟩
      · exact List.not_mem_nil
      · exact notMem_removing run asks
    obtain ⟨rfl, rfl, rfl⟩ := (List.append_cons_inj_of_notMem before after).mp split
    have same : machine.vmName = domain := by simpa [called] using asks
    subst same
    obtain ⟨front, status, inactive, rfl⟩ := off.ends
    refine ⟨rfl, front, status, deletions.map (·.1), inactive, ?_⟩
    simp [emptying, deletions_of_undeleted_nil deleted]

/-- The files are touched and a removal succeeds only after the domain was undefined. -/
theorem Destruction.untouched (destruction : Destruction tool machine start events outcome final)
    (split : events = earlier ++ event :: later) :
    (∃ call, event.request = .hypervisor call) ∧ event.after = event.before ∨
      called start (.undefine machine.vmName) (.ok ()) ∈ earlier := by
  have calling : ∀ {call answer}, event = called start call answer →
      (∃ call, event.request = .hypervisor call) ∧ event.after = event.before := by
    rintro call answer rfl
    exact ⟨⟨call, rfl⟩, rfl⟩
  have among : event ∈ events := split ▸ List.mem_append_right _ List.mem_cons_self
  rcases destruction.before_undefine with
    ⟨only, _⟩ | ⟨settling, deletions, answer, removing, off, deleted, equal, ending⟩
  · obtain ⟨call, answer, _, equal⟩ := only event among
    exact .inl (calling equal)
  · rw [equal, List.append_eq_append_iff] at split
    rcases split with ⟨between, rfl, last⟩ | ⟨between, front, last⟩
    · cases between with
      | nil => exact .inl (calling (List.cons.inj last).1.symm)
      | cons first rest =>
          obtain ⟨rfl, removal⟩ := List.cons.inj last
          rcases ending with ⟨_, _, rfl, _⟩ | ⟨_, rfl, _⟩
          · simp at removal
          · exact .inr (List.mem_append_right _ List.mem_cons_self)
    · cases between with
      | nil => exact .inl (calling (List.cons.inj last).1)
      | cons first rest =>
          obtain ⟨rfl, _⟩ := List.cons.inj last
          obtain ⟨call, answer, _, equal⟩ := off.prepares deletions event (by simp [front])
          exact .inl (calling equal)

theorem DomainRemoved.notMem (removed : DomainRemoved tool machine start events outcome final)
    {call : Call} (asks : event.request = .hypervisor call)
    (notEmptying : ¬ Empties machine.vmName call)
    (notUndefining : call ≠ .undefine machine.vmName) :
    event ∉ events := by
  have emptied : ∀ deletions, event ∉ emptying start machine.vmName deletions := fun deletions =>
    (onlyCalls_emptying deletions).notMem asks notEmptying
  have undefines : ∀ answer, event ≠ called start (.undefine machine.vmName) answer := by
    rintro answer rfl
    exact notUndefining (by simpa [called] using asks.symm)
  cases removed with
  | unlisted =>
      refine OnlyCalls.notMem (.cons (.inl rfl) ?_) asks notEmptying
      simp [OnlyCalls]
  | snapshotsLeft left => exact emptied _
  | stillDefined deleted => simp [emptied, undefines]
  | removed deleted run => simp [emptied, undefines, notMem_removing run asks]

theorem ForcedOff.after_stop {forcing : List (Event FileSystem)} {result : Except LabError Unit}
    (forced : ForcedOff start domain forcing result)
    (member : called start (.stop domain) (.ok ()) ∈ forcing) :
    ∃ read found, forcing = called start (.stop domain) (.ok ()) :: read ∧
      LookedUp start domain read found ∧
        (result = .ok () →
          ∃ status, found = .ok (some status) ∧ status.state.isActive = false) := by
  cases forced with
  | unstopped => simp [called] at member
  | unsettled looked => exact ⟨_, _, rfl, looked, nofun⟩
  | off looked inactive => exact ⟨_, _, rfl, looked, fun _ => ⟨_, rfl, inactive⟩⟩

/-- What follows a stop that succeeded: a look at the state, and more only if that is off. -/
def Reread (start : FileSystem) (domain : String) (later : List (Event FileSystem)) : Prop :=
  ∃ read found rest, later = read ++ rest ∧ LookedUp start domain read found ∧
    (rest = [] ∨ ∃ status, found = .ok (some status) ∧ status.state.isActive = false)

theorem reread_of_forcing {read forcing rest : List (Event FileSystem)} {own : String}
    {result : Except LabError Unit} {found : Except LabError (Option DomainStatus)}
    (looked : LookedUp start own read found) (forced : ForcedOff start own forcing result)
    (notLater : called start (.stop domain) (.ok ()) ∉ rest)
    (goesOn : rest = [] ∨ result = .ok ())
    (split : read ++ forcing ++ rest = earlier ++ called start (.stop domain) (.ok ()) :: later) :
    domain = own ∧ Reread start domain later := by
  have asks : (called start (.stop domain) (.ok ())).request = .hypervisor (.stop domain) := rfl
  have unread : ∀ {read found}, LookedUp start own read found →
      called start (.stop domain) (.ok ()) ∉ read := fun looked =>
    looked.onlyCalls.notMem asks (by simp [Reads])
  have among : called start (.stop domain) (.ok ()) ∈ read ++ forcing ++ rest :=
    split ▸ List.mem_append_right _ List.mem_cons_self
  have inForcing : called start (.stop domain) (.ok ()) ∈ forcing := by
    simpa [unread looked, notLater] using among
  have same : domain = own := by
    by_contra other
    refine forced.onlyCalls.notMem asks ?_ inForcing
    simp [Settles, Reads, other]
  subst same
  obtain ⟨reread, refound, rfl, relooked, settled⟩ := forced.after_stop inForcing
  rw [List.append_assoc, List.cons_append] at split
  have after : called start (.stop domain) (.ok ()) ∉ reread ++ rest := by
    simp [unread relooked, notLater]
  obtain ⟨_, _, rfl⟩ := (List.append_cons_inj_of_notMem (unread looked) after).mp split
  exact ⟨rfl, reread, refound, rest, rfl, relooked, goesOn.imp_right settled⟩

theorem Destruction.stopped (destruction : Destruction tool machine start events outcome final)
    (split : events = earlier ++ called start (.stop domain) (.ok ()) :: later) :
    domain = machine.vmName ∧ Reread start domain later := by
  have asks : (called start (.stop domain) (.ok ())).request = .hypervisor (.stop domain) := rfl
  have unread : ∀ {read found}, LookedUp start machine.vmName read found →
      called start (.stop domain) (.ok ()) ∉ read := fun looked =>
    looked.onlyCalls.notMem asks (by simp [Reads])
  have among : called start (.stop domain) (.ok ()) ∈ events :=
    split ▸ List.mem_append_right _ List.mem_cons_self
  cases destruction with
  | unread looked => exact absurd among (unread looked)
  | absent looked => exact absurd among (unread looked)
  | stillOn looked forced =>
      exact reread_of_forcing looked forced List.not_mem_nil (.inl rfl) (by simpa using split)
  | off off removed =>
      have notLater := removed.notMem asks (by simp [Empties]) (by simp)
      cases off with
      | already looked => exact absurd among (by simp [unread looked, notLater])
      | forced looked forced => exact reread_of_forcing looked forced notLater (.inr rfl) split

/-- What follows the listing of the snapshots: all are attempted, and nothing but the failure that
names those which are left comes after if some are left. -/
def Attempted (start : FileSystem) (domain : String) (snapshots : List String)
    (later : List (Event FileSystem)) (outcome : Except LabError DestroyOutcome) : Prop :=
  ∃ deletions rest, deletions.map (·.1) = snapshots ∧
    later = deletions.map (Deletion.event start domain) ++ rest ∧
      (undeleted deletions ≠ [] → rest = [] ∧ outcome =
        .error (.hypervisor "snapshot-delete" domain (.snapshotsLeft (undeleted deletions))))

theorem DomainRemoved.listing (removed : DomainRemoved tool machine start events outcome final) :
    (∃ failure, events = [called start (.snapshots machine.vmName) (.error failure)]) ∨
    ∃ deletions rest, events = emptying start machine.vmName deletions ++ rest ∧
      (∀ domain answer, called start (.snapshots domain) answer ∉ rest) ∧
        (undeleted deletions ≠ [] → rest = [] ∧ outcome = .error (.hypervisor "snapshot-delete"
          machine.vmName (.snapshotsLeft (undeleted deletions)))) := by
  cases removed with
  | unlisted => exact .inl ⟨_, rfl⟩
  | snapshotsLeft left =>
      exact .inr ⟨_, [], (List.append_nil _).symm, by simp, fun _ => ⟨rfl, rfl⟩⟩
  | stillDefined deleted =>
      exact .inr ⟨_, _, rfl, by simp [called], fun left => absurd deleted left⟩
  | removed deleted run =>
      refine .inr ⟨_, _, rfl, fun domain answer => ?_, fun left => absurd deleted left⟩
      have notRemoving := notMem_removing run
        (rfl : (called start (.snapshots domain) answer).request = .hypervisor (.snapshots domain))
      simpa [called] using notRemoving

theorem Destruction.attempted (destruction : Destruction tool machine start events outcome final)
    {snapshots : List String}
    (split : events = earlier ++ called start (.snapshots domain) (.ok snapshots) :: later) :
    domain = machine.vmName ∧ Attempted start domain snapshots later outcome := by
  have asks : (called start (.snapshots domain) (.ok snapshots)).request =
    .hypervisor (.snapshots domain) := rfl
  have unsettled : ∀ {events}, OnlyCalls start (Settles machine.vmName) events →
      called start (.snapshots domain) (.ok snapshots) ∉ events := fun only =>
    only.notMem asks (by simp [Settles, Reads])
  have among : called start (.snapshots domain) (.ok snapshots) ∈ events :=
    split ▸ List.mem_append_right _ List.mem_cons_self
  cases destruction with
  | unread looked => exact absurd among (unsettled (looked.onlyCalls.mono fun _ => .inl))
  | absent looked => exact absurd among (unsettled (looked.onlyCalls.mono fun _ => .inl))
  | stillOn looked forced =>
      have settles := (looked.onlyCalls.mono fun _ reads => .inl reads).append forced.onlyCalls
      exact absurd among (unsettled settles)
  | off off removed =>
      rcases removed.listing with ⟨failure, rfl⟩ | ⟨deletions, rest, rfl, notLater, left⟩
      · refine absurd among ?_
        simp only [List.mem_append, unsettled off.onlyCalls, List.mem_singleton, false_or]
        intro equal
        have same : domain = machine.vmName := by
          simpa [called] using congrArg Event.request equal
        subst same
        simp [called] at equal
      · have after : called start (.snapshots domain) (.ok snapshots) ∉
            deletions.map (Deletion.event start machine.vmName) ++ rest := by
          have notDeleting : called start (.snapshots domain) (.ok snapshots) ∉
              deletions.map (Deletion.event start machine.vmName) :=
            (onlyCalls_deletions deletions).notMem asks (by simp)
          simp [notDeleting, notLater]
        rw [emptying, List.cons_append] at split
        obtain ⟨_, equal, rfl⟩ :=
          (List.append_cons_inj_of_notMem (unsettled off.onlyCalls) after).mp split
        have same : machine.vmName = domain := by
          simpa [called] using congrArg Event.request equal
        subst same
        have listed : deletions.map (·.1) = snapshots := by simpa [called] using equal
        exact ⟨rfl, deletions, rest, listed, rfl, left⟩

structure Orderly (machine : Machine) (start : FileSystem) (events : List (Event FileSystem))
    (outcome : Except LabError DestroyOutcome) (final : FileSystem) : Prop where
  /-- No domain but the machine's own is undefined, and this only right after its state was last
  read as off, its snapshots were listed, and each of these was deleted. -/
  undefined : ∀ {earlier event later domain}, events = earlier ++ event :: later →
    event.request = .hypervisor (.undefine domain) →
      domain = machine.vmName ∧ ∃ front status snapshots, status.state.isActive = false ∧
        earlier = front ++ called start (.status domain) (.ok status) ::
          called start (.snapshots domain) (.ok snapshots) ::
            snapshots.map fun snapshot => called start (.deleteSnapshot domain snapshot) (.ok ())
  /-- After a forced stop the state is read again, and the removal goes on only if it is off. -/
  stopped : ∀ {earlier later domain},
    events = earlier ++ called start (.stop domain) (.ok ()) :: later →
      domain = machine.vmName ∧ Reread start domain later
  /-- Every listed snapshot is attempted, and a failure names those that are left. -/
  attempted : ∀ {earlier later domain snapshots},
    events = earlier ++ called start (.snapshots domain) (.ok snapshots) :: later →
      domain = machine.vmName ∧ Attempted start domain snapshots later outcome
  /-- Until the domain was undefined, only the hypervisor is called, which leaves the files. -/
  untouched : ∀ {earlier event later}, events = earlier ++ event :: later →
    (∃ call, event.request = .hypervisor call) ∧ event.after = event.before ∨
      called start (.undefine machine.vmName) (.ok ()) ∈ earlier
  /-- A machine that was not destroyed has its files as they were. -/
  kept : (∀ deleted gone, outcome ≠ .ok (.destroyed deleted gone)) → final = start
  /-- Destroying counts the listed snapshots and removes nothing but what is the machine's. -/
  removed : ∀ {deleted gone}, outcome = .ok (.destroyed deleted gone) →
    Removed machine start final ∧ ∃ snapshots,
      called start (.snapshots machine.vmName) (.ok snapshots) ∈ events ∧
        deleted = snapshots.length

/-- Whatever the hypervisor answers and whichever files refuse, a machine is destroyed in order,
and the files stay as they are unless its domain is gone. -/
theorem destroy_orderly
    (run : (destroy machine).run.Runs (removalConduct tool) start events outcome final) :
    Orderly machine start events outcome final := by
  have destruction := destruction_of_destroy run
  refine ⟨destruction.undefined, destruction.stopped, destruction.attempted, destruction.untouched,
    fun failed => ?_, fun {deleted gone} destroyed => ?_⟩
  · rcases destruction.before_undefine with
      ⟨_, kept, _⟩ | ⟨_, deletions, _, _, _, _, _, ⟨_, _, _, kept, _⟩ | ⟨gone, _, destroyed, _⟩⟩
    · exact kept
    · exact kept
    · exact absurd destroyed (failed _ _)
  · rcases destruction.before_undefine with
      ⟨_, _, never⟩ | ⟨settling, deletions, _, _, _, _, rfl, ending⟩
    · exact absurd destroyed (never _ _)
    · rcases ending with ⟨_, _, _, _, rfl⟩ | ⟨_, _, rfl, removing⟩
      · cases destroyed
      · cases destroyed
        refine ⟨removed_of_removeFiles removing, deletions.map (·.1), ?_, (List.length_map _).symm⟩
        simp [emptying]

/-! ## A machine with snapshots -/

def idle (_ : List String) (files : FileSystem) : Except ToolFailure ToolOutput × FileSystem :=
  (.ok {}, files)

def snapshotRespond : Script.Responder FileSystem
  | .hypervisor .domains, files => (.ok ["web"], files)
  | .hypervisor (.status _), files => (.ok ⟨.shutOff, "normal shutdown"⟩, files)
  | .hypervisor (.snapshots _), files => (.ok ["first", "second"], files)
  | .hypervisor (.deleteSnapshot _ _), files => (.ok (), files)
  | .hypervisor (.undefine _), files => (.ok (), files)
  | request, files => FileSystem.respond idle (fun _ => .error "") request files

theorem removalConduct_snapshotRespond (request : Request) (files : FileSystem) :
    removalConduct (fun _ before _ after => after = before) request files
      (snapshotRespond request files).1 (snapshotRespond request files).2 := by
  have answered : ∀ request, conduct (fun _ before _ after => after = before) request files
      (FileSystem.respond idle (fun _ => .error "") request files).1
      (FileSystem.respond idle (fun _ => .error "") request files).2 := fun request =>
    conduct_respond (fun _ _ => rfl) request files
  cases request with
  | hypervisor call => cases call <;> exact .inl rfl
  | _ => exact .inl (answered _)

def deployedFiles : FileSystem where
  entries := [(["disks"], .directory), (["disks", "lab"], .directory),
    (["disks", "lab", "notes"], .file []), (["disks", "lab", "web"], .directory)] ++
    ["disk0.qcow2", "meta-data", "user-data", "network-config", "cidata.iso"].map fun name =>
      (["disks", "lab", "web", name], .file [])

theorem destroyed_with_snapshots : ∃ events final,
    (destroy (oneDiskMachine "web")).run.Runs
      (removalConduct fun _ before _ after => after = before) deployedFiles events
      (.ok (.destroyed 2 true)) final ∧
    Orderly (oneDiskMachine "web") deployedFiles events (.ok (.destroyed 2 true)) final ∧
      final.entries = [(["disks"], .directory), (["disks", "lab"], .directory),
        (["disks", "lab", "notes"], .file [])] := by
  obtain ⟨events, run⟩ := Script.runs_run removalConduct_snapshotRespond
    (destroy (oneDiskMachine "web")).run deployedFiles
  have ended : ((destroy (oneDiskMachine "web")).run.run snapshotRespond deployedFiles).1 =
      .ok (.destroyed 2 true) := by
    decide +kernel
  rw [ended] at run
  exact ⟨events, _, run, destroy_orderly run, by decide +kernel⟩

end Lab

end VirtualLab
