import VirtualLab.Proofs.ExistenceChecks

/-!
# What a removal makes of a reported state

A hypervisor reports a state as a number, and any number may come. Five of them are those of a
domain that is forced off before it is removed. From two others a domain would be powered on; what
remains, no state and numbers outside the table, is neither forced off nor powered on.
-/

namespace VirtualLab

open BootConfig Hypervisor

/-! ## Reported numbers -/

namespace DomainState

def forcedOffCodes : List Int := [1, 2, 3, 4, 7]

theorem isActive_ofCode {code : Int} : (ofCode code).isActive = true ↔ code ∈ forcedOffCodes := by
  unfold ofCode
  split <;> simp_all [isActive, forcedOffCodes]

theorem ofCode_eq_off {code : Int} :
    ofCode code = .shutOff ∨ ofCode code = .crashed ↔ code = 5 ∨ code = 6 := by
  unfold ofCode
  split <;> simp_all

end DomainState

open DomainState

theorem Hypervisor.Virsh.codes_of_readAnswer {uri domain : String}
    {answer : Except ToolFailure ToolOutput} {status : DomainStatus}
    (read : readAnswer uri (.status domain) answer = .ok status) :
    ∃ code reason, status = .ofCodes code reason := by
  cases answer with
  | error failure => cases read
  | ok output =>
      simp only [readAnswer, readOutput] at read
      cases reported : readStatus output.stdout with
      | none => simp [reported, Except.mapError] at read
      | some found =>
          obtain ⟨code, _, rfl⟩ := Option.map_eq_some_iff.mp reported
          simp only [reported, Except.mapError, Except.ok.injEq] at read
          exact ⟨code, _, read.symm⟩

namespace Lab

open FileSystem

variable {tool : SignatureToolConduct} {start final : FileSystem} {events : List (Event FileSystem)}
  {machine : Machine} {domain : String} {outcome : Except LabError DestroyOutcome}
  {code reason : Int}

/-- A machine is powered on exactly at two of the numbers. -/
theorem powerOn_ofCodes_eq_startUp :
    powerOn machine (.ofCodes code reason) = startUp machine ↔ code = 5 ∨ code = 6 := by
  rw [← ofCode_eq_off]
  -- Powering on asks something, and what leaves the domain alone does not.
  have leaves : ∀ result, (pure result : LabTask UpOutcome) ≠ startUp machine := by
    intro result equal
    have scripts : (pure result : LabTask UpOutcome).run = (startUp machine).run :=
      congrArg ExceptT.run equal
    cases scripts
  unfold powerOn DomainStatus.ofCodes
  dsimp only
  split
  · rename_i running
    simpa [running] using leaves .alreadyRunning
  · rename_i off
    simp [off, startUp]
  · rename_i crashed
    simp [crashed, startUp]
  · rename_i notOff notCrashed
    exact iff_of_false (leaves _) (not_or.mpr ⟨notOff, notCrashed⟩)

/-- A number is not one of those that are forced off if a domain would be powered on from it, or it
is that of no state, or it is outside the table. -/
theorem not_mem_forcedOffCodes_iff : code ∉ forcedOffCodes ↔
    powerOn machine (.ofCodes code reason) = startUp machine ∨
      code = 0 ∨ code < 0 ∨ 7 < code := by
  rw [powerOn_ofCodes_eq_startUp]
  simp only [forcedOffCodes, List.mem_cons, List.not_mem_nil, or_false]
  omega

def ReportsCodes : (request : Request) → request.Answer → Prop
  | .hypervisor (.status _), answer => ∀ status, answer = .ok status →
      ∃ code reason, status = .ofCodes code reason
  | _, _ => True

def reportingConduct (tool : SignatureToolConduct) : Conduct FileSystem :=
  fun request before answer after =>
    removalConduct tool request before answer after ∧ ReportsCodes request answer

def reported (files : FileSystem) (domain : String) (code reason : Int) : Event FileSystem :=
  called files (.status domain) (.ok (.ofCodes code reason))

theorem removal_of_reporting
    (run : (destroy machine).run.Runs (reportingConduct tool) start events outcome final) :
    (destroy machine).run.Runs (removalConduct tool) start events outcome final :=
  run.mono fun conducted => conducted.1

/-- Where a machine is removed through the client, states are reported as numbers, whatever is
printed. -/
theorem reporting_of_through {uri : String} {conduct : Conduct FileSystem}
    (removes : ∀ {request before answer after}, Virsh.seen uri conduct request before answer after →
      removalConduct tool request before answer after)
    (run : (Virsh.through uri (destroy machine)).run.Runs conduct start events outcome final) :
    ∃ asked, (destroy machine).run.Runs (reportingConduct tool) start asked outcome final ∧
      List.Forall₂ (Virsh.SeenAs uri) asked events := by
  obtain ⟨asked, seen, sees⟩ := Virsh.runs_through run
  refine ⟨asked, seen.mono fun {request _ _ _} sees => ⟨removes sees, ?_⟩, sees⟩
  cases request with
  | hypervisor call =>
      cases call with
      | status domain =>
          intro status read
          obtain ⟨_, _, answered⟩ := sees
          exact Virsh.codes_of_readAnswer (answered.symm.trans read)
      | _ => trivial
  | _ => trivial

theorem codes_of_read {status : DomainStatus}
    (run : (destroy machine).run.Runs (reportingConduct tool) start events outcome final)
    (member : called start (.status domain) (.ok status) ∈ events) :
    ∃ code reason, status = .ofCodes code reason :=
  (run.conducted _ member).2 status rfl

/-! ## Where a reading stands among the events -/

variable {earlier later : List (Event FileSystem)} {event : Event FileSystem}

theorem split_after {front rest : List (Event FileSystem)} (notMem : event ∉ front)
    (split : front ++ rest = earlier ++ event :: later) :
    ∃ between, earlier = front ++ between ∧ rest = between ++ event :: later := by
  rcases List.append_eq_append_iff.mp split with ⟨between, rfl, equal⟩ | ⟨between, rfl, equal⟩
  · exact ⟨between, rfl, equal⟩
  · cases between with
    | nil => exact ⟨[], by simp, by simpa using equal.symm⟩
    | cons first others =>
        obtain ⟨rfl, _⟩ := List.cons.inj equal
        simp at notMem

theorem LookedUp.split_reading {read rest : List (Event FileSystem)} {own : String}
    {found : Except LabError (Option DomainStatus)} {status : DomainStatus}
    (looked : LookedUp start own read found)
    (split : read ++ rest = earlier ++ called start (.status domain) (.ok status) :: later) :
    (domain = own ∧ found = .ok (some status) ∧ later = rest) ∨
      ∃ between, earlier = read ++ between ∧
        rest = between ++ called start (.status domain) (.ok status) :: later := by
  cases looked with
  | unlisted => exact .inr (split_after (by simp [called]) split)
  | absent => exact .inr (split_after (by simp [called]) split)
  | unread => exact .inr (split_after (by simp [called]) split)
  | @read domains known listed =>
      have notFirst : called start (.status domain) (.ok status) ∉
          [called start .domains (.ok domains)] := by simp [called]
      obtain ⟨between, rfl, afterFirst⟩ := split_after notFirst split
      cases between with
      | nil =>
          obtain ⟨equal, rfl⟩ := List.cons.inj afterFirst
          have same : own = domain := by simpa [called] using congrArg Event.request equal
          subst same
          have answered : known = status := by simpa [called] using equal
          subst answered
          exact .inl ⟨rfl, rfl, rfl⟩
      | cons second others =>
          obtain ⟨rfl, following⟩ := List.cons.inj afterFirst
          exact .inr ⟨others, rfl, following⟩

/-! ## The last state before a removal -/

/-- Of these events, the last that reads the state of a domain reads these numbers. -/
def LastReported (files : FileSystem) (domain : String) (events : List (Event FileSystem))
    (code reason : Int) : Prop :=
  ∃ front rest, events = front ++ reported files domain code reason :: rest ∧
    ∀ event ∈ rest, ∀ other, event.request ≠ .hypervisor (.status other)

def Removing (event : Event FileSystem) : Prop :=
  (∃ domain, event.request = .hypervisor (.undefine domain)) ∨
    ∀ call, event.request ≠ .hypervisor call

theorem Removing.notMem {kind : Call → Prop} (removing : Removing event)
    (only : OnlyCalls start kind events) (other : ∀ domain, ¬ kind (.undefine domain)) :
    event ∉ events := by
  intro member
  obtain ⟨call, answer, holds, rfl⟩ := only event member
  rcases removing with ⟨domain, undefines⟩ | deals
  · obtain rfl : call = .undefine domain := by simpa [called] using undefines
    exact other domain holds
  · exact deals call rfl

/-- Whatever removes something comes after a last reading of the state, which is off. -/
theorem Destruction.last_read (destruction : Destruction tool machine start events outcome final)
    (split : events = earlier ++ event :: later) (removing : Removing event) :
    ∃ status front rest, status.state.isActive = false ∧
      earlier = front ++ called start (.status machine.vmName) (.ok status) :: rest ∧
        ∀ event ∈ rest, ∀ other, event.request ≠ .hypervisor (.status other) := by
  have among : event ∈ events := split ▸ List.mem_append_right _ List.mem_cons_self
  rcases destruction.before_undefine with
    ⟨only, _⟩ | ⟨settling, deletions, answer, files, off, deleted, equal, ending⟩
  · refine absurd among (removing.notMem only fun domain => ?_)
    simp [Prepares, Settles, Reads, Empties]
  · rw [equal, List.append_assoc] at split
    have notSettling : event ∉ settling := removing.notMem off.onlyCalls fun domain => by
      simp [Settles, Reads]
    obtain ⟨between, rfl, following⟩ := split_after notSettling split
    obtain ⟨front, status, inactive, rfl⟩ := off.ends
    refine ⟨status, front, between, inactive, by simp, fun event member other asks => ?_⟩
    have notEmptying : event ∉ emptying start machine.vmName deletions :=
      (onlyCalls_emptying deletions).notMem asks (by simp [Empties])
    have notRemoving : event ∉ files := by
      rcases ending with ⟨_, _, rfl, _⟩ | ⟨_, _, _, run⟩
      · exact List.not_mem_nil
      · exact notMem_removing run asks
    have inRest : event ∈ emptying start machine.vmName deletions ++
        called start (.undefine machine.vmName) answer :: files := by
      rw [following]
      exact List.mem_append_left _ member
    rcases List.mem_append.mp inRest with inEmptying | undefining
    · exact notEmptying inEmptying
    · rcases List.mem_cons.mp undefining with rfl | inFiles
      · simp [called] at asks
      · exact notRemoving inFiles

/-! ## What follows a reading -/

/-- What a state that is forced off leads to: the domain is stopped, and if that succeeds its state
is read again; a domain that is in such a state after it was stopped is left. -/
inductive Forced (start : FileSystem) (domain : String) (earlier : List (Event FileSystem)) :
    List (Event FileSystem) → Except LabError DestroyOutcome → Prop
  | unstopped {failure : LabError} :
      Forced start domain earlier [called start (.stop domain) (.error failure)] (.error failure)
  | stopped {later : List (Event FileSystem)} {outcome : Except LabError DestroyOutcome}
      (reread : Reread start domain later) :
      Forced start domain earlier (called start (.stop domain) (.ok ()) :: later) outcome
  | stillOn {failure : LabError} (already : called start (.stop domain) (.ok ()) ∈ earlier) :
      Forced start domain earlier [] (.error failure)

theorem ForcedOff.split_reading {forcing rest : List (Event FileSystem)} {own : String}
    {result : Except LabError Unit} {status : DomainStatus}
    (forced : ForcedOff start own forcing result)
    (split : forcing ++ rest = earlier ++ called start (.status domain) (.ok status) :: later) :
    (domain = own ∧ called start (.stop own) (.ok ()) ∈ earlier ∧ later = rest ∧
        (result = .ok () → status.state.isActive = false)) ∨
      called start (.status domain) (.ok status) ∈ rest := by
  have afterStop : ∀ {read : List (Event FileSystem)}
      {found : Except LabError (Option DomainStatus)}, LookedUp start own read found →
      called start (.stop own) (.ok ()) :: read ++ rest =
        earlier ++ called start (.status domain) (.ok status) :: later →
      (domain = own ∧ called start (.stop own) (.ok ()) ∈ earlier ∧ later = rest ∧
        found = .ok (some status)) ∨ called start (.status domain) (.ok status) ∈ rest := by
    intro read found looked split
    have notStop : called start (.status domain) (.ok status) ∉
        [called start (.stop own) (.ok ())] := by simp [called]
    obtain ⟨between, rfl, following⟩ := split_after notStop split
    rcases looked.split_reading following with ⟨same, equal, ended⟩ | ⟨others, _, beyond⟩
    · exact .inl ⟨same, by simp, ended, equal⟩
    · exact .inr (beyond ▸ List.mem_append_right _ List.mem_cons_self)
  cases forced with
  | unstopped =>
      obtain ⟨between, _, following⟩ := split_after (by simp [called]) split
      exact .inr (following ▸ List.mem_append_right _ List.mem_cons_self)
  | unsettled looked =>
      rcases afterStop looked split with ⟨same, stop, ended, _⟩ | beyond
      · refine .inl ⟨same, stop, ended, fun stopped => ?_⟩
        cases stopped
      · exact .inr beyond
  | off looked inactive =>
      rcases afterStop looked split with ⟨same, stop, ended, equal⟩ | beyond
      · cases equal
        exact .inl ⟨same, stop, ended, fun _ => inactive⟩
      · exact .inr beyond

theorem Destruction.forced (destruction : Destruction tool machine start events outcome final)
    {status : DomainStatus} (active : status.state.isActive = true)
    (split : events = earlier ++ called start (.status domain) (.ok status) :: later) :
    domain = machine.vmName ∧ Forced start domain earlier later outcome := by
  have none : ∀ {found}, LookedUp start machine.vmName events found →
      found = .ok (some status) := by
    intro found looked
    rcases looked.split_reading ((List.append_nil events).trans split) with
      ⟨_, equal, _⟩ | ⟨_, _, beyond⟩
    · exact equal
    · simp at beyond
  cases destruction with
  | unread looked => cases none looked
  | absent looked => cases none looked
  | stillOn looked forced =>
      rcases looked.split_reading split with ⟨rfl, _, rfl⟩ | ⟨between, rfl, following⟩
      · refine ⟨rfl, ?_⟩
        cases forced with
        | unstopped => exact .unstopped
        | unsettled reread => exact .stopped ⟨_, _, [], by simp, reread, .inl rfl⟩
      · rcases forced.split_reading ((List.append_nil _).trans following) with
          ⟨rfl, stop, rfl, _⟩ | beyond
        · exact ⟨rfl, .stillOn (List.mem_append_right _ stop)⟩
        · cases beyond
  | off off removed =>
      have notRemoving := removed.notMem
        (rfl : (called start (.status domain) (.ok status)).request = .hypervisor (.status domain))
        (by simp [Empties]) (by simp)
      cases off with
      | already looked inactive =>
          rcases looked.split_reading split with ⟨_, equal, _⟩ | ⟨_, _, following⟩
          · cases equal
            simp [active] at inactive
          · exact absurd (following ▸ List.mem_append_right _ List.mem_cons_self) notRemoving
      | forced looked forced =>
          rw [List.append_assoc] at split
          rcases looked.split_reading split with ⟨rfl, _, rfl⟩ | ⟨between, rfl, following⟩
          · cases forced with
            | off reread inactive =>
                exact ⟨rfl, .stopped ⟨_, _, _, rfl, reread, .inr ⟨_, rfl, inactive⟩⟩⟩
          · rcases forced.split_reading following with ⟨_, _, _, inactive⟩ | beyond
            · simp [active] at inactive
            · exact absurd beyond notRemoving

structure HeedsReports (machine : Machine) (start : FileSystem) (events : List (Event FileSystem))
    (outcome : Except LabError DestroyOutcome) : Prop where
  /-- Nothing is removed unless the last state reported is one from which the machine would be
  powered on, or no state, or a number outside the table. -/
  removing : ∀ {earlier event later}, events = earlier ++ event :: later → Removing event →
    ∃ code reason, LastReported start machine.vmName earlier code reason ∧
      (powerOn machine (.ofCodes code reason) = startUp machine ∨ code = 0 ∨ code < 0 ∨ 7 < code)
  /-- Every other number leads to a forced stop and another reading. -/
  forcing : ∀ {earlier later domain code reason},
    events = earlier ++ reported start domain code reason :: later →
      ¬ (powerOn machine (.ofCodes code reason) = startUp machine ∨
        code = 0 ∨ code < 0 ∨ 7 < code) →
      domain = machine.vmName ∧ Forced start domain earlier later outcome

/-- Whatever numbers the hypervisor reports, a machine is removed only after a last state that is not
forced off, and every state that is forced off is stopped and read again first. -/
theorem destroy_heeds_reports
    (run : (destroy machine).run.Runs (reportingConduct tool) start events outcome final) :
    HeedsReports machine start events outcome := by
  have destruction := destruction_of_destroy (removal_of_reporting run)
  constructor
  · intro earlier event later split removing
    obtain ⟨status, front, rest, inactive, rfl, none⟩ := destruction.last_read split removing
    have member : called start (.status machine.vmName) (.ok status) ∈ events := by
      simp [split]
    obtain ⟨code, reason, rfl⟩ := codes_of_read run member
    refine ⟨code, reason, ⟨front, rest, rfl, none⟩, not_mem_forcedOffCodes_iff.mp fun forced => ?_⟩
    rw [DomainStatus.ofCodes, isActive_ofCode.mpr forced] at inactive
    cases inactive
  · intro earlier later domain code reason split other
    have forced : code ∈ forcedOffCodes :=
      not_not.mp fun notForced => other (not_mem_forcedOffCodes_iff.mp notForced)
    exact destruction.forced (isActive_ofCode.mpr forced) split

/-! ## Machines that are removed -/

theorem runs_answered {call : Call} {answer : Except LabError call.Value}
    (codes : ReportsCodes (.hypervisor call) answer) :
    (perform call).run.Runs (reportingConduct tool) start [called start call answer] answer start :=
  runs_perform_iff.mpr ⟨⟨.inl rfl, codes⟩, rfl⟩

theorem runs_reported (code reason : Int) :
    (lookup domain).run.Runs (reportingConduct tool) start
      [called start .domains (.ok [domain]), reported start domain code reason]
      (.ok (some (.ofCodes code reason))) start := by
  refine Attempt.runs_bind_ok.mpr
    ⟨[domain], _, start, [reported start domain code reason], runs_answered trivial, ?_, rfl⟩
  rw [if_pos (List.mem_singleton.mpr rfl)]
  refine Attempt.runs_bind_ok.mpr ⟨_, _, start, [], runs_answered ?_,
    Attempt.runs_pure.mpr ⟨rfl, rfl, rfl⟩, rfl⟩
  rintro status equal
  cases equal
  exact ⟨code, reason, rfl⟩

def undefining (files : FileSystem) (domain : String) : List (Event FileSystem) :=
  [called files (.snapshots domain) (.ok []), called files (.undefine domain) (.ok ())]

theorem runs_removeDomain {files : List (Event FileSystem)} {gone : Bool}
    (removes : (removeFiles machine).Runs (reportingConduct tool) start files gone final) :
    (removeDomain machine).run.Runs (reportingConduct tool) start
      (undefining start machine.vmName ++ files) (.ok (.destroyed 0 gone)) final := by
  refine Attempt.runs_bind_ok.mpr ⟨[], _, start, _, runs_answered trivial, ?_, rfl⟩
  refine Attempt.runs_bind_ok.mpr
    ⟨[], [], start, _, Attempt.runs_pure.mpr ⟨rfl, rfl, rfl⟩, ?_, rfl⟩
  refine Attempt.runs_bind_ok.mpr ⟨(), _, start, _, runs_answered trivial, ?_, rfl⟩
  refine Attempt.runs_lift_bind.mpr ⟨gone, files, final, [], removes,
    Attempt.runs_pure.mpr ⟨rfl, rfl, rfl⟩, (List.append_nil files).symm⟩

theorem runs_forceOff (spared : code ∉ forcedOffCodes) :
    (forceOff domain).run.Runs (reportingConduct tool) start
      [called start (.stop domain) (.ok ()), called start .domains (.ok [domain]),
        reported start domain code reason] (.ok ()) start := by
  refine Attempt.runs_bind_ok.mpr ⟨(), _, start, _, runs_answered trivial, ?_, rfl⟩
  refine Attempt.runs_bind_ok.mpr
    ⟨.ofCodes code reason, _, start, [], ?_, ?_, (List.append_nil _).symm⟩
  · exact Attempt.runs_bind_ok.mpr ⟨_, _, start, [], runs_reported code reason,
      Attempt.runs_pure.mpr ⟨rfl, rfl, rfl⟩, (List.append_nil _).symm⟩
  · have inactive : ¬ (DomainStatus.ofCodes code reason).state.isActive :=
      isActive_ofCode.not.mpr spared
    rw [if_neg inactive]
    exact Attempt.runs_pure.mpr ⟨rfl, rfl, rfl⟩

section Runs

variable {files : List (Event FileSystem)} {gone : Bool}

theorem runs_destroy_of_spared (reason : Int) (spared : code ∉ forcedOffCodes)
    (removes : (removeFiles machine).Runs (reportingConduct tool) start files gone final) :
    (destroy machine).run.Runs (reportingConduct tool) start
      ([called start .domains (.ok [machine.vmName]), reported start machine.vmName code reason] ++
        (undefining start machine.vmName ++ files)) (.ok (.destroyed 0 gone)) final := by
  rw [destroy_eq_removeDomain]
  refine Attempt.runs_bind_ok.mpr ⟨_, _, start, _, runs_reported code reason, ?_, rfl⟩
  have inactive : ¬ (DomainStatus.ofCodes code reason).state.isActive :=
    isActive_ofCode.not.mpr spared
  dsimp only
  rw [if_neg inactive]
  exact runs_removeDomain removes

theorem runs_destroy_of_forced {after : Int} (reason cause : Int) (forced : code ∈ forcedOffCodes)
    (spared : after ∉ forcedOffCodes)
    (removes : (removeFiles machine).Runs (reportingConduct tool) start files gone final) :
    (destroy machine).run.Runs (reportingConduct tool) start
      ([called start .domains (.ok [machine.vmName]), reported start machine.vmName code reason] ++
        ([called start (.stop machine.vmName) (.ok ()),
          called start .domains (.ok [machine.vmName]),
          reported start machine.vmName after cause] ++
            (undefining start machine.vmName ++ files))) (.ok (.destroyed 0 gone)) final := by
  rw [destroy_eq_removeDomain]
  refine Attempt.runs_bind_ok.mpr ⟨_, _, start, _, runs_reported code reason, ?_, rfl⟩
  have active : (DomainStatus.ofCodes code reason).state.isActive := isActive_ofCode.mpr forced
  dsimp only
  rw [if_pos active]
  exact Attempt.runs_bind_ok.mpr
    ⟨(), _, start, _, runs_forceOff spared, runs_removeDomain removes, rfl⟩

end Runs

theorem reportingConduct_respond (request : Request) (files : FileSystem) :
    reportingConduct (fun _ before _ after => after = before) request files
      (respond idle (fun _ => .error "") request files).1
      (respond idle (fun _ => .error "") request files).2 := by
  refine ⟨.inl (conduct_respond (fun _ _ => rfl) request files), ?_⟩
  cases request with
  | hypervisor call =>
      cases call with
      | status domain => exact fun _ impossible => nomatch impossible
      | _ => trivial
  | _ => trivial

theorem exists_removal : ∃ files final,
    (removeFiles (oneDiskMachine "web")).Runs
      (reportingConduct fun _ before _ after => after = before) deployedFiles files true final ∧
    ∀ path ∈ (oneDiskMachine "web").files,
      deployedFiles.isFile path = true ∧ final.isFile path = false := by
  obtain ⟨files, removes⟩ := Script.runs_run reportingConduct_respond
    (removeFiles (oneDiskMachine "web")) deployedFiles
  have gone : ((removeFiles (oneDiskMachine "web")).run
      (respond idle fun _ => .error "") deployedFiles).1 = true := by decide +kernel
  rw [gone] at removes
  exact ⟨files, _, removes, by decide +kernel⟩

/-- A running machine is forced off, its state is read again, and then it is removed. -/
theorem running_machine_forced_off : ∃ events final,
    (destroy (oneDiskMachine "web")).run.Runs
      (reportingConduct fun _ before _ after => after = before) deployedFiles events
      (.ok (.destroyed 0 true)) final ∧
    HeedsReports (oneDiskMachine "web") deployedFiles events (.ok (.destroyed 0 true)) ∧
    called deployedFiles (.stop "web") (.ok ()) ∈ events ∧
    called deployedFiles (.undefine "web") (.ok ()) ∈ events := by
  obtain ⟨files, final, removes, _⟩ := exists_removal
  have forced : (1 : Int) ∈ forcedOffCodes := by decide
  have spared : (5 : Int) ∉ forcedOffCodes := by decide
  have run := runs_destroy_of_forced 1 2 forced spared removes
  exact ⟨_, final, run, destroy_heeds_reports run, by simp [oneDiskMachine], by
    simp [undefining, oneDiskMachine]⟩

/-- A number outside the table is reported, from which the machine would not be powered on: its
domain is undefined without a forced stop, and its files are removed. -/
theorem unknown_state_removed : ∃ earlier later final,
    (destroy (oneDiskMachine "web")).run.Runs
      (reportingConduct fun _ before _ after => after = before) deployedFiles
      (earlier ++ called deployedFiles (.undefine "web") (.ok ()) :: later)
      (.ok (.destroyed 0 true)) final ∧
    LastReported deployedFiles "web" earlier 42 7 ∧
    powerOn (oneDiskMachine "web") (.ofCodes 42 7) ≠ startUp (oneDiskMachine "web") ∧
    (∀ event ∈ earlier, ∀ domain, event.request ≠ .hypervisor (.stop domain)) ∧
    ∀ path ∈ (oneDiskMachine "web").files,
      deployedFiles.isFile path = true ∧ final.isFile path = false := by
  obtain ⟨files, final, removes, gone⟩ := exists_removal
  have spared : (42 : Int) ∉ forcedOffCodes := by decide
  have calls : ∀ event ∈ [called deployedFiles .domains (.ok ["web"]),
      reported deployedFiles "web" 42 7, called deployedFiles (.snapshots "web") (.ok [])],
      ∀ domain, event.request ≠ .hypervisor (.stop domain) := by
    simp [called, reported]
  exact ⟨_, files, final, runs_destroy_of_spared 7 spared removes,
    ⟨[_], [_], rfl, by simp [called]⟩, powerOn_ofCodes_eq_startUp.not.mpr (by decide), calls, gone⟩

end Lab

end VirtualLab
