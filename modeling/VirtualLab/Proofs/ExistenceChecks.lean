import VirtualLab.Proofs.ClientNames
import VirtualLab.Proofs.Removal

/-!
# What exists, by the client

A lab learns which domains and snapshots exist from lists that the client prints. It acts as if
each name were the printed one without the blanks at its ends. So it is exact where no name has
such blanks, and never finds a machine whose name has them.
-/

namespace VirtualLab

open Hypervisor

namespace Hypervisor.Virsh

variable {σ α : Type} {uri : String} {conduct : Conduct σ} {start final : σ}
  {events : List (Event σ)}

/-! ## Surroundings seen through the client -/

def clientRun (uri : String) (call : Call) : Request :=
  .runTool tool ("-c" :: uri :: arguments call)

theorem clientRun_injective {first second : Call}
    (equal : clientRun uri first = clientRun uri second) : first = second := by
  unfold clientRun at equal
  injection equal with _ same
  cases first <;> cases second <;> simp_all [arguments]

/-- What a task sees of surroundings in which it reaches the hypervisor by the client. -/
def seen (uri : String) (conduct : Conduct σ) : Conduct σ
  | .hypervisor call, before, answer, after =>
    ∃ given, conduct (clientRun uri call) before given after ∧ answer = readAnswer uri call given
  | request, before, answer, after => conduct request before answer after

inductive SeenAs (uri : String) : Event σ → Event σ → Prop
  | call {before after : σ} (call : Call) (given : Except ToolFailure ToolOutput) :
      SeenAs uri ⟨before, .hypervisor call, readAnswer uri call given, after⟩
        ⟨before, clientRun uri call, given, after⟩
  | other {event : Event σ} (other : ∀ call, event.request ≠ .hypervisor call) :
      SeenAs uri event event

theorem exists_of_mem_right {β : Type} {relation : α → β → Prop} {left : List α} {right : List β}
    (related : List.Forall₂ relation left right) :
    ∀ second ∈ right, ∃ first ∈ left, relation first second := by
  induction related with
  | nil => exact List.forall_mem_nil _
  | cons holds _ induction =>
    intro second member
    rcases List.mem_cons.mp member with rfl | later
    · exact ⟨_, List.mem_cons_self, holds⟩
    · obtain ⟨first, among, related⟩ := induction second later
      exact ⟨first, List.mem_cons_of_mem _ among, related⟩

theorem runs_answer {request : Request} {given : request.Answer}
    (run : (answer uri request).Runs conduct start events given final) :
    seen uri conduct request start given final ∧
      ∃ event, SeenAs uri ⟨start, request, given, final⟩ event ∧ events = [event] := by
  cases request with
  | hypervisor call =>
    obtain ⟨shown, middle, rest, conducted, ended, rfl⟩ := Script.runs_ask.mp run
    obtain ⟨rfl, rfl, rfl⟩ := Script.runs_pure.mp ended
    exact ⟨⟨shown, conducted, rfl⟩, _, .call call shown, rfl⟩
  | _ =>
    obtain ⟨conducted, rfl⟩ := Script.runs_request.mp run
    exact ⟨conducted, _, .other nofun, rfl⟩

/-- A run through the client is a run in the surroundings seen through it. -/
theorem runs_answering {script : Script α} {value : α}
    (run : (script.answering (answer uri)).Runs conduct start events value final) :
    ∃ asked, script.Runs (seen uri conduct) start asked value final ∧
      List.Forall₂ (SeenAs uri) asked events := by
  induction script generalizing start events with
  | done given =>
    obtain ⟨rfl, rfl, rfl⟩ := Script.runs_pure.mp run
    exact ⟨[], .done _ _, .nil⟩
  | ask request next induction =>
    obtain ⟨given, early, middle, late, first, rest, rfl⟩ := Script.runs_bind.mp run
    obtain ⟨conducted, event, sees, rfl⟩ := runs_answer first
    obtain ⟨asked, following, seeing⟩ := induction given rest
    exact ⟨_, .ask conducted following, .cons sees seeing⟩

theorem runs_through {task : LabTask α} {outcome : Except LabError α}
    (run : (through uri task).run.Runs conduct start events outcome final) :
    ∃ asked, task.run.Runs (seen uri conduct) start asked outcome final ∧
      List.Forall₂ (SeenAs uri) asked events :=
  runs_answering run

end Hypervisor.Virsh

def Request.deletion : Request → Option (String × String)
  | .hypervisor (.deleteSnapshot domain snapshot) => some (domain, snapshot)
  | .runTool "virsh"
      ["-c", _, "snapshot-delete", "--domain", domain, "--snapshotname", snapshot] =>
    some (domain, snapshot)
  | _ => none

def deletions {σ : Type} (events : List (Event σ)) : List (String × String) :=
  events.filterMap (·.request.deletion)

namespace Lab

variable {σ : Type} {conduct : Conduct σ} {start final : σ} {events early late : List (Event σ)}
  {machine : Machine} {domain : String}

/-! ## What a task does by the lists it is given -/

structure Lists (conduct : Conduct σ) (domains : σ → List String)
    (snapshots : σ → String → List String) : Prop where
  domains : ∀ {before names after},
    conduct (.hypervisor .domains) before (.ok names) after → names = domains before
  snapshots : ∀ {domain before names after},
    conduct (.hypervisor (.snapshots domain)) before (.ok names) after →
      names = snapshots before domain

def listing (before : σ) (domain : String) (names : List String) (after : σ) : Event σ :=
  ⟨before, .hypervisor (.snapshots domain), .ok names, after⟩

theorem names_of_listing {α : Type} {domains : σ → List String}
    {snapshots : σ → String → List String} (lists : Lists conduct domains snapshots)
    {script : Script α} {value : α} (run : script.Runs conduct start events value final)
    {before after : σ} {names : List String}
    (member : listing before domain names after ∈ events) : names = snapshots before domain :=
  lists.snapshots (run.conducted _ member)

def Quiet (request : Request) : Prop :=
  request.deletion = none ∧ ∀ domain, request ≠ .hypervisor (.snapshots domain)

theorem deletions_append : deletions (early ++ late) = deletions early ++ deletions late :=
  List.filterMap_append

theorem deletions_of_quiet (quiet : ∀ event ∈ events, Quiet event.request) :
    deletions events = [] :=
  List.filterMap_eq_nil_iff.mpr fun event member => (quiet event member).1

theorem listing_not_quiet {before after : σ} {names : List String} :
    ¬ Quiet (listing before domain names after).request :=
  fun quiet => quiet.2 domain rfl

/-- Whenever snapshots were listed, those of the machine were, and of the listed names just these
were asked to be deleted. -/
structure DeletesListed (machine : Machine) (asked : List String → List String)
    (events : List (Event σ)) : Prop where
  listed : ∀ {before domain names after}, listing before domain names after ∈ events →
    domain = machine.vmName ∧ deletions events = (asked names).map (machine.vmName, ·)

theorem DeletesListed.of_quiet {asked : List String → List String}
    (quiet : ∀ event ∈ events, Quiet event.request) : DeletesListed machine asked events :=
  ⟨fun member => absurd (quiet _ member) listing_not_quiet⟩

theorem DeletesListed.after_quiet {asked : List String → List String}
    (quiet : ∀ event ∈ early, Quiet event.request) (deletes : DeletesListed machine asked late) :
    DeletesListed machine asked (early ++ late) := by
  constructor
  intro before domain names after member
  rcases List.mem_append.mp member with first | later
  · exact absurd (quiet _ first) listing_not_quiet
  · rw [deletions_append, deletions_of_quiet quiet]
    exact deletes.listed later

theorem lookup_quiet {outcome : Except LabError (Option DomainStatus)}
    (run : (Hypervisor.lookup domain).run.Runs conduct start events outcome final) :
    ∀ event ∈ events, Quiet event.request :=
  (lookup_confined ⟨rfl, nofun⟩ ⟨rfl, nofun⟩).requests run

theorem require_quiet {outcome : Except LabError DomainStatus}
    (run : (require domain).run.Runs conduct start events outcome final) :
    ∀ event ∈ events, Quiet event.request :=
  (require_confined ⟨rfl, nofun⟩ ⟨rfl, nofun⟩).requests run

/-- A domain is found exactly when it is listed. -/
theorem found_iff_listed {domains : σ → List String} {snapshots : σ → String → List String}
    (lists : Lists conduct domains snapshots) {found : Option DomainStatus}
    (run : (Hypervisor.lookup domain).run.Runs conduct start events (.ok found) final) :
    found = none ↔ domain ∉ domains start := by
  obtain ⟨names, _, _, _, listed, rest, rfl⟩ := Attempt.runs_bind_ok.mp run
  obtain rfl := lists.domains (runs_perform_iff.mp listed).1
  split at rest
  · rename_i member
    obtain ⟨status, _, _, _, _, ended, _⟩ := Attempt.runs_bind_ok.mp rest
    obtain ⟨_, equal, _⟩ := Attempt.runs_pure.mp ended
    cases equal
    simpa using member
  · rename_i missing
    obtain ⟨_, equal, _⟩ := Attempt.runs_pure.mp rest
    cases equal
    simpa using missing

/-! ### Bringing a machine up -/

def IsCall (request : Request) : Prop := ∃ call, request = .hypervisor call

theorem isCall (call : Call) : IsCall (.hypervisor call) := ⟨call, rfl⟩

theorem up_of_listed {domains : σ → List String} {snapshots : σ → String → List String}
    (lists : Lists conduct domains snapshots) {lab : Lab} {outcome : Except LabError UpOutcome}
    (listed : machine.vmName ∈ domains start)
    (run : (lab.up machine).run.Runs conduct start events outcome final) :
    outcome ≠ .ok .deployed ∧ ∀ event ∈ events, IsCall event.request := by
  rw [up_eq_powerOn] at run
  rcases Attempt.runs_bind.mp run with
    ⟨failure, failed, rfl⟩ | ⟨found, looking, _, later, looked, rest, rfl⟩
  · exact ⟨nofun, (lookup_confined (isCall _) (isCall _)).requests failed⟩
  · cases found with
    | none => exact absurd listed ((found_iff_listed lists looked).mp rfl)
    | some status =>
      constructor
      · rintro rfl
        exact not_deployed_of_powerOn rest
      · refine List.forall_mem_append.mpr ⟨?_, ?_⟩
        · exact (lookup_confined (isCall _) (isCall _)).requests looked
        · exact (powerOn_confined isCall).requests rest

/-! ### Destroying a machine -/

theorem forceOff_quiet {outcome : Except LabError Unit}
    (run : (forceOff domain).run.Runs conduct start events outcome final) :
    ∀ event ∈ events, Quiet event.request := by
  have confined : (forceOff domain).Confined Quiet fun _ => True := by
    apply Attempt.confined_bind (perform_confined ⟨rfl, nofun⟩)
    intro _
    apply Attempt.confined_bind (require_confined ⟨rfl, nofun⟩ ⟨rfl, nofun⟩)
    intro status
    split
    · exact Attempt.confined_throw trivial
    · exact Attempt.confined_pure _
  exact confined.requests run

theorem removeFiles_quiet {gone : Bool}
    (run : (removeFiles machine).Runs conduct start events gone final) :
    ∀ event ∈ events, Quiet event.request := by
  intro event member
  have removes := run.request_of_confined removeFiles_removes event member
  cases equal : event.request with
  | pathExists path => exact ⟨rfl, nofun⟩
  | removeFile path => exact ⟨rfl, nofun⟩
  | removeDirectory path => exact ⟨rfl, nofun⟩
  | _ =>
    rw [equal] at removes
    exact removes.elim

theorem requests_of_deleteSnapshots {snapshots : List String}
    {outcome : Except LabError (List String)}
    (run : (deleteSnapshots domain snapshots).run.Runs conduct start events outcome final) :
    (∃ left, outcome = .ok left) ∧
      events.map (·.request) =
        snapshots.map fun snapshot => .hypervisor (.deleteSnapshot domain snapshot) := by
  induction snapshots generalizing start events outcome final with
  | nil =>
    obtain ⟨rfl, rfl, rfl⟩ := Attempt.runs_pure.mp run
    exact ⟨⟨[], rfl⟩, rfl⟩
  | cons snapshot rest induction =>
    obtain ⟨deleted, _, _, _, asked, following, rfl⟩ := Attempt.runs_lift_bind.mp run
    obtain ⟨_, rfl⟩ := runs_perform_iff.mp asked
    rcases Attempt.runs_bind.mp following with
      ⟨_, failed, _⟩ | ⟨left, _, _, _, others, ended, rfl⟩
    · obtain ⟨⟨_, impossible⟩, _⟩ := induction failed
      cases impossible
    · obtain ⟨_, requests⟩ := induction others
      cases deleted <;> obtain ⟨rfl, rfl, rfl⟩ := Attempt.runs_pure.mp ended
      all_goals
        refine ⟨⟨_, rfl⟩, ?_⟩
        simp [requests]

theorem deletions_of_requests {names : List String}
    (requests : events.map (·.request) =
      names.map fun snapshot => .hypervisor (.deleteSnapshot domain snapshot)) :
    deletions events = names.map (domain, ·) := by
  have asked : deletions events = (events.map (·.request)).filterMap Request.deletion := by
    rw [List.filterMap_map]
    rfl
  rw [asked, requests, List.filterMap_map]
  exact congrFun List.filterMap_eq_map names

theorem DeletesListed.of_parts {asked : List String → List String} {before after : σ}
    {names : List String}
    (requests : early.map (·.request) =
      (asked names).map fun snapshot => .hypervisor (.deleteSnapshot machine.vmName snapshot))
    (quiet : ∀ event ∈ late, Quiet event.request) :
    DeletesListed machine asked (listing before machine.vmName names after :: early ++ late) := by
  constructor
  intro otherBefore domain otherNames otherAfter member
  rw [List.cons_append] at member
  rcases List.mem_cons.mp member with same | member
  · cases same
    refine ⟨rfl, ?_⟩
    rw [deletions_append, deletions_of_quiet quiet, List.append_nil]
    change deletions early = _
    exact deletions_of_requests requests
  · rcases List.mem_append.mp member with deleting | later
    · have request := List.mem_map_of_mem deleting (f := fun event : Event σ => event.request)
      rw [requests] at request
      obtain ⟨_, _, impossible⟩ := List.mem_map.mp request
      cases impossible
    · exact absurd (quiet _ later) listing_not_quiet

structure Emptied (machine : Machine) (events : List (Event σ))
    (outcome : Except LabError DestroyOutcome) : Prop where
  deletes : DeletesListed machine id events
  counts : ∀ {count gone}, outcome = .ok (.destroyed count gone) →
    ∃ before names after, listing before machine.vmName names after ∈ events ∧
      count = names.length

theorem Emptied.after_quiet {outcome : Except LabError DestroyOutcome}
    (quiet : ∀ event ∈ early, Quiet event.request) (emptied : Emptied machine late outcome) :
    Emptied machine (early ++ late) outcome where
  deletes := .after_quiet quiet emptied.deletes
  counts := by
    intro count gone destroyed
    obtain ⟨before, names, after, member, counted⟩ := emptied.counts destroyed
    exact ⟨before, names, after, List.mem_append_right _ member, counted⟩

theorem emptied_of_removeDomain {outcome : Except LabError DestroyOutcome}
    (run : (removeDomain machine).run.Runs conduct start events outcome final) :
    Emptied machine events outcome := by
  rcases Attempt.runs_bind.mp run with
    ⟨failure, failed, rfl⟩ | ⟨names, _, _, _, listed, deleting, rfl⟩
  · obtain ⟨_, rfl⟩ := runs_perform_iff.mp failed
    refine ⟨⟨fun member => ?_⟩, nofun⟩
    cases List.mem_singleton.mp member
  · obtain ⟨_, rfl⟩ := runs_perform_iff.mp listed
    rcases Attempt.runs_bind.mp deleting with
      ⟨_, failed, _⟩ | ⟨left, asked, _, rest, deleted, finishing, rfl⟩
    · obtain ⟨⟨_, impossible⟩, _⟩ := requests_of_deleteSnapshots failed
      cases impossible
    · obtain ⟨_, requests⟩ := requests_of_deleteSnapshots deleted
      -- What follows the deletions says no more of snapshots and gives their number.
      have finished : (∀ event ∈ rest, Quiet event.request) ∧
          ∀ count gone, outcome = .ok (.destroyed count gone) → count = names.length := by
        split at finishing
        · obtain ⟨rfl, rfl, _⟩ := Attempt.runs_throw.mp finishing
          exact ⟨List.forall_mem_nil _, nofun⟩
        · rcases Attempt.runs_bind.mp finishing with
            ⟨_, failed, rfl⟩ | ⟨_, _, _, _, undefined, removing, rfl⟩
          · obtain ⟨_, rfl⟩ := runs_perform_iff.mp failed
            exact ⟨List.forall_mem_singleton.mpr ⟨rfl, nofun⟩, nofun⟩
          · obtain ⟨_, rfl⟩ := runs_perform_iff.mp undefined
            obtain ⟨gone, _, _, _, removes, ended, rfl⟩ := Attempt.runs_lift_bind.mp removing
            obtain ⟨rfl, rfl, rfl⟩ := Attempt.runs_pure.mp ended
            rw [List.append_nil]
            refine ⟨List.forall_mem_cons.mpr ⟨⟨rfl, nofun⟩, removeFiles_quiet removes⟩, ?_⟩
            rintro count gone equal
            cases equal
            rfl
      rw [List.singleton_append, ← List.cons_append]
      refine ⟨.of_parts requests finished.1, fun destroyed => ?_⟩
      exact ⟨_, names, _, List.mem_cons_self, finished.2 _ _ destroyed⟩

theorem emptied_of_destroy {outcome : Except LabError DestroyOutcome}
    (run : (destroy machine).run.Runs conduct start events outcome final) :
    Emptied machine events outcome := by
  rw [destroy_eq_removeDomain] at run
  rcases Attempt.runs_bind.mp run with
    ⟨failure, failed, rfl⟩ | ⟨found, _, _, _, looked, rest, rfl⟩
  · exact ⟨.of_quiet (lookup_quiet failed), nofun⟩
  · apply Emptied.after_quiet (lookup_quiet looked)
    cases found with
    | none =>
      obtain ⟨rfl, rfl, _⟩ := Attempt.runs_pure.mp rest
      exact ⟨.of_quiet (List.forall_mem_nil _), nofun⟩
    | some status =>
      dsimp only at rest
      split at rest
      · rcases Attempt.runs_bind.mp rest with
          ⟨_, failed, rfl⟩ | ⟨_, _, _, _, forced, removing, rfl⟩
        · exact ⟨.of_quiet (forceOff_quiet failed), nofun⟩
        · exact .after_quiet (forceOff_quiet forced) (emptied_of_removeDomain removing)
      · exact emptied_of_removeDomain rest

theorem destroyed_of_removeDomain {value : DestroyOutcome}
    (run : (removeDomain machine).run.Runs conduct start events (.ok value) final) :
    ∃ count gone, value = .destroyed count gone := by
  obtain ⟨names, _, _, _, _, deleting, _⟩ := Attempt.runs_bind_ok.mp run
  obtain ⟨left, _, _, _, _, finishing, _⟩ := Attempt.runs_bind_ok.mp deleting
  split at finishing
  · obtain ⟨_, impossible, _⟩ := Attempt.runs_throw.mp finishing
    cases impossible
  · obtain ⟨_, _, _, _, _, removing, _⟩ := Attempt.runs_bind_ok.mp finishing
    obtain ⟨gone, _, _, _, _, ended, _⟩ := Attempt.runs_lift_bind.mp removing
    obtain ⟨_, equal, _⟩ := Attempt.runs_pure.mp ended
    exact ⟨_, gone, Except.ok.inj equal⟩

theorem notListed_of_destroy {domains : σ → List String} {snapshots : σ → String → List String}
    (lists : Lists conduct domains snapshots)
    (run : (destroy machine).run.Runs conduct start events (.ok .notDeployed) final) :
    machine.vmName ∉ domains start := by
  rw [destroy_eq_removeDomain] at run
  obtain ⟨found, _, _, _, looked, rest, _⟩ := Attempt.runs_bind_ok.mp run
  cases found with
  | none => exact (found_iff_listed lists looked).mp rfl
  | some status =>
    dsimp only at rest
    split at rest
    · obtain ⟨_, _, _, _, _, removing, _⟩ := Attempt.runs_bind_ok.mp rest
      obtain ⟨_, _, impossible⟩ := destroyed_of_removeDomain removing
      cases impossible
    · obtain ⟨_, _, impossible⟩ := destroyed_of_removeDomain rest
      cases impossible

/-! ### Deleting one snapshot -/

def chosen (snapshot : String) (names : List String) : List String :=
  if snapshot ∈ names then [snapshot] else []

theorem deletes_of_deleteSnapshot {snapshot : String} {outcome : Except LabError Unit}
    (run : (deleteSnapshot machine snapshot).run.Runs conduct start events outcome final) :
    DeletesListed machine (chosen snapshot) events ∧
      (outcome = .ok () → ∃ before names after,
        listing before machine.vmName names after ∈ events ∧ snapshot ∈ names) := by
  rcases Attempt.runs_bind.mp run with
    ⟨failure, failed, rfl⟩ | ⟨_, _, before, _, requires, rest, rfl⟩
  · exact ⟨.of_quiet (require_quiet failed), nofun⟩
  · rcases Attempt.runs_bind.mp rest with
      ⟨failure, failed, rfl⟩ | ⟨names, _, after, _, listed, deleting, rfl⟩
    · obtain ⟨_, rfl⟩ := runs_perform_iff.mp failed
      refine ⟨.after_quiet (require_quiet requires) ⟨fun member => ?_⟩, nofun⟩
      cases List.mem_singleton.mp member
    · obtain ⟨_, rfl⟩ := runs_perform_iff.mp listed
      rw [List.singleton_append, ← List.append_nil (_ :: _)]
      split at deleting
      · rename_i known
        obtain ⟨_, rfl⟩ := runs_perform_iff.mp deleting
        constructor
        · apply DeletesListed.after_quiet (require_quiet requires)
          apply DeletesListed.of_parts _ (List.forall_mem_nil _)
          rw [chosen, if_pos known]
          rfl
        · intro deleted
          exact ⟨before, names, after, List.mem_append_right _ List.mem_cons_self, known⟩
      · rename_i unknown
        obtain ⟨rfl, rfl, _⟩ := Attempt.runs_throw.mp deleting
        constructor
        · apply DeletesListed.after_quiet (require_quiet requires)
          apply DeletesListed.of_parts _ (List.forall_mem_nil _)
          rw [chosen, if_neg unknown]
          rfl
        · exact nofun

/-! ## What a lab does by the client -/

open Hypervisor.Virsh

variable {uri : String} {domains : σ → List String} {snapshots : σ → String → List String}

structure Prints (uri : String) (conduct : Conduct σ) (domains : σ → List String)
    (snapshots : σ → String → List String) : Prop where
  printsDomains : ∀ {before output after},
    conduct (clientRun uri .domains) before (.ok output) after →
      output.stdout = printed (domains before)
  printsSnapshots : ∀ {domain before output after},
    conduct (clientRun uri (.snapshots domain)) before (.ok output) after →
      output.stdout = printed (snapshots before domain)
  listableDomains : ∀ state, ∀ name ∈ domains state, Listable name
  listableSnapshots : ∀ state domain, ∀ name ∈ snapshots state domain, Listable name

/-- Through the client, names are listed without the blanks at their ends. -/
theorem Prints.lists (prints : Prints uri conduct domains snapshots) :
    Lists (seen uri conduct) (fun state => (domains state).map Text.trim)
      fun state domain => (snapshots state domain).map Text.trim where
  domains := by
    rintro before names after ⟨given, conducted, answered⟩
    cases given with
    | error failure => cases answered
    | ok output =>
      cases answered
      rw [prints.printsDomains conducted, readNames_printed (prints.listableDomains before)]
  snapshots := by
    rintro domain before names after ⟨given, conducted, answered⟩
    cases given with
    | error failure => cases answered
    | ok output =>
      cases answered
      rw [prints.printsSnapshots conducted,
        readNames_printed (prints.listableSnapshots before domain)]

def printing (uri : String) (before : σ) (domain : String) (output : ToolOutput) (after : σ) :
    Event σ :=
  ⟨before, clientRun uri (.snapshots domain), .ok output, after⟩

theorem printing_of_listing {before after : σ} {names : List String} {event : Event σ}
    (sees : SeenAs uri (listing before domain names after) event) :
    ∃ output, event = printing uri before domain output after ∧
      names = readNames output.stdout := by
  generalize shown : listing before domain names after = asked at sees
  cases sees with
  | call call given =>
    obtain ⟨rfl, same, answered, rfl⟩ := Event.mk.inj shown
    cases same
    cases given with
    | error failure => cases answered
    | ok output =>
      cases answered
      exact ⟨output, rfl, rfl⟩
  | other other =>
    subst shown
    exact absurd rfl (other _)

theorem listing_of_printing {before after : σ} {output : ToolOutput} {asked : Event σ}
    (sees : SeenAs uri asked (printing uri before domain output after))
    (apart : ∀ arguments, asked.request ≠ .runTool tool arguments) :
    asked = listing before domain (readNames output.stdout) after := by
  generalize shown : printing uri before domain output after = event at sees
  cases sees with
  | call call given =>
    obtain ⟨rfl, same, answered, rfl⟩ := Event.mk.inj shown
    obtain rfl := clientRun_injective same
    cases answered
    rfl
  | other other =>
    subst shown
    exact absurd rfl (apart _)

theorem deletions_of_seen {asked : List (Event σ)}
    (sees : List.Forall₂ (SeenAs uri) asked events) : deletions events = deletions asked := by
  have one : ∀ {first second : Event σ}, SeenAs uri first second →
      second.request.deletion = first.request.deletion := by
    intro first second sees
    cases sees with
    | call call given => cases call <;> rfl
    | other other => rfl
  induction sees with
  | nil => rfl
  | cons first _ induction =>
    simp only [deletions, List.filterMap_cons] at induction ⊢
    rw [one first, induction]

theorem ne_client_of_concerns {request : Request} (concerns : request.Concerns machine)
    (arguments : List String) : request ≠ .runTool tool arguments := by
  rintro rfl
  rcases concerns with (⟨creating, _⟩ | ⟨packing, _⟩) | removes | ⟨install, _, installing⟩
  · exact absurd creating (by decide)
  · exact absurd packing (by decide)
  · exact removes
  · exact absurd (Request.runTool.inj installing).1 (by decide)

structure ChecksAgainst (conduct : Conduct σ) (uri : String) (lab : Lab) (machine : Machine)
    (domains : σ → List String) (snapshots : σ → String → List String) : Prop where
  /-- A machine is not found exactly if it is not defined. -/
  looked : ∀ {start events found final},
    (through uri (lookup machine.vmName)).run.Runs conduct start events (.ok found) final →
      (found = none ↔ machine.vmName ∉ domains start)
  /-- A machine that is defined is not created: calls are put to the client, and nothing else is
  done. -/
  spared : ∀ {start events outcome final},
    (through uri (lab.up machine)).run.Runs conduct start events outcome final →
      machine.vmName ∈ domains start →
        outcome ≠ .ok .deployed ∧ ∀ event ∈ events, ∃ call, event.request = clientRun uri call
  /-- A machine that is defined is not overlooked by its removal. -/
  absent : ∀ {start events final},
    (through uri (destroy machine)).run.Runs conduct start events (.ok .notDeployed) final →
      machine.vmName ∉ domains start
  /-- A removal that gets to the snapshots asks each one to be deleted by its name. -/
  removal : ∀ {start events outcome final},
    (through uri (destroy machine)).run.Runs conduct start events outcome final →
      ∀ {before output after}, printing uri before machine.vmName output after ∈ events →
        deletions events = (snapshots before machine.vmName).map (machine.vmName, ·)
  /-- A machine is not destroyed before that, and all its snapshots are counted. -/
  removed : ∀ {start events count gone final},
    (through uri (destroy machine)).run.Runs conduct start events (.ok (.destroyed count gone))
      final → ∃ before output after, printing uri before machine.vmName output after ∈ events ∧
        count = (snapshots before machine.vmName).length
  /-- A snapshot is asked to be deleted exactly if the machine has it, and by its name. -/
  deletion : ∀ {snapshot start events outcome final},
    (through uri (deleteSnapshot machine snapshot)).run.Runs conduct start events outcome final →
      ∀ {before output after}, printing uri before machine.vmName output after ∈ events →
        deletions events =
          (chosen snapshot (snapshots before machine.vmName)).map (machine.vmName, ·)
  /-- Deleting a snapshot succeeds only if the machine had it. -/
  deleted : ∀ {snapshot start events final},
    (through uri (deleteSnapshot machine snapshot)).run.Runs conduct start events (.ok ()) final →
      ∃ before output after, printing uri before machine.vmName output after ∈ events ∧
        snapshot ∈ snapshots before machine.vmName

theorem DeletesListed.through {asking : List String → List String} {asked : List (Event σ)}
    (deletes : DeletesListed machine asking asked)
    (concerns : ∀ event ∈ asked, event.request.Concerns machine)
    (sees : List.Forall₂ (SeenAs uri) asked events)
    {before after : σ} {output : ToolOutput}
    (printed : printing uri before machine.vmName output after ∈ events) :
    listing before machine.vmName (readNames output.stdout) after ∈ asked ∧
      deletions events = (asking (readNames output.stdout)).map (machine.vmName, ·) := by
  obtain ⟨event, member, seen⟩ := exists_of_mem_right sees _ printed
  obtain rfl := listing_of_printing seen (ne_client_of_concerns (concerns event member))
  rw [deletions_of_seen sees]
  exact ⟨member, (deletes.listed member).2⟩

theorem checks_of_prints (prints : Prints uri conduct domains snapshots) (lab : Lab)
    (machine : Machine) :
    ChecksAgainst conduct uri lab machine (fun state => (domains state).map Text.trim)
      fun state domain => (snapshots state domain).map Text.trim := by
  have lists := prints.lists
  constructor
  case looked =>
    intro start events found final run
    obtain ⟨asked, run, sees⟩ := runs_through run
    exact found_iff_listed lists run
  case spared =>
    intro start events outcome final run defined
    obtain ⟨asked, run, sees⟩ := runs_through run
    obtain ⟨notDeployed, calls⟩ := up_of_listed lists defined run
    apply And.intro notDeployed
    intro event member
    obtain ⟨first, among, seen⟩ := exists_of_mem_right sees event member
    cases seen with
    | call call given => exact ⟨call, rfl⟩
    | other other =>
      obtain ⟨call, isCall⟩ := calls event among
      exact absurd isCall (other call)
  case absent =>
    intro start events final run
    obtain ⟨asked, run, _⟩ := runs_through run
    have missing := notListed_of_destroy lists run
    exact missing
  case removal =>
    intro start events outcome final run before output after printed
    obtain ⟨asked, run, sees⟩ := runs_through run
    obtain ⟨member, deletes⟩ := (emptied_of_destroy run).deletes.through
      ((destroy_concerns machine).requests run) sees printed
    rw [deletes, names_of_listing lists run member, id]
  case removed =>
    intro start events count gone final run
    obtain ⟨asked, run, sees⟩ := runs_through run
    obtain ⟨before, names, after, member, rfl⟩ := (emptied_of_destroy run).counts rfl
    obtain ⟨event, among, seen⟩ := exists_of_mem_right sees.flip _ member
    obtain ⟨output, rfl, _⟩ := printing_of_listing seen
    refine ⟨before, output, after, among, ?_⟩
    rw [names_of_listing lists run member]
  case deletion =>
    intro snapshot start events outcome final run before output after printed
    obtain ⟨asked, run, sees⟩ := runs_through run
    obtain ⟨member, deletes⟩ := (deletes_of_deleteSnapshot run).1.through
      ((deleteSnapshot_makes machine snapshot).concerns.requests run) sees printed
    rw [deletes, names_of_listing lists run member]
  case deleted =>
    intro snapshot start events final run
    obtain ⟨asked, run, sees⟩ := runs_through run
    obtain ⟨before, names, after, member, known⟩ := (deletes_of_deleteSnapshot run).2 rfl
    obtain ⟨event, among, seen⟩ := exists_of_mem_right sees.flip _ member
    obtain ⟨output, rfl, _⟩ := printing_of_listing seen
    refine ⟨before, output, after, among, ?_⟩
    rwa [names_of_listing lists run member] at known

/-- Printed names are read back without the blanks at their ends, so as they are exactly if they
have none. A lab checks against the names that are read back: it is exact where no name has blanks
at an end, and a machine whose own name has them is never found. -/
theorem existence_checks_exact (prints : Prints uri conduct domains snapshots) (lab : Lab)
    (machine : Machine) :
    (∀ names, (∀ name ∈ names, Listable name) →
      readNames (printed names) = names.map Text.trim ∧
        (readNames (printed names) = names ↔ ∀ name ∈ names, Text.trim name = name)) ∧
    ChecksAgainst conduct uri lab machine (fun state => (domains state).map Text.trim)
      (fun state domain => (snapshots state domain).map Text.trim) ∧
    ((∀ state, ∀ name ∈ domains state, Text.trim name = name) →
      (∀ state domain, ∀ name ∈ snapshots state domain, Text.trim name = name) →
        ChecksAgainst conduct uri lab machine domains snapshots) ∧
    (Text.trim machine.vmName ≠ machine.vmName → ∀ {start events found final},
      (through uri (lookup machine.vmName)).run.Runs conduct start events (.ok found) final →
        found = none) := by
  have checks := checks_of_prints prints lab machine
  refine ⟨?_, checks, ?_, ?_⟩
  · intro names listable
    exact ⟨readNames_printed listable, readNames_printed_eq_self_iff listable⟩
  · intro plainDomains plainSnapshots
    have sameDomains : (fun state => (domains state).map Text.trim) = domains := by
      funext state
      exact Text.map_trim_eq_self_iff.mpr (plainDomains state)
    have sameSnapshots :
        (fun state domain => (snapshots state domain).map Text.trim) = snapshots := by
      funext state domain
      exact Text.map_trim_eq_self_iff.mpr (plainSnapshots state domain)
    rwa [sameDomains, sameSnapshots] at checks
  · intro blanks start events found final run
    exact (checks.looked run).mpr (Text.notMem_map_trim blanks _)

/-! ### Two names -/

def clientOf (domains snapshots : List String) :
    List String → FileSystem → Except ToolFailure ToolOutput × FileSystem
  | ["-c", _, "list", "--all", "--name"], files => (.ok { stdout := printed domains }, files)
  | ["-c", _, "snapshot-list", "--domain", _, "--name"], files =>
    (.ok { stdout := printed snapshots }, files)
  | ["-c", _, "domstats", "--state", _], files =>
    (.ok { stdout := "  state.state=5\n  state.reason=1\n" }, files)
  | _, files => (.ok {}, files)

def clientConduct (domains snapshots : List String) : Conduct FileSystem :=
  fun request before answer after =>
    (answer, after) =
      FileSystem.respond (clientOf domains snapshots) (fun _ => .error "") request before

theorem prints_clientConduct {defined taken : List String}
    (listableDomains : ∀ name ∈ defined, Listable name)
    (listableSnapshots : ∀ name ∈ taken, Listable name) :
    Prints uri (clientConduct defined taken) (fun _ => defined) fun _ _ => taken where
  printsDomains := by
    intro before output after answered
    cases answered
    rfl
  printsSnapshots := by
    intro domain before output after answered
    cases answered
    rfl
  listableDomains _ := listableDomains
  listableSnapshots _ _ := listableSnapshots

theorem clientConduct_respond (defined taken : List String) (request : Request)
    (files : FileSystem) :
    clientConduct defined taken request files
      (FileSystem.respond (clientOf defined taken) (fun _ => .error "") request files).1
      (FileSystem.respond (clientOf defined taken) (fun _ => .error "") request files).2 :=
  rfl

def outcomeWith {α : Type} (domains snapshots : List String) (task : LabTask α)
    (files : FileSystem) : Except LabError α :=
  ((through Environment.defaultUri task).run.run
    (FileSystem.respond (clientOf domains snapshots) fun _ => .error "") files).1

theorem runs_of_outcomeWith {α : Type} {defined taken : List String} {task : LabTask α}
    {files : FileSystem} {outcome : Except LabError α}
    (ended : outcomeWith defined taken task files = outcome) :
    ∃ events final, (through Environment.defaultUri task).run.Runs (clientConduct defined taken)
      files events outcome final := by
  obtain ⟨events, run⟩ := Script.runs_run (clientConduct_respond defined taken)
    (through Environment.defaultUri task).run files
  rw [← ended]
  exact ⟨events, _, run⟩

theorem web_found_by_client :
    (∀ {events outcome final},
      (through Environment.defaultUri (oneImageLab.up (oneDiskMachine "web"))).run.Runs
        (clientConduct ["db", "web"] ["before upgrade"]) deployedFiles events outcome final →
          outcome ≠ .ok .deployed) ∧
    ∃ events final,
      (through Environment.defaultUri (destroy (oneDiskMachine "web"))).run.Runs
        (clientConduct ["db", "web"] ["before upgrade"]) deployedFiles events
        (.ok (.destroyed 1 true)) final ∧
      deletions events = [("web", "before upgrade")] := by
  have prints : Prints Environment.defaultUri (clientConduct ["db", "web"] ["before upgrade"])
      (fun _ => ["db", "web"]) fun _ _ => ["before upgrade"] :=
    prints_clientConduct (by decide) (by decide)
  have checks := (existence_checks_exact prints oneImageLab (oneDiskMachine "web")).2.2.1
    (fun _ => by decide) (fun _ _ => by decide)
  constructor
  · intro events outcome final run
    exact (checks.spared run (by decide)).1
  · obtain ⟨events, final, run⟩ := runs_of_outcomeWith
      (show outcomeWith ["db", "web"] ["before upgrade"] (destroy (oneDiskMachine "web"))
        deployedFiles = .ok (.destroyed 1 true) by decide +kernel)
    obtain ⟨before, output, after, member, _⟩ := checks.removed run
    exact ⟨events, final, run, checks.removal run member⟩

/-- A machine whose name begins with a blank is accepted and, once it is defined, not found: it is
created again, and destroying it answers that it is not deployed. A snapshot of such a name cannot
be deleted. -/
theorem blank_names_overlooked :
    ∃ machine, Machine.resolve Machine.pairEnvironment { vmName := some " web" } = .ok machine ∧
      Listable machine.vmName ∧ readNames (printed [machine.vmName]) = ["web"] ∧
      outcomeWith [machine.vmName] [] (lookup machine.vmName) {} = .ok none ∧
      outcomeWith [machine.vmName] [] (oneImageLab.up machine) imageWorld.files = .ok .deployed ∧
      outcomeWith [machine.vmName] [] (destroy machine) deployedFiles = .ok .notDeployed ∧
      outcomeWith ["web"] [" first"] (deleteSnapshot (oneDiskMachine "web") " first")
        deployedFiles = .error (.snapshotNotFound "web" " first") := by
  obtain ⟨machine, resolved⟩ : ∃ machine,
      Machine.resolve Machine.pairEnvironment { vmName := some " web" } = .ok machine := ⟨_, rfl⟩
  obtain rfl := Except.ok.inj resolved
  refine ⟨_, rfl, by decide, ?_, ?_, ?_, ?_, ?_⟩
  all_goals decide +kernel

end Lab

end VirtualLab
