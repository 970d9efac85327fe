import VirtualLab.Script

/-!
# Runs

Surroundings of which no more is known than what they may do: which answers they may give to a
request in a state, and which states may follow. A run of a script in such surroundings leaves a
list of events, from which everything that was asked and answered can be read.
-/

namespace VirtualLab

/-- What surroundings may do with a request in a state: answer so, and be in such a state then. -/
abbrev Conduct (σ : Type) := (request : Request) → σ → request.Answer → σ → Prop

structure Event (σ : Type) where
  before : σ
  request : Request
  answer : request.Answer
  after : σ

namespace Script

variable {σ α β : Type} {conduct : Conduct σ}

/-- A script ran to its end: from a state, with these events, to a value and a state. -/
inductive Runs (conduct : Conduct σ) : Script α → σ → List (Event σ) → α → σ → Prop
  | done (value : α) (state : σ) : Runs conduct (.done value) state [] value state
  | ask {request : Request} {next : request.Answer → Script α} {start middle final : σ}
      {answer : request.Answer} {events : List (Event σ)} {value : α}
      (answered : conduct request start answer middle)
      (rest : Runs conduct (next answer) middle events value final) :
      Runs conduct (.ask request next) start (⟨start, request, answer, middle⟩ :: events) value
        final

/-! ## Runs by the form of the script -/

theorem runs_pure {given value : α} {start final : σ} {events : List (Event σ)} :
    (pure given : Script α).Runs conduct start events value final ↔
      events = [] ∧ value = given ∧ final = start := by
  constructor
  · intro run
    cases run
    exact ⟨rfl, rfl, rfl⟩
  · rintro ⟨rfl, rfl, rfl⟩
    exact .done _ _

theorem runs_ask {request : Request} {next : request.Answer → Script α} {start final : σ}
    {events : List (Event σ)} {value : α} :
    (ask request next).Runs conduct start events value final ↔
      ∃ answer middle rest, conduct request start answer middle ∧
        (next answer).Runs conduct middle rest value final ∧
        events = ⟨start, request, answer, middle⟩ :: rest := by
  constructor
  · intro run
    cases run with
    | ask answered rest => exact ⟨_, _, _, answered, rest, rfl⟩
  · rintro ⟨answer, middle, rest, answered, run, rfl⟩
    exact .ask answered run

theorem runs_request {request : Request} {start final : σ} {events : List (Event σ)}
    {answer : request.Answer} :
    (Script.request request).Runs conduct start events answer final ↔
      conduct request start answer final ∧ events = [⟨start, request, answer, final⟩] := by
  constructor
  · intro run
    obtain ⟨_, _, _, answered, ended, rfl⟩ := runs_ask.mp run
    cases ended
    exact ⟨answered, rfl⟩
  · rintro ⟨answered, rfl⟩
    exact .ask answered (.done _ _)

theorem runs_bind {script : Script α} {next : α → Script β} {start final : σ}
    {events : List (Event σ)} {value : β} :
    (script >>= next).Runs conduct start events value final ↔
      ∃ first early middle late, script.Runs conduct start early first middle ∧
        (next first).Runs conduct middle late value final ∧ events = early ++ late := by
  constructor
  · intro run
    change (script.bind next).Runs conduct start events value final at run
    induction script generalizing start events with
    | done first => exact ⟨first, [], start, events, .done _ _, run, rfl⟩
    | ask request answered induction =>
        obtain ⟨answer, middle, rest, step, restRun, rfl⟩ := runs_ask.mp run
        obtain ⟨first, early, state, late, before, after, rfl⟩ := induction answer restRun
        exact ⟨first, _, state, late, .ask step before, after, rfl⟩
  · rintro ⟨first, early, middle, late, before, after, rfl⟩
    change (script.bind next).Runs conduct start (early ++ late) value final
    induction before with
    | done => exact after
    | ask step _ induction => exact .ask step (induction after)

theorem runs_readText {path : Path} {start final : σ} {events : List (Event σ)} {text : String} :
    (readText path).Runs conduct start events (.ok text) final ↔
      ∃ bytes, conduct (.readFile path) start (.ok bytes) final ∧ Bytes.toText? bytes = some text ∧
        events = [⟨start, .readFile path, .ok bytes, final⟩] := by
  unfold readText
  rw [runs_bind]
  constructor
  · rintro ⟨content, early, middle, late, reading, ended, rfl⟩
    obtain ⟨answered, rfl⟩ := runs_request.mp reading
    obtain ⟨rfl, equal, rfl⟩ := runs_pure.mp ended
    cases content with
    | error cause => cases equal
    | ok bytes =>
      simp only [Except.bind] at equal
      split at equal
      · rename_i decoded
        cases equal
        exact ⟨bytes, answered, decoded, rfl⟩
      · cases equal
  · rintro ⟨bytes, answered, decoded, rfl⟩
    refine ⟨.ok bytes, _, final, [], runs_request.mpr ⟨answered, rfl⟩,
      runs_pure.mpr ⟨rfl, ?_, rfl⟩, rfl⟩
    simp [Except.bind, decoded]

def asked (responder : Responder σ) : Script α → σ → List Request
  | done _, _ => []
  | ask request next, state =>
    request :: (next (responder request state).1).asked responder (responder request state).2

theorem runs_asked {responder : Responder σ}
    (conducted : ∀ request state,
      conduct request state (responder request state).1 (responder request state).2)
    (script : Script α) (start : σ) :
    ∃ events, script.Runs conduct start events
      (script.run responder start).1 (script.run responder start).2 ∧
        events.map (·.request) = script.asked responder start := by
  induction script generalizing start with
  | done value => exact ⟨[], .done value start, rfl⟩
  | ask request next induction =>
      obtain ⟨events, rest, requests⟩ :=
        induction (responder request start).1 (responder request start).2
      exact ⟨_, .ask (conducted request start) rest, congrArg (request :: ·) requests⟩

theorem runs_run {responder : Responder σ}
    (conducted : ∀ request state,
      conduct request state (responder request state).1 (responder request state).2)
    (script : Script α) (start : σ) :
    ∃ events, script.Runs conduct start events
      (script.run responder start).1 (script.run responder start).2 := by
  obtain ⟨events, run, _⟩ := runs_asked conducted script start
  exact ⟨events, run⟩

/-! ## What all events of a run have in common -/

theorem Runs.conducted {script : Script α} {start final : σ} {events : List (Event σ)} {value : α}
    (run : script.Runs conduct start events value final) :
    ∀ event ∈ events, conduct event.request event.before event.answer event.after := by
  induction run with
  | done => simp
  | ask answered _ induction => exact List.forall_mem_cons.mpr ⟨answered, induction⟩

theorem Runs.mono {script : Script α} {start final : σ} {events : List (Event σ)} {value : α}
    {other : Conduct σ}
    (allowed : ∀ {request before answer after}, conduct request before answer after →
      other request before answer after)
    (run : script.Runs conduct start events value final) :
    script.Runs other start events value final := by
  induction run with
  | done => exact .done _ _
  | ask answered _ induction => exact .ask (allowed answered) induction

/-- What every event keeps holds after every event and at the end. -/
theorem Runs.kept {script : Script α} {start final : σ} {events : List (Event σ)} {value : α}
    (run : script.Runs conduct start events value final) (holds : σ → Prop)
    (kept : ∀ event ∈ events, holds event.before → holds event.after) (started : holds start) :
    (∀ event ∈ events, holds event.after) ∧ holds final := by
  induction run with
  | done => exact ⟨by simp, started⟩
  | ask _ _ induction =>
      obtain ⟨first, rest⟩ := List.forall_mem_cons.mp kept
      obtain ⟨later, ended⟩ := induction rest (first started)
      exact ⟨List.forall_mem_cons.mpr ⟨first started, later⟩, ended⟩

theorem Runs.kept_so_far {script : Script α} {start final : σ} {events early late : List (Event σ)}
    {value : α} (run : script.Runs conduct start events value final)
    (split : events = early ++ late) (holds : σ → Prop)
    (kept : ∀ event ∈ early, holds event.before → holds event.after) (started : holds start) :
    (∀ event ∈ early, holds event.after) ∧ ∀ event ∈ late.head?, holds event.before := by
  induction run generalizing early with
  | done =>
      obtain ⟨rfl, rfl⟩ := List.nil_eq_append_iff.mp split
      simp
  | ask answered _ induction =>
      cases early with
      | nil =>
          obtain rfl : _ = late := split
          simpa using started
      | cons first others =>
          obtain ⟨rfl, following⟩ := List.cons.inj split
          obtain ⟨keepsFirst, keepsOthers⟩ := List.forall_mem_cons.mp kept
          obtain ⟨after, before⟩ := induction following keepsOthers (keepsFirst started)
          exact ⟨List.forall_mem_cons.mpr ⟨keepsFirst started, after⟩, before⟩

theorem Runs.final_mem {script : Script α} {start final : σ} {events : List (Event σ)} {value : α}
    (run : script.Runs conduct start events value final) (elsewhere : final ≠ start) :
    ∃ event ∈ events, event.after = final := by
  induction run with
  | done => exact absurd rfl elsewhere
  | @ask request next start middle final answer events value answered rest induction =>
      by_cases same : final = middle
      · exact ⟨_, List.mem_cons_self, same.symm⟩
      · obtain ⟨event, member, equal⟩ := induction same
        exact ⟨event, List.mem_cons_of_mem _ member, equal⟩

/-- What holds between the states around every event holds between the first and the last state. -/
theorem Runs.related {script : Script α} {start final : σ} {events : List (Event σ)} {value : α}
    (run : script.Runs conduct start events value final) {relation : σ → σ → Prop}
    (reflexive : ∀ state, relation state state)
    (transitive : ∀ {first second third}, relation first second → relation second third →
      relation first third)
    (related : ∀ event ∈ events, relation event.before event.after) : relation start final :=
  (run.kept (relation start) (fun event member reached =>
    transitive reached (related event member)) (reflexive start)).2

/-- A script that, whatever the answers, asks requests of one kind only and ends with values of one
kind only. -/
def Confined (allowed : Request → Prop) (holds : α → Prop) : Script α → Prop
  | done value => holds value
  | ask request next => allowed request ∧ ∀ answer, (next answer).Confined allowed holds

theorem Confined.bind {allowed : Request → Prop} {first : α → Prop} {holds : β → Prop}
    {script : Script α} {next : α → Script β} (confined : script.Confined allowed first)
    (nextConfined : ∀ value, first value → (next value).Confined allowed holds) :
    (script >>= next).Confined allowed holds := by
  change (script.bind next).Confined allowed holds
  induction script with
  | done value => exact nextConfined value confined
  | ask request answered induction =>
      exact ⟨confined.1, fun answer => induction answer (confined.2 answer)⟩

theorem Confined.mono {allowed more : Request → Prop} {holds weaker : α → Prop} {script : Script α}
    (confined : script.Confined allowed holds)
    (included : ∀ request, allowed request → more request)
    (weaken : ∀ value, holds value → weaker value) : script.Confined more weaker := by
  induction script with
  | done value => exact weaken value confined
  | ask request next induction =>
      exact ⟨included request confined.1, fun answer => induction answer (confined.2 answer)⟩

theorem Runs.request_of_confined {script : Script α} {start final : σ} {events : List (Event σ)}
    {value : α} (run : script.Runs conduct start events value final) {allowed : Request → Prop}
    {holds : α → Prop} (confined : script.Confined allowed holds) :
    ∀ event ∈ events, allowed event.request := by
  induction run with
  | done => simp
  | ask _ _ induction =>
      exact List.forall_mem_cons.mpr ⟨confined.1, induction (confined.2 _)⟩

/-- Surroundings that may do more with what a script asks have the same runs of it. -/
theorem Runs.mono_of_confined {script : Script α} {start final : σ} {events : List (Event σ)}
    {value : α} {other : Conduct σ} {allowed : Request → Prop} {holds : α → Prop}
    (confined : script.Confined allowed holds)
    (agrees : ∀ {request before answer after}, allowed request →
      conduct request before answer after → other request before answer after)
    (run : script.Runs conduct start events value final) :
    script.Runs other start events value final := by
  induction run with
  | done => exact .done _ _
  | ask answered _ induction =>
      exact .ask (agrees confined.1 answered) (induction (confined.2 _))

theorem Runs.value_of_confined {script : Script α} {start final : σ} {events : List (Event σ)}
    {value : α} (run : script.Runs conduct start events value final) {allowed : Request → Prop}
    {holds : α → Prop} (confined : script.Confined allowed holds) : holds value := by
  induction run with
  | done => exact confined
  | ask _ _ induction => exact induction (confined.2 _)

/-- Surroundings that can answer what a script asks in one way only run it in one way only. -/
theorem runs_iff_run {responder : Responder σ} {allowed : Request → Prop} {holds : α → Prop}
    (answers : ∀ {request}, allowed request → ∀ {state answer after},
      conduct request state answer after ↔ (answer, after) = responder request state)
    {script : Script α} (confined : script.Confined allowed holds) {start final : σ} {value : α} :
    (∃ events, script.Runs conduct start events value final) ↔
      (value, final) = script.run responder start := by
  induction script generalizing start with
  | done given =>
      constructor
      · rintro ⟨events, run⟩
        obtain ⟨_, rfl, rfl⟩ := runs_pure.mp run
        rfl
      · intro equal
        cases equal
        exact ⟨[], .done _ _⟩
  | ask request next induction =>
      rw [run, ← induction (responder request start).1 (confined.2 _)]
      constructor
      · rintro ⟨events, run⟩
        obtain ⟨answer, middle, rest, answered, later, rfl⟩ := runs_ask.mp run
        rw [← (answers confined.1).mp answered]
        exact ⟨rest, later⟩
      · rintro ⟨rest, later⟩
        exact ⟨_, .ask ((answers confined.1).mpr rfl) later⟩

end Script

namespace Attempt

variable {σ ε φ α β : Type} {conduct : Conduct σ}

theorem runs_bind {attempt : Attempt ε α} {next : α → Attempt ε β} {start final : σ}
    {events : List (Event σ)} {outcome : Except ε β} :
    (attempt >>= next).run.Runs conduct start events outcome final ↔
      (∃ failure, attempt.run.Runs conduct start events (.error failure) final ∧
        outcome = .error failure) ∨
      ∃ value early middle late, attempt.run.Runs conduct start early (.ok value) middle ∧
        (next value).run.Runs conduct middle late outcome final ∧ events = early ++ late := by
  rw [ExceptT.run_bind, Script.runs_bind]
  constructor
  · rintro ⟨first, early, middle, late, before, after, rfl⟩
    cases first with
    | error failure =>
        obtain ⟨rfl, rfl, rfl⟩ := Script.runs_pure.mp after
        exact .inl ⟨failure, by simpa using before, rfl⟩
    | ok value => exact .inr ⟨value, early, middle, late, before, after, rfl⟩
  · rintro (⟨failure, run, rfl⟩ | ⟨value, early, middle, late, before, after, rfl⟩)
    · exact ⟨.error failure, events, final, [], run, Script.runs_pure.mpr ⟨rfl, rfl, rfl⟩,
        (List.append_nil events).symm⟩
    · exact ⟨.ok value, early, middle, late, before, after, rfl⟩

theorem runs_bind_ok {attempt : Attempt ε α} {next : α → Attempt ε β} {start final : σ}
    {events : List (Event σ)} {value : β} :
    (attempt >>= next).run.Runs conduct start events (.ok value) final ↔
      ∃ first early middle late, attempt.run.Runs conduct start early (.ok first) middle ∧
        (next first).run.Runs conduct middle late (.ok value) final ∧ events = early ++ late := by
  rw [runs_bind]
  exact or_iff_right fun ⟨failure, _, impossible⟩ => nomatch impossible

theorem runs_pure {given : α} {start final : σ} {events : List (Event σ)} {outcome : Except ε α} :
    (pure given : Attempt ε α).run.Runs conduct start events outcome final ↔
      events = [] ∧ outcome = .ok given ∧ final = start :=
  Script.runs_pure

theorem runs_throw {failure : ε} {start final : σ} {events : List (Event σ)}
    {outcome : Except ε α} :
    (throw failure : Attempt ε α).run.Runs conduct start events outcome final ↔
      events = [] ∧ outcome = .error failure ∧ final = start :=
  Script.runs_pure

theorem runs_bind_pure {attempt : Attempt ε α} {form : α → β} {start final : σ}
    {events : List (Event σ)} {outcome : Except ε β} :
    (attempt >>= fun value => pure (form value)).run.Runs conduct start events outcome final ↔
      ∃ result, attempt.run.Runs conduct start events result final ∧ outcome = result.map form := by
  rw [runs_bind]
  constructor
  · rintro (⟨failure, run, rfl⟩ | ⟨value, early, middle, late, run, ended, rfl⟩)
    · exact ⟨.error failure, run, rfl⟩
    · obtain ⟨rfl, rfl, rfl⟩ := runs_pure.mp ended
      exact ⟨.ok value, by simpa using run, rfl⟩
  · rintro ⟨result, run, rfl⟩
    cases result with
    | error failure => exact .inl ⟨failure, run, rfl⟩
    | ok value =>
        exact .inr ⟨value, events, final, [], run, runs_pure.mpr ⟨rfl, rfl, rfl⟩,
          (List.append_nil events).symm⟩

theorem runs_lift {script : Script α} {start final : σ} {events : List (Event σ)}
    {outcome : Except ε α} :
    (ExceptT.lift script : Attempt ε α).run.Runs conduct start events outcome final ↔
      ∃ value, script.Runs conduct start events value final ∧ outcome = .ok value := by
  rw [ExceptT.run_lift, ← bind_pure_comp, Script.runs_bind]
  constructor
  · rintro ⟨value, early, middle, late, before, after, rfl⟩
    obtain ⟨rfl, rfl, rfl⟩ := Script.runs_pure.mp after
    exact ⟨value, by simpa using before, rfl⟩
  · rintro ⟨value, run, rfl⟩
    exact ⟨value, events, final, [], run, Script.runs_pure.mpr ⟨rfl, rfl, rfl⟩,
      (List.append_nil events).symm⟩

theorem runs_lift_bind {script : Script α} {next : α → Attempt ε β} {start final : σ}
    {events : List (Event σ)} {outcome : Except ε β} :
    ((ExceptT.lift script : Attempt ε α) >>= next).run.Runs conduct start events outcome final ↔
      ∃ value early middle late, script.Runs conduct start early value middle ∧
        (next value).run.Runs conduct middle late outcome final ∧ events = early ++ late := by
  rw [runs_bind]
  constructor
  · rintro (⟨failure, run, rfl⟩ | ⟨value, early, middle, late, run, after, rfl⟩)
    · obtain ⟨_, _, impossible⟩ := runs_lift.mp run
      cases impossible
    · obtain ⟨_, before, equal⟩ := runs_lift.mp run
      cases equal
      exact ⟨value, early, middle, late, before, after, rfl⟩
  · rintro ⟨value, early, middle, late, before, after, rfl⟩
    exact .inr ⟨value, early, middle, late, runs_lift.mpr ⟨value, before, rfl⟩, after, rfl⟩

theorem runs_ask {request : Request} {start final : σ} {events : List (Event σ)}
    {outcome : Except ε request.Answer} :
    (Attempt.ask request : Attempt ε request.Answer).run.Runs conduct start events outcome final ↔
      ∃ answer, conduct request start answer final ∧ outcome = .ok answer ∧
        events = [⟨start, request, answer, final⟩] := by
  rw [Attempt.ask, runs_lift]
  constructor
  · rintro ⟨answer, run, rfl⟩
    obtain ⟨answered, rfl⟩ := Script.runs_request.mp run
    exact ⟨answer, answered, rfl, rfl⟩
  · rintro ⟨answer, answered, rfl, rfl⟩
    exact ⟨answer, Script.runs_request.mpr ⟨answered, rfl⟩, rfl⟩

theorem runs_ask_bind {request : Request} {next : request.Answer → Attempt ε β} {start final : σ}
    {events : List (Event σ)} {outcome : Except ε β} :
    (Attempt.ask request >>= next).run.Runs conduct start events outcome final ↔
      ∃ answer middle rest, conduct request start answer middle ∧
        (next answer).run.Runs conduct middle rest outcome final ∧
        events = ⟨start, request, answer, middle⟩ :: rest := by
  rw [runs_bind]
  constructor
  · rintro (⟨failure, run, rfl⟩ | ⟨value, early, middle, late, run, after, rfl⟩)
    · obtain ⟨_, _, impossible, _⟩ := runs_ask.mp run
      cases impossible
    · obtain ⟨answer, answered, equal, rfl⟩ := runs_ask.mp run
      cases equal
      exact ⟨_, _, _, answered, after, rfl⟩
  · rintro ⟨answer, middle, rest, answered, after, rfl⟩
    exact .inr ⟨answer, _, middle, rest, runs_ask.mpr ⟨_, answered, rfl, rfl⟩, after, rfl⟩

theorem runs_orFail_bind {wrap : φ → ε} {result : Except φ α} {next : α → Attempt ε β}
    {start final : σ} {events : List (Event σ)} {outcome : Except ε β} :
    (orFail wrap result >>= next).run.Runs conduct start events outcome final ↔
      (∃ cause, result = .error cause ∧ events = [] ∧ outcome = .error (wrap cause) ∧
        final = start) ∨
      ∃ value, result = .ok value ∧ (next value).run.Runs conduct start events outcome final := by
  cases result with
  | error cause =>
      change (throw (wrap cause) : Attempt ε β).run.Runs conduct start events outcome final ↔ _
      simp [Script.runs_pure]
  | ok value => simp [orFail]

theorem runs_orFail {wrap : φ → ε} {result : Except φ α} {start final : σ}
    {events : List (Event σ)} {outcome : Except ε α} :
    (orFail wrap result).run.Runs conduct start events outcome final ↔
      events = [] ∧ outcome = result.mapError wrap ∧ final = start := by
  cases result with
  | error cause => exact runs_throw
  | ok value => exact runs_pure

theorem runs_mapError {wrap : ε → φ} {attempt : Attempt ε α} {start final : σ}
    {events : List (Event σ)} {outcome : Except φ α} :
    (attempt.mapError wrap).run.Runs conduct start events outcome final ↔
      ∃ result, attempt.run.Runs conduct start events result final ∧
        outcome = result.mapError wrap := by
  change (ExceptT.lift attempt.run >>= orFail wrap).run.Runs conduct start events outcome final ↔ _
  rw [runs_lift_bind]
  constructor
  · rintro ⟨result, early, middle, late, run, ended, rfl⟩
    obtain ⟨rfl, rfl, rfl⟩ := runs_orFail.mp ended
    exact ⟨result, by simpa using run, rfl⟩
  · rintro ⟨result, run, rfl⟩
    exact ⟨result, events, final, [], run, runs_orFail.mpr ⟨rfl, rfl, rfl⟩,
      (List.append_nil events).symm⟩

/-! ## What attempts ask and how they fail -/

/-- An attempt that, whatever the answers, asks requests of one kind only and fails with causes of
one kind only. -/
structure Confined (allowed : Request → Prop) (possible : ε → Prop) (attempt : Attempt ε α) :
    Prop where
  run : attempt.run.Confined allowed fun outcome =>
    ∀ failure, outcome = .error failure → possible failure

variable {allowed : Request → Prop} {possible : ε → Prop}

theorem Confined.mono {attempt : Attempt ε α} {more : Request → Prop}
    (confined : attempt.Confined allowed possible)
    (included : ∀ request, allowed request → more request) : attempt.Confined more possible :=
  ⟨confined.run.mono included fun _ holds => holds⟩

theorem Confined.requests {attempt : Attempt ε α}
    (confined : attempt.Confined allowed fun _ => True) {start final : σ}
    {events : List (Event σ)} {outcome : Except ε α}
    (run : attempt.run.Runs conduct start events outcome final) :
    ∀ event ∈ events, allowed event.request :=
  run.request_of_confined confined.run

theorem Confined.failure {attempt : Attempt ε α} (confined : attempt.Confined allowed possible)
    {start final : σ} {events : List (Event σ)} {failure : ε}
    (run : attempt.run.Runs conduct start events (.error failure) final) : possible failure :=
  run.value_of_confined confined.run failure rfl

theorem confined_bind {attempt : Attempt ε α} {next : α → Attempt ε β}
    (confined : attempt.Confined allowed possible)
    (nextConfined : ∀ value, (next value).Confined allowed possible) :
    (attempt >>= next).Confined allowed possible := by
  constructor
  rw [ExceptT.run_bind]
  refine Script.Confined.bind confined.run fun outcome failed => ?_
  cases outcome with
  | error failure =>
      rintro _ equal
      cases equal
      exact failed _ rfl
  | ok value => exact (nextConfined value).run

theorem confined_pure (value : α) : (pure value : Attempt ε α).Confined allowed possible :=
  ⟨fun _ impossible => nomatch impossible⟩

theorem confined_throw {failure : ε} (holds : possible failure) :
    (throw failure : Attempt ε α).Confined allowed possible := by
  constructor
  rintro _ equal
  cases equal
  exact holds

theorem confined_ask {request : Request} (holds : allowed request) :
    (Attempt.ask request : Attempt ε request.Answer).Confined allowed possible :=
  ⟨holds, fun _ _ impossible => nomatch impossible⟩

theorem confined_lift {script : Script α} (confined : script.Confined allowed fun _ => True) :
    Confined allowed possible (ExceptT.lift script : Attempt ε α) := by
  constructor
  rw [ExceptT.run_lift, ← bind_pure_comp]
  exact confined.bind fun value _ _ impossible => nomatch impossible

theorem confined_outcome {attempt : Attempt ε α} {earlier : ε → Prop} {possible : φ → Prop}
    (confined : attempt.Confined allowed earlier) :
    (attempt.outcome : Attempt φ (Except ε α)).Confined allowed possible :=
  confined_lift (confined.run.mono (fun _ holds => holds) fun _ _ => trivial)

theorem confined_orFail {wrap : φ → ε} {result : Except φ α}
    (holds : ∀ cause, possible (wrap cause)) :
    (orFail wrap result).Confined allowed possible := by
  cases result with
  | error cause => exact confined_throw (holds cause)
  | ok value => exact confined_pure value

theorem confined_mapError {wrap : ε → φ} {attempt : Attempt ε α} {earlier : ε → Prop}
    {possible : φ → Prop} (confined : attempt.Confined allowed earlier)
    (holds : ∀ cause, possible (wrap cause)) :
    (attempt.mapError wrap).Confined allowed possible :=
  confined_bind (confined_outcome confined) fun _ => confined_orFail holds

/-! ## What attempts keep and achieve -/

/-- Run from such a state, the attempt is safe after each of its events, and what it is to achieve
holds when it succeeds. -/
structure Secures (conduct : Conduct σ) (safe before : σ → Prop) (attempt : Attempt ε α)
    (achieved : α → σ → Prop) : Prop where
  run : ∀ {start events outcome final}, before start →
    attempt.run.Runs conduct start events outcome final →
      (∀ event ∈ events, safe event.after) ∧
        ∀ value, outcome = .ok value → achieved value final

variable {safe before : σ → Prop}

theorem secures_pure {achieved : α → σ → Prop} {value : α}
    (holds : ∀ state, before state → achieved value state) :
    (pure value : Attempt ε α).Secures conduct safe before achieved := by
  constructor
  intro start events outcome final started run
  obtain ⟨rfl, rfl, rfl⟩ := runs_pure.mp run
  refine ⟨by simp, fun other equal => ?_⟩
  cases equal
  exact holds _ started

theorem secures_throw {achieved : α → σ → Prop} (failure : ε) :
    (throw failure : Attempt ε α).Secures conduct safe before achieved := by
  constructor
  intro start events outcome final started run
  obtain ⟨rfl, rfl, rfl⟩ := runs_throw.mp run
  exact ⟨by simp, fun other impossible => nomatch impossible⟩

theorem secures_ask {request : Request} {achieved : request.Answer → σ → Prop}
    (step : ∀ {state answer after}, before state → conduct request state answer after →
      safe after ∧ achieved answer after) :
    (Attempt.ask request : Attempt ε request.Answer).Secures conduct safe before achieved := by
  constructor
  intro start events outcome final started run
  obtain ⟨answer, answered, rfl, rfl⟩ := runs_ask.mp run
  obtain ⟨isSafe, achieves⟩ := step started answered
  refine ⟨by simpa using isSafe, fun value equal => ?_⟩
  cases equal
  exact achieves

theorem secures_orFail {wrap : φ → ε} {result : Except φ α} {achieved : α → σ → Prop}
    (holds : ∀ value state, result = .ok value → before state → achieved value state) :
    (orFail wrap result).Secures conduct safe before achieved := by
  cases result with
  | error cause => exact secures_throw _
  | ok value => exact secures_pure (holds value · rfl)

theorem secures_bind {attempt : Attempt ε α} {next : α → Attempt ε β} {between : α → σ → Prop}
    {achieved : β → σ → Prop} (secures : attempt.Secures conduct safe before between)
    (nextSecures : ∀ value, (next value).Secures conduct safe (between value) achieved) :
    (attempt >>= next).Secures conduct safe before achieved := by
  constructor
  intro start events outcome final started run
  rcases runs_bind.mp run with ⟨_, failed, rfl⟩ | ⟨value, early, middle, late, ran, after, rfl⟩
  · exact ⟨(secures.run started failed).1, fun other impossible => nomatch impossible⟩
  · obtain ⟨earlySafe, reached⟩ := secures.run started ran
    obtain ⟨lateSafe, achieves⟩ := (nextSecures value).run (reached value rfl) after
    exact ⟨List.forall_mem_append.mpr ⟨earlySafe, lateSafe⟩, achieves⟩

theorem Confined.secures {attempt : Attempt ε α} {kept : σ → Prop}
    (confined : attempt.Confined allowed possible)
    (keeps : ∀ {request state answer after}, allowed request →
      conduct request state answer after → kept state → kept after)
    (safely : ∀ state, kept state → safe state) :
    attempt.Secures conduct safe kept fun _ => kept := by
  constructor
  intro start events outcome final started run
  obtain ⟨between, ended⟩ := run.kept kept (fun event member =>
    keeps (run.request_of_confined confined.run event member) (run.conducted event member)) started
  exact ⟨fun event member => safely _ (between event member), fun _ _ => ended⟩

/-- What is safe from the start on is safe at the end, whether or not the attempt succeeds. -/
theorem Secures.final {attempt : Attempt ε α} {achieved : α → σ → Prop}
    (secures : attempt.Secures conduct safe before achieved) {start final : σ}
    {events : List (Event σ)} {outcome : Except ε α} (started : before start)
    (isSafe : safe start) (run : attempt.run.Runs conduct start events outcome final) :
    safe final := by
  by_cases same : final = start
  · rwa [same]
  · obtain ⟨event, member, rfl⟩ := run.final_mem same
    exact (secures.run started run).1 event member

theorem secures_of_fact {attempt : Attempt ε α} {achieved : α → σ → Prop} {fact : Prop}
    (secures : fact → attempt.Secures conduct safe before achieved) :
    attempt.Secures conduct safe (fun state => fact ∧ before state) achieved :=
  ⟨fun ⟨holds, started⟩ run => (secures holds).run started run⟩

theorem Secures.also {attempt : Attempt ε α} {achieved goal : α → σ → Prop}
    (secures : attempt.Secures conduct safe before achieved)
    (achieves : ∀ {start events value final},
      attempt.run.Runs conduct start events (.ok value) final → goal value final) :
    attempt.Secures conduct safe before fun value state => goal value state ∧ achieved value state
    := by
  constructor
  intro start events outcome final started run
  obtain ⟨safely, reached⟩ := secures.run started run
  refine ⟨safely, fun value equal => ⟨?_, reached value equal⟩⟩
  subst equal
  exact achieves run

theorem Secures.achieving {attempt : Attempt ε α} {achieved goal : α → σ → Prop}
    (secures : attempt.Secures conduct safe before achieved)
    (achieves : ∀ {start events value final},
      attempt.run.Runs conduct start events (.ok value) final → goal value final) :
    attempt.Secures conduct safe before goal := by
  constructor
  intro start events outcome final started run
  refine ⟨(secures.run started run).1, fun value equal => ?_⟩
  subst equal
  exact achieves run

/-! ## Attempts in surroundings that answer from a state -/

section Answering

variable {responder : Script.Responder σ} {start middle final : σ}

theorem run_bind_of_ok {attempt : Attempt ε α} {next : α → Attempt ε β} {first : α}
    (ran : attempt.run.run responder start = (.ok first, middle)) :
    (attempt >>= next).run.run responder start = (next first).run.run responder middle := by
  rw [ExceptT.run_bind]
  change (attempt.run.bind _).run responder start = _
  rw [Script.run_bind, ran]

theorem run_bind_eq_ok {attempt : Attempt ε α} {next : α → Attempt ε β} {value : β} :
    (attempt >>= next).run.run responder start = (.ok value, final) ↔
      ∃ first middle, attempt.run.run responder start = (.ok first, middle) ∧
        (next first).run.run responder middle = (.ok value, final) := by
  constructor
  · intro ran
    cases equal : attempt.run.run responder start with
    | mk outcome middle =>
        cases outcome with
        | ok first =>
            rw [run_bind_of_ok equal] at ran
            exact ⟨first, middle, rfl, ran⟩
        | error failure =>
            rw [ExceptT.run_bind] at ran
            change (attempt.run.bind _).run responder start = _ at ran
            rw [Script.run_bind, equal] at ran
            cases ran
  · rintro ⟨first, middle, ran, rest⟩
    rw [run_bind_of_ok ran, rest]

@[simp] theorem run_pure (value : α) :
    (pure value : Attempt ε α).run.run responder start = (.ok value, start) := rfl

@[simp] theorem run_throw (failure : ε) :
    (throw failure : Attempt ε α).run.run responder start = (.error failure, start) := rfl

@[simp] theorem run_ask (request : Request) :
    (Attempt.ask request : Attempt ε request.Answer).run.run responder start =
      (.ok (responder request start).1, (responder request start).2) := rfl

@[simp] theorem run_orFail (wrap : φ → ε) (result : Except φ α) :
    (orFail wrap result).run.run responder start = (result.mapError wrap, start) := by
  cases result <;> rfl

theorem run_lift (script : Script α) :
    (ExceptT.lift script : Attempt ε α).run.run responder start =
      (.ok (script.run responder start).1, (script.run responder start).2) := by
  rw [ExceptT.run_lift, ← bind_pure_comp]
  exact Script.run_bind responder script _ start

theorem run_mapError (wrap : ε → φ) (attempt : Attempt ε α) (state : σ) :
    (attempt.mapError wrap).run.run responder state =
      ((attempt.run.run responder state).1.mapError wrap, (attempt.run.run responder state).2) := by
  have asked : (attempt.outcome : Attempt φ (Except ε α)).run.run responder state =
      (.ok (attempt.run.run responder state).1, (attempt.run.run responder state).2) :=
    run_lift attempt.run
  rw [mapError, run_bind_of_ok asked, run_orFail]

/-- Where the attempt succeeds from a state, it succeeds with the same value from every state that
is related to it, and the states after it are related again. -/
structure Tracks (responder : Script.Responder σ) (before : σ → σ → Prop) (attempt : Attempt ε α)
    (after : α → σ → σ → Prop) : Prop where
  run : ∀ {start other final value}, before start other →
    attempt.run.run responder start = (.ok value, final) →
      ∃ ended, attempt.run.run responder other = (.ok value, ended) ∧ after value final ended

variable {before : σ → σ → Prop} {after : α → σ → σ → Prop}

theorem tracks_pure {value : α} (related : ∀ start other, before start other →
    after value start other) : (pure value : Attempt ε α).Tracks responder before after := by
  constructor
  intro start other final given holds ran
  rw [run_pure] at ran
  cases ran
  exact ⟨other, run_pure value, related start other holds⟩

theorem tracks_throw (failure : ε) :
    (throw failure : Attempt ε α).Tracks responder before after := by
  constructor
  intro start other final value holds ran
  rw [run_throw] at ran
  cases ran

theorem tracks_bind {attempt : Attempt ε α} {next : α → Attempt ε β}
    {between : α → σ → σ → Prop} {after : β → σ → σ → Prop}
    (tracks : attempt.Tracks responder before between)
    (nextTracks : ∀ value, (next value).Tracks responder (between value) after) :
    (attempt >>= next).Tracks responder before after := by
  constructor
  intro start other final value holds ran
  obtain ⟨first, middle, early, late⟩ := run_bind_eq_ok.mp ran
  obtain ⟨passed, otherEarly, related⟩ := tracks.run holds early
  obtain ⟨ended, otherLate, done⟩ := (nextTracks first).run related late
  exact ⟨ended, run_bind_eq_ok.mpr ⟨first, passed, otherEarly, otherLate⟩, done⟩

theorem tracks_of_fact {attempt : Attempt ε α} {fact : Prop}
    (tracks : fact → attempt.Tracks responder before after) :
    attempt.Tracks responder (fun start other => fact ∧ before start other) after :=
  ⟨fun ⟨holds, related⟩ ran => (tracks holds).run related ran⟩

theorem tracks_orFail {wrap : φ → ε} {result : Except φ α}
    (related : ∀ value start other, before start other → after value start other) :
    (orFail wrap result).Tracks responder before after := by
  cases result with
  | error cause => exact tracks_throw _
  | ok value => exact tracks_pure (related value)

theorem tracks_mapError {wrap : ε → φ} {attempt : Attempt ε α}
    (tracks : attempt.Tracks responder before after) :
    (attempt.mapError wrap).Tracks responder before after := by
  constructor
  intro start other final value holds ran
  rw [run_mapError] at ran
  cases equal : attempt.run.run responder start with
  | mk outcome passed =>
      rw [equal] at ran
      cases outcome with
      | error failure => cases ran
      | ok given =>
          cases ran
          obtain ⟨ended, otherRan, related⟩ := tracks.run holds equal
          exact ⟨ended, by rw [run_mapError, otherRan]; rfl, related⟩

end Answering

end Attempt

end VirtualLab
