import VirtualLab.CommandLine.Run
import VirtualLab.Proofs.Acquisition
import VirtualLab.Proofs.MachineFiles

/-!
# Commands that stop early

A command on machines passes a number of gates before it does anything: its manifest is loaded and
its environment settled, the machine it names is found and settled, the user agrees to what cannot
be undone, the hypervisor answers, and every other machine is settled. A command that is stopped at
one of them has looked at files and talked to the user, and has tried to connect at most once.
-/

namespace VirtualLab

open FileSystem

/-! ## Loading without running

A command comes to know its workspace by looking at the manifest, and the will of the user by
asking.
-/

def FileSystem.text (files : FileSystem) (path : Path) : Except FileError String :=
  (files.read path).bind fun bytes =>
    match Bytes.toText? bytes with
    | some text => .ok text
    | none => .error .notUtf8

def Manifest.stored (files : FileSystem) (path : Path) : Except LabError Manifest :=
  if files.isFile path then
    match files.text path with
    | .ok text =>
      (parse text).mapError fun error => .config (.manifestMalformed path (LabError.message error))
    | .error cause => .error (.file cause)
  else .error (.config (.manifestMissing path))

/-- The workspace of an invocation with these files: the manifest loaded, its environment settled,
and the hypervisor chosen. -/
def Invocation.workspace (home : Option Path) (files : FileSystem) (invocation : Invocation) :
    Except LabError Workspace :=
  ((Manifest.stored files invocation.manifest).bind (Workspace.ofManifest home)).map
    (·.withUri invocation.connect)

def Request.Idles : Request → Prop
  | .readLine => True
  | .print _ => True
  | request => request.Looks

def connection (uri : String) : Request := .runTool Hypervisor.Virsh.tool ["-c", uri, "uri"]

namespace Event

variable {σ : Type}

def IsYes (event : Event σ) : Prop :=
  ∃ before line after, event = ⟨before, .readLine, .ok line, after⟩ ∧ Command.isYes line = true

def Connects (uri : String) (event : Event σ) : Prop :=
  ∃ before output after, event = ⟨before, connection uri, .ok output, after⟩

end Event

structure Untouched (files : FileSystem) (events : List (Event FileSystem)) (final : FileSystem) :
    Prop where
  idles : ∀ event ∈ events, event.request.Idles ∧ event.after = files
  unchanged : final = files

variable {tool : SignatureToolConduct} {start final : FileSystem} {events : List (Event FileSystem)}

theorem Request.Idles.unchanged {request : Request} {before after : FileSystem}
    {answer : request.Answer} (idles : request.Idles)
    (conducted : conduct tool request before answer after) : after = before := by
  cases request with
  | pathExists => exact conducted.2
  | isFile => exact conducted.2
  | readFile => exact conducted.2
  | readLine => exact conducted
  | print => exact conducted
  | _ => exact idles.elim

theorem untouched_of_idles {ε α : Type} {attempt : Attempt ε α} {outcome : Except ε α}
    (idles : attempt.Confined Request.Idles fun _ => True)
    (run : attempt.run.Runs (conduct tool) start events outcome final) :
    Untouched start events final := by
  have asked := idles.requests run
  obtain ⟨between, ended⟩ := run.kept (· = start) (fun event member same =>
    ((asked event member).unchanged (run.conducted event member)).trans same) rfl
  exact ⟨fun event member => ⟨asked event member, between event member⟩, ended⟩

theorem Untouched.none (files : FileSystem) : Untouched files [] files := ⟨by simp, rfl⟩

theorem Untouched.append {middle : FileSystem} {early late : List (Event FileSystem)}
    (first : Untouched start early middle) (second : Untouched middle late final) :
    Untouched start (early ++ late) final := by
  obtain ⟨idles, rfl⟩ := first
  exact ⟨List.forall_mem_append.mpr ⟨idles, second.idles⟩, second.unchanged⟩

theorem Request.Looks.idles {request : Request} (looks : request.Looks) : request.Idles := by
  cases request <;> first | exact looks | exact looks.elim

theorem Manifest.load_looks (path : Path) :
    (Manifest.load path).Confined Request.Looks fun _ => True := by
  have reads : (Script.readText path).Confined Request.Looks fun _ => True :=
    ⟨trivial, fun _ => trivial⟩
  refine Attempt.confined_bind (Attempt.confined_ask trivial) fun present => ?_
  have rest : Attempt.Confined Request.Looks (fun _ => True) (do
      let text ← Attempt.orFail LabError.file (← ExceptT.lift (Script.readText path))
      Attempt.orFail (fun error => .config (.manifestMalformed path (LabError.message error)))
        (Manifest.parse text) : LabTask Manifest) :=
    Attempt.confined_bind (Attempt.confined_lift reads) fun _ =>
      Attempt.confined_bind (Attempt.confined_orFail fun _ => trivial) fun _ =>
        Attempt.confined_orFail fun _ => trivial
  cases present with
  | false => exact Attempt.confined_throw trivial
  | true => exact rest

theorem Manifest.stored_of_load {path : Path} {outcome : Except LabError Manifest}
    (run : (Manifest.load path).run.Runs (conduct tool) start events outcome final) :
    outcome = Manifest.stored start path := by
  rw [load, Attempt.runs_ask_bind] at run
  obtain ⟨present, middle, rest, ⟨isPresent, same⟩, going, _⟩ := run
  subst same
  rw [stored, ← isPresent]
  cases present with
  | false => exact (Attempt.runs_throw.mp going).2.1
  | true =>
      obtain ⟨content, _, _, _, reading, parsing, _⟩ := Attempt.runs_lift_bind.mp going
      obtain ⟨_, _, held⟩ := CloudImage.readText_runs reading
      change content = middle.text path at held
      rw [← held]
      rcases Attempt.runs_orFail_bind.mp parsing with ⟨cause, rfl, _, rfl, _⟩ | ⟨text, rfl, ended⟩
      · rfl
      · exact (Attempt.runs_orFail.mp ended).2.1

theorem Workspace.runs_load {home : Option Path} {path : Path}
    {outcome : Except LabError Workspace}
    (run : (Workspace.load home path).run.Runs (conduct tool) start events outcome final) :
    Untouched start events final ∧
      outcome = (Manifest.stored start path).bind (Workspace.ofManifest home) := by
  have looks : (Workspace.load home path).Confined Request.Looks fun _ => True :=
    Attempt.confined_bind (Manifest.load_looks path) fun _ =>
      Attempt.confined_orFail fun _ => trivial
  refine ⟨untouched_of_idles (looks.mono fun _ => Request.Looks.idles) run, ?_⟩
  have settled : ∀ result : Except LabError Workspace, result.mapError id = result := by
    intro result
    cases result <;> rfl
  rcases Attempt.runs_bind.mp run with ⟨failure, loading, rfl⟩ |
    ⟨manifest, _, _, _, loading, settling, _⟩
  · rw [← Manifest.stored_of_load loading]
    rfl
  · rw [← Manifest.stored_of_load loading, (Attempt.runs_orFail.mp settling).2.1, settled]
    rfl

/-! ## Gates -/

namespace Command

def Operates : Command → Prop
  | .up _ | .down _ | .destroy _ _ | .status _ | .snapshot _ => True
  | _ => False

def machineName : Command → Option String
  | .up name | .down name | .destroy name _ => some name
  | .snapshot (.create name _ _) | .snapshot (.list name) | .snapshot (.delete name _) => some name
  | _ => none

variable {workspace : Workspace} {command : Command} {outcome : Except CommandFailure Unit}

theorem settled_bind {α : Type} {result : Except LabError α} {next : α → CommandTask Unit}
    (run : (ofLab (Attempt.orFail id result) >>= next).run.Runs (conduct tool) start events outcome
      final) :
    (∃ failure, result = .error failure ∧ events = [] ∧ final = start) ∨
      ∃ value, result = .ok value ∧
        (next value).run.Runs (conduct tool) start events outcome final := by
  cases result with
  | error failure =>
      change (throw (.lab failure) : CommandTask Unit).run.Runs _ _ _ _ _ at run
      obtain ⟨rfl, _, rfl⟩ := Attempt.runs_throw.mp run
      exact .inl ⟨failure, rfl, rfl, rfl⟩
  | ok value => exact .inr ⟨value, rfl, run⟩

theorem connect_runs {uri : String} {outcome : Except LabError Unit}
    (run : (Hypervisor.Virsh.connect uri).run.Runs (conduct tool) start events outcome final) :
    ∃ answer : Except ToolFailure ToolOutput,
      events = [⟨start, connection uri, answer, final⟩] ∧
        ((∃ failure, outcome = .error failure) ∨ ∃ output, answer = .ok output) := by
  rw [Hypervisor.Virsh.connect, Attempt.runs_ask_bind] at run
  obtain ⟨answer, middle, rest, _, answered, rfl⟩ := run
  refine ⟨answer, ?_⟩
  rcases Attempt.runs_orFail_bind.mp answered with ⟨_, _, rfl, rfl, rfl⟩ | ⟨output, rfl, ended⟩
  · exact ⟨rfl, .inl ⟨_, rfl⟩⟩
  · obtain ⟨rfl, _, rfl⟩ := Attempt.runs_pure.mp ended
    exact ⟨rfl, .inr ⟨output, rfl⟩⟩

structure Ready (workspace : Workspace) (event : Event FileSystem) : Prop where
  connects : event.Connects workspace.environment.uri
  settled : ∃ machines, workspace.machines = .ok machines

variable {α : Type} {operation : Lab → LabTask α}

/-- The attempt to connect comes first, and the operation only if all is ready. -/
theorem connection_of_onHypervisor {result : Except CommandFailure α}
    (run : (onHypervisor workspace operation).run.Runs (conduct tool) start events result final) :
    ∃ event rest, events = event :: rest ∧ event.before = start ∧
      event.request = connection workspace.environment.uri ∧
      ((rest = [] ∧ event.after = final ∧ ∃ failure, result = .error failure) ∨
        Ready workspace event) := by
  obtain ⟨inner, connecting, rfl⟩ := Attempt.runs_mapError.mp run
  rcases Attempt.runs_bind.mp connecting with ⟨failure, refused, rfl⟩ |
    ⟨_, _, _, _, connected, operating, rfl⟩
  · obtain ⟨answer, rfl, _⟩ := connect_runs refused
    exact ⟨_, [], rfl, rfl, rfl, .inl ⟨rfl, rfl, _, rfl⟩⟩
  obtain ⟨answer, rfl, ⟨_, impossible⟩ | ⟨output, rfl⟩⟩ := connect_runs connected
  · cases impossible
  rcases Attempt.runs_orFail_bind.mp operating with ⟨failure, _, rfl, rfl, rfl⟩ | ⟨lab, isLab, _⟩
  · exact ⟨_, [], rfl, rfl, rfl, .inl ⟨rfl, rfl, _, rfl⟩⟩
  · refine ⟨_, _, rfl, rfl, rfl, .inr ⟨⟨_, output, _, rfl⟩, ?_⟩⟩
    cases settled : workspace.machines with
    | ok machines => exact ⟨machines, rfl⟩
    | error failure => simp [Workspace.lab, settled, bind, Except.bind] at isLab

theorem connection_first {next : α → CommandTask Unit}
    (run : (onHypervisor workspace operation >>= next).run.Runs (conduct tool) start events outcome
      final) :
    ∃ event rest, events = event :: rest ∧ event.before = start ∧
      event.request = connection workspace.environment.uri ∧
      ((rest = [] ∧ event.after = final) ∨ Ready workspace event) := by
  rcases Attempt.runs_bind.mp run with ⟨failure, stopped, _⟩ | ⟨_, _, _, late, went, _, rfl⟩
  · obtain ⟨event, rest, equal, before, asked, further⟩ := connection_of_onHypervisor stopped
    exact ⟨event, rest, equal, before, asked,
      further.imp_left fun ⟨alone, ended, _⟩ => ⟨alone, ended⟩⟩
  · obtain ⟨event, rest, rfl, before, asked, ⟨_, _, _, impossible⟩ | ready⟩ :=
      connection_of_onHypervisor went
    · cases impossible
    · exact ⟨event, rest ++ late, rfl, before, asked, .inr ready⟩

/-! ## How far a command gets -/

/-- How far a command on machines got: it stopped without having touched anything, or it went on to
the attempt to connect, and past it only if all was ready. -/
inductive Progress (workspace : Workspace) (command : Command) (start : FileSystem) :
    List (Event FileSystem) → FileSystem → Prop
  | stopped {events : List (Event FileSystem)} {final : FileSystem}
      (untouched : Untouched start events final) : Progress workspace command start events final
  | connecting {early rest : List (Event FileSystem)} {event : Event FileSystem}
      {final : FileSystem} (untouched : Untouched start early start)
      (named : ∀ name, command.machineName = some name →
        ∃ machine, workspace.machine name = .ok machine)
      (agreed : ∀ name, command = .destroy name false → ∃ event ∈ early, event.IsYes)
      (before : event.before = start)
      (asked : event.request = connection workspace.environment.uri)
      (further : (rest = [] ∧ event.after = final) ∨ Ready workspace event) :
      Progress workspace command start (early ++ event :: rest) final

theorem Progress.after {middle : FileSystem} {earlier : List (Event FileSystem)}
    (untouched : Untouched start earlier middle)
    (progress : Progress workspace command middle events final) :
    Progress workspace command start (earlier ++ events) final := by
  obtain ⟨idles, rfl⟩ := untouched
  cases progress with
  | stopped rest => exact .stopped (Untouched.append ⟨idles, rfl⟩ rest)
  | connecting rest named agreed before asked further =>
      rw [← List.append_assoc]
      refine .connecting (Untouched.append ⟨idles, rfl⟩ rest) named (fun name isDestroy => ?_)
        before asked further
      obtain ⟨event, member, yes⟩ := agreed name isDestroy
      exact ⟨event, List.mem_append_right _ member, yes⟩

theorem progress_of_machine {name : String} {operation : Machine → Lab → LabTask α}
    {next : Machine → α → CommandTask Unit} (about : command.machineName = some name)
    (confirmed : ∀ name, command ≠ .destroy name false)
    (run : (machineCalled workspace name >>= fun machine =>
      onHypervisor workspace (operation machine) >>= next machine).run.Runs (conduct tool) start
        events outcome final) :
    Progress workspace command start events final := by
  rcases settled_bind run with ⟨_, _, rfl, rfl⟩ | ⟨machine, found, going⟩
  · exact .stopped (.none _)
  · obtain ⟨event, rest, rfl, before, asked, further⟩ := connection_first going
    change Progress workspace command start ([] ++ event :: rest) final
    refine .connecting (.none _) (fun other same => ?_)
      (fun other isDestroy => absurd isDestroy (confirmed other)) before asked further
    rw [about] at same
    exact ⟨machine, Option.some.inj same ▸ found⟩

theorem confirm_runs {machine : Machine} {outcome : Except LabError Bool}
    (run : (confirm machine).run.Runs (conduct tool) start events outcome final) :
    Untouched start events final ∧ (outcome = .ok true → ∃ event ∈ events, event.IsYes) := by
  have idles : (confirm machine).Confined Request.Idles fun _ => True :=
    Attempt.confined_bind (Attempt.confined_ask trivial) fun _ =>
      Attempt.confined_bind (Attempt.confined_ask trivial) fun _ =>
        Attempt.confined_bind (Attempt.confined_orFail fun _ => trivial) fun _ =>
          Attempt.confined_pure _
  refine ⟨untouched_of_idles idles run, fun agreed => ?_⟩
  obtain ⟨_, _, _, _, asking, rfl⟩ := Attempt.runs_ask_bind.mp run
  obtain ⟨answer, _, _, _, answered, rfl⟩ := Attempt.runs_ask_bind.mp asking
  rcases Attempt.runs_orFail_bind.mp answered with ⟨_, _, _, failed, _⟩ | ⟨line, rfl, ended⟩
  · cases failed.symm.trans agreed
  · obtain ⟨_, equal, _⟩ := Attempt.runs_pure.mp ended
    refine ⟨_, List.mem_cons_of_mem _ List.mem_cons_self, _, line, _, rfl, ?_⟩
    exact Except.ok.inj (equal.symm.trans agreed)

theorem progress_of_runDestroy {name : String} {confirmed : Bool}
    (run : (runDestroy workspace name confirmed).run.Runs (conduct tool) start events outcome
      final) :
    Progress workspace (.destroy name confirmed) start events final := by
  cases confirmed with
  | true => exact progress_of_machine rfl (by simp) run
  | false =>
      rcases settled_bind run with ⟨_, _, rfl, rfl⟩ | ⟨machine, found, asking⟩
      · exact .stopped (.none _)
      rcases Attempt.runs_bind.mp asking with ⟨_, failed, _⟩ |
        ⟨agreed, _, _, _, answered, going, rfl⟩
      · obtain ⟨_, confirming, _⟩ := Attempt.runs_mapError.mp failed
        exact .stopped (confirm_runs confirming).1
      obtain ⟨result, confirming, equal⟩ := Attempt.runs_mapError.mp answered
      obtain ⟨untouched, saidYes⟩ := confirm_runs confirming
      cases agreed with
      | false =>
          have prints : (printLine "Aborted").Confined Request.Idles fun _ => True :=
            Attempt.confined_ask trivial
          exact .stopped (untouched.append (untouched_of_idles prints going))
      | true =>
          obtain ⟨idles, rfl⟩ := untouched
          obtain ⟨event, rest, rfl, before, asked, further⟩ := connection_first going
          refine .connecting ⟨idles, rfl⟩ (fun other same => ?_) (fun _ _ => saidYes ?_) before
            asked further
          · exact ⟨machine, Option.some.inj same ▸ found⟩
          · cases result with
            | error => cases equal
            | ok agreed => exact congrArg _ (Except.ok.inj equal).symm

theorem progress_of_runIn (operates : command.Operates)
    (run : (runIn workspace command).run.Runs (conduct tool) start events outcome final) :
    Progress workspace command start events final := by
  cases command with
  | up name => exact progress_of_machine rfl (by simp) run
  | down name => exact progress_of_machine rfl (by simp) run
  | destroy name confirmed => exact progress_of_runDestroy run
  | status asJson =>
      rcases settled_bind run with ⟨_, _, rfl, rfl⟩ | ⟨machines, _, going⟩
      · exact .stopped (.none _)
      · obtain ⟨event, rest, rfl, before, asked, further⟩ := connection_first going
        change Progress workspace (.status asJson) start ([] ++ event :: rest) final
        exact .connecting (.none _) (by simp [machineName]) (by simp) before asked further
  | snapshot command =>
      cases command with
      | create name label description => exact progress_of_machine rfl (by simp) run
      | list name => exact progress_of_machine rfl (by simp) run
      | delete name label => exact progress_of_machine rfl (by simp) run
  | _ => exact operates.elim

/-- No image is acquired if one of the names is not that of a declared image. -/
theorem undeclared_of_runInit {names : List String} {name : String} (named : name ∈ names)
    (undeclared : workspace.manifest.findImage name = none)
    (run : (runInit workspace names).run.Runs (conduct tool) start events outcome final) :
    Untouched start events final := by
  cases found : names.find? fun name => (workspace.manifest.findImage name).isNone with
  | none =>
      have declared := List.find?_eq_none.mp found name named
      simp [undeclared] at declared
  | some first =>
      simp only [runInit, found] at run
      obtain ⟨rfl, _, rfl⟩ := Attempt.runs_throw.mp run
      exact .none _

end Command

namespace Invocation

variable {home : Option Path} {invocation : Invocation} {outcome : Except CommandFailure Unit}

theorem runs_of_invocation (needsManifest : invocation.command ≠ .version)
    (run : (invocation.run home).run.Runs (conduct tool) start events outcome final) :
    (∃ failure, invocation.workspace home start = .error failure ∧
      Untouched start events final) ∨
    ∃ workspace early late, invocation.workspace home start = .ok workspace ∧
      Untouched start early start ∧
      (Command.runIn workspace invocation.command).run.Runs (conduct tool) start late outcome
        final ∧ events = early ++ late := by
  rw [Invocation.run, if_neg needsManifest] at run
  rcases Attempt.runs_bind.mp run with ⟨_, failed, _⟩ |
    ⟨loaded, early, _, late, loading, going, rfl⟩
  · obtain ⟨result, loading, equal⟩ := Attempt.runs_mapError.mp failed
    obtain ⟨untouched, rfl⟩ := Workspace.runs_load loading
    cases stored : (Manifest.stored _ invocation.manifest).bind (Workspace.ofManifest home) with
    | error failure => exact .inl ⟨failure, by rw [workspace, stored]; rfl, untouched⟩
    | ok loaded =>
        rw [stored] at equal
        cases equal
  · obtain ⟨result, loading, equal⟩ := Attempt.runs_mapError.mp loading
    obtain ⟨⟨idles, rfl⟩, rfl⟩ := Workspace.runs_load loading
    cases stored : (Manifest.stored _ invocation.manifest).bind (Workspace.ofManifest home) with
    | error failure =>
        rw [stored] at equal
        cases equal
    | ok found =>
        rw [stored] at equal
        cases equal
        exact .inr ⟨_, early, late, by rw [workspace, stored]; rfl, ⟨idles, rfl⟩, going, rfl⟩

/-- What stops a command on machines before it tries to connect: its workspace could not be loaded,
the machine it names is not declared or could not be settled, or it is a removal that the user has
not agreed to, neither beforehand nor when asked. -/
inductive StopsAtOnce (home : Option Path) (invocation : Invocation) (files : FileSystem)
    (events : List (Event FileSystem)) : Prop
  | unloaded {failure : LabError}
      (failed : invocation.workspace home files = .error failure) :
      StopsAtOnce home invocation files events
  | unnamed {workspace : Workspace} {name : String} {failure : LabError}
      (loaded : invocation.workspace home files = .ok workspace)
      (about : invocation.command.machineName = some name)
      (failed : workspace.machine name = .error failure) :
      StopsAtOnce home invocation files events
  | unconfirmed {name : String} (asks : invocation.command = .destroy name false)
      (refused : ∀ event ∈ events, ¬ event.IsYes) :
      StopsAtOnce home invocation files events

/-- What stops a command with this workspace when it tries to connect: a machine of the environment
could not be settled, or the hypervisor was not found to answer. -/
inductive StopsConnecting (workspace : Workspace) (events : List (Event FileSystem)) : Prop
  | unsettled {failure : LabError} (failed : workspace.machines = .error failure) :
      StopsConnecting workspace events
  | unconnected (refused : ∀ event ∈ events, ¬ event.Connects workspace.environment.uri) :
      StopsConnecting workspace events

/-- Nothing was done but looking at these files and talking to the user, and then at most one
attempt to connect, which was the last thing done. -/
def AtMostConnects (uri : String) (files : FileSystem) (events : List (Event FileSystem))
    (final : FileSystem) : Prop :=
  Untouched files events final ∨
    ∃ early event, events = early ++ [event] ∧ Untouched files early files ∧
      event.before = files ∧ event.request = connection uri ∧ event.after = final

theorem progress_of_run (operates : invocation.command.Operates)
    (run : (invocation.run home).run.Runs (conduct tool) start events outcome final) :
    (∃ failure, invocation.workspace home start = .error failure ∧
      Untouched start events final) ∨
    ∃ workspace, invocation.workspace home start = .ok workspace ∧
      Command.Progress workspace invocation.command start events final := by
  have needsManifest : invocation.command ≠ .version := fun version => by
    rw [version] at operates
    exact operates
  refine (runs_of_invocation needsManifest run).imp_right ?_
  rintro ⟨workspace, early, late, loaded, untouched, going, rfl⟩
  exact ⟨workspace, loaded, .after untouched (Command.progress_of_runIn operates going)⟩

theorem untouched_of_stopsAtOnce (operates : invocation.command.Operates)
    (run : (invocation.run home).run.Runs (conduct tool) start events outcome final)
    (stops : StopsAtOnce home invocation start events) : Untouched start events final := by
  rcases progress_of_run operates run with ⟨_, _, untouched⟩ | ⟨workspace, loaded, progress⟩
  · exact untouched
  cases progress with
  | stopped untouched => exact untouched
  | connecting untouched named agreed before asked further =>
      exfalso
      cases stops with
      | unloaded failed => cases loaded.symm.trans failed
      | unnamed found about failed =>
          cases loaded.symm.trans found
          obtain ⟨machine, resolved⟩ := named _ about
          cases resolved.symm.trans failed
      | unconfirmed asks refused =>
          obtain ⟨event, member, yes⟩ := agreed _ asks
          exact refused event (List.mem_append_left _ member) yes

theorem atMostConnects_of_stopsConnecting {workspace : Workspace}
    (operates : invocation.command.Operates)
    (loaded : invocation.workspace home start = .ok workspace)
    (run : (invocation.run home).run.Runs (conduct tool) start events outcome final)
    (stops : StopsConnecting workspace events) :
    AtMostConnects workspace.environment.uri start events final := by
  rcases progress_of_run operates run with ⟨_, _, untouched⟩ | ⟨other, found, progress⟩
  · exact .inl untouched
  cases loaded.symm.trans found
  cases progress with
  | stopped untouched => exact .inl untouched
  | @connecting early rest event _ untouched named agreed before asked further =>
      obtain ⟨rfl, ended⟩ : rest = [] ∧ event.after = final := by
        refine further.resolve_right fun ready => ?_
        cases stops with
        | unsettled failed =>
            obtain ⟨machines, settled⟩ := ready.settled
            cases settled.symm.trans failed
        | unconnected refused => exact refused event (by simp) ready.connects
      exact .inr ⟨early, event, rfl, untouched, before, asked, ended⟩

/-- A command that stops early has no effect. On machines, nothing is run at all if the command
stops at once, and the client is run at most once, to connect, if it stops there; no images are
acquired if the manifest is not loaded or one of their names is not declared. -/
theorem early_stop_without_effect
    (run : (invocation.run home).run.Runs (conduct tool) start events outcome final) :
    (invocation.command.Operates →
      (StopsAtOnce home invocation start events → Untouched start events final) ∧
      ∀ workspace, invocation.workspace home start = .ok workspace →
        StopsConnecting workspace events →
          AtMostConnects workspace.environment.uri start events final) ∧
    ∀ names, invocation.command = .init names →
      ((∃ failure, invocation.workspace home start = .error failure) ∨
        ∃ workspace, invocation.workspace home start = .ok workspace ∧
          ∃ name ∈ names, workspace.manifest.findImage name = none) →
        Untouched start events final := by
  refine ⟨fun operates => ⟨untouched_of_stopsAtOnce operates run, fun workspace loaded =>
    atMostConnects_of_stopsConnecting operates loaded run⟩, ?_⟩
  intro names isInit stops
  rcases runs_of_invocation (by simp [isInit]) run with
    ⟨_, _, untouched⟩ | ⟨workspace, early, late, loaded, untouched, going, rfl⟩
  · exact untouched
  rcases stops with ⟨failure, failed⟩ | ⟨other, found, name, named, undeclared⟩
  · cases loaded.symm.trans failed
  · cases loaded.symm.trans found
    rw [isInit] at going
    exact untouched.append (Command.undeclared_of_runInit named undeclared going)

def oneMachineFiles : FileSystem where
  entries := [(["Lvlab.yml"], .file (Bytes.ofText
    "environment:\n- name: lab\n  machines:\n  - vm_name: web\n"))]

def onOneMachine (command : Command) : Invocation where
  manifest := ⟨"Lvlab.yml"⟩
  connect := none
  command

def absentTool (arguments : List String) (files : FileSystem) :
    Except ToolFailure ToolOutput × FileSystem :=
  (.error (.notStarted (arguments.headD "") .notFound), files)

/-- Every command runs where no tool can be run and the user says nothing, and there nobody agrees
and no hypervisor answers. -/
theorem runs_unanswered (invocation : Invocation) (files : FileSystem) :
    ∃ events outcome final, (invocation.run none).run.Runs
        (conduct fun _ before _ after => after = before) files events outcome final ∧
      (∀ event ∈ events, ¬ event.IsYes) ∧ ∀ event ∈ events, ∀ uri, ¬ event.Connects uri := by
  let responder := respond absentTool fun url => .error url
  let answering : Conduct FileSystem := fun request before answer after =>
    (answer, after) = responder request before
  have answers : ∀ request before, answering request before (responder request before).1
      (responder request before).2 := fun _ _ => rfl
  obtain ⟨events, run⟩ := Script.runs_run answers (invocation.run none).run files
  have answered := run.conducted
  refine ⟨events, _, _, run.mono ?_, fun event member => ?_, fun event member uri => ?_⟩
  · intro request before answer after equal
    obtain ⟨rfl, rfl⟩ := Prod.mk.inj equal
    exact conduct_respond (fun _ _ => rfl) request before
  · rintro ⟨before, line, after, rfl, yes⟩
    obtain ⟨said, _⟩ := Prod.mk.inj (answered _ member)
    cases said
    exact absurd yes (by decide +kernel)
  · rintro ⟨before, output, after, rfl⟩
    obtain ⟨said, _⟩ := Prod.mk.inj (answered _ member)
    cases said

theorem one_machine_commands_stopped :
    (∃ events outcome final,
      ((onOneMachine (.destroy "web" false)).run none).run.Runs
        (conduct fun _ before _ after => after = before) oneMachineFiles events outcome final ∧
      Untouched oneMachineFiles events final) ∧
    (∃ workspace events outcome final,
      (onOneMachine (.up "web")).workspace none oneMachineFiles = .ok workspace ∧
      ((onOneMachine (.up "web")).run none).run.Runs
        (conduct fun _ before _ after => after = before) oneMachineFiles events outcome final ∧
      AtMostConnects workspace.environment.uri oneMachineFiles events final) ∧
    ∃ events outcome final,
      ((onOneMachine (.init ["fedora40"])).run none).run.Runs
        (conduct fun _ before _ after => after = before) oneMachineFiles events outcome final ∧
      Untouched oneMachineFiles events final := by
  refine ⟨?_, ?_, ?_⟩
  · obtain ⟨events, outcome, final, run, silent, _⟩ :=
      runs_unanswered (onOneMachine (.destroy "web" false)) oneMachineFiles
    exact ⟨events, outcome, final, run,
      ((early_stop_without_effect run).1 trivial).1 (.unconfirmed rfl silent)⟩
  · obtain ⟨events, outcome, final, run, _, refused⟩ :=
      runs_unanswered (onOneMachine (.up "web")) oneMachineFiles
    cases loaded : (onOneMachine (.up "web")).workspace none oneMachineFiles with
    | error failure =>
        have isLoaded :
            ((onOneMachine (.up "web")).workspace none oneMachineFiles).isOk = true := by
          decide +kernel
        simp [loaded, Except.isOk, Except.toBool] at isLoaded
    | ok workspace =>
        exact ⟨workspace, events, outcome, final, rfl, run,
          ((early_stop_without_effect run).1 trivial).2 workspace loaded
            (.unconnected fun event member => refused event member _)⟩
  · obtain ⟨events, outcome, final, run, _⟩ :=
      runs_unanswered (onOneMachine (.init ["fedora40"])) oneMachineFiles
    refine ⟨events, outcome, final, run,
      (early_stop_without_effect run).2 _ rfl ?_⟩
    cases loaded : (onOneMachine (.init ["fedora40"])).workspace none oneMachineFiles with
    | error failure => exact .inl ⟨failure, rfl⟩
    | ok workspace =>
        have images : ((onOneMachine (.init ["fedora40"])).workspace none
            oneMachineFiles).toOption.map (·.manifest.images) = some [] := by
          decide +kernel
        simp only [loaded, Except.toOption, Option.map_some, Option.some.injEq] at images
        exact .inr ⟨workspace, rfl, "fedora40", by simp, by simp [Manifest.findImage, images]⟩

end Invocation

end VirtualLab
