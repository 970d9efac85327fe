import VirtualLab.Script

/-!
# The hypervisor through its command-line client

Every call to the hypervisor is one run of its client with the address of the hypervisor. This
module says how a call is put to the client and how its output is read, and turns a script that
calls the hypervisor into one that runs the client.
-/

namespace VirtualLab.Hypervisor

namespace Virsh

def tool : String := "virsh"

/-- Names listed one on a line. Blank lines are skipped, and blanks around a name are dropped. -/
def readNames (output : String) : List String :=
  ((Text.lines output.toList).map Text.trimmed |>.filter fun line => !line.isEmpty).map
    String.ofList

structure Report where
  state : Option Int := none
  reason : Option Int := none
  deriving DecidableEq, Repr, Inhabited

/-- Takes a line into account. Only lines for the two keys count, and a later one replaces an
earlier one, also by a value that is no number. -/
def Report.addLine (report : Report) (line : List Char) : Report :=
  match Text.splitFirst ['='] (Text.trimmed line) with
  | none => report
  | some (key, value) =>
    if key = "state.state".toList then
      { report with state := Text.readInteger (Text.trimmed value) }
    else if key = "state.reason".toList then
      { report with reason := Text.readInteger (Text.trimmed value) }
    else report

/-- The status that a report gives. A report without a reason has reason zero. -/
def readStatus (output : String) : Option DomainStatus :=
  let report := (Text.lines output.toList).foldl Report.addLine {}
  report.state.map fun state => DomainStatus.ofCodes state (report.reason.getD 0)

def arguments : Call → List String
  | .domains => ["list", "--all", "--name"]
  | .status domain => ["domstats", "--state", domain]
  | .start domain => ["start", domain]
  | .shutdown domain => ["shutdown", domain]
  | .stop domain => ["destroy", domain]
  | .undefine domain => ["undefine", domain]
  | .createSnapshot domain snapshot description =>
    ["snapshot-create-as", "--domain", domain, "--name", snapshot, "--description", description]
  | .snapshots domain => ["snapshot-list", "--domain", domain, "--name"]
  | .deleteSnapshot domain snapshot =>
    ["snapshot-delete", "--domain", domain, "--snapshotname", snapshot]
  | .capabilities => ["capabilities"]

def operation : Call → String
  | .domains => "list"
  | .status _ => "domstats"
  | .start _ => "start"
  | .shutdown _ => "shutdown"
  | .stop _ => "destroy"
  | .undefine _ => "undefine"
  | .createSnapshot _ _ _ => "snapshot-create"
  | .snapshots _ => "snapshot-list"
  | .deleteSnapshot _ _ => "snapshot-delete"
  | .capabilities => "capabilities"

def subject (uri : String) : Call → String
  | .domains | .capabilities => uri
  | .status domain | .start domain | .shutdown domain | .stop domain | .undefine domain
  | .createSnapshot domain _ _ | .snapshots domain | .deleteSnapshot domain _ => domain

def readOutput (output : String) : (call : Call) → Except HypervisorFault call.Value
  | .domains => .ok (readNames output)
  | .status _ =>
    match readStatus output with
    | some status => .ok status
    | none => .error .noStateReported
  | .start _ | .shutdown _ | .stop _ | .undefine _ => .ok ()
  | .createSnapshot _ _ _ | .deleteSnapshot _ _ => .ok ()
  | .snapshots _ => .ok (readNames output)
  | .capabilities => .ok output

def readAnswer (uri : String) (call : Call) (answer : Except ToolFailure ToolOutput) :
    Except LabError call.Value :=
  let read : Except HypervisorFault call.Value :=
    match answer with
    | .error failure => .error (.tool failure)
    | .ok output => readOutput output.stdout call
  read.mapError (.hypervisor (operation call) (subject uri call))

def perform (uri : String) (call : Call) : Script (Except LabError call.Value) := do
  let answer ← Script.request (.runTool tool ("-c" :: uri :: arguments call))
  return readAnswer uri call answer

def connect (uri : String) : LabTask Unit := do
  let _ ← Attempt.orFail (fun failure => .connection uri failure.reason)
    (← Attempt.ask (.runTool tool ["-c", uri, "uri"]))

/-- Answers calls to the hypervisor by its client, and leaves every other request as it is. -/
def answer (uri : String) : (request : Request) → Script request.Answer
  | .hypervisor call => perform uri call
  | request => Script.request request

def through {α : Type} (uri : String) (task : LabTask α) : LabTask α :=
  ExceptT.mk (task.run.answering (answer uri))

end Virsh

def perform (call : Call) : LabTask call.Value := do
  Attempt.orFail id (← Attempt.ask (.hypervisor call))

def lookup (domain : String) : LabTask (Option DomainStatus) := do
  if domain ∈ (← perform .domains) then return some (← perform (.status domain))
  else return none

end VirtualLab.Hypervisor
