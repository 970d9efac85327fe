import VirtualLab.Rehearsal.Host
import VirtualLab.Workspace

/-!
# Rehearsal sessions

A session rehearses one operation after another on the same host. It keeps one connection to the
hypervisor, opened when it is first needed.
-/

namespace VirtualLab.Rehearsal

/-- A host with the workspace of a manifest, and the address of the open connection. A manifest
without an environment makes no workspace. -/
structure Session where
  host : Host
  home : Option Path
  manifest : Manifest
  workspace : Option Workspace
  connection : Option String := none
  deriving Repr, Inhabited

namespace Session

def start (host : Host) (home : Option Path) (manifest : Manifest) : Except LabError Session := do
  let workspace ←
    if manifest.environments.isEmpty then pure none
    else some <$> Workspace.ofManifest home manifest
  return { host, home, manifest, workspace }

def perform {ε α : Type} (session : Session) (task : Attempt ε α) : Except ε α × Session :=
  let (outcome, host) := session.host.perform task.run
  (outcome, { session with host })

def performScript {α : Type} (session : Session) (script : Script α) : α × Session :=
  let (value, host) := session.host.perform script
  (value, { session with host })

def requireWorkspace (session : Session) : Except LabError Workspace :=
  match session.workspace with
  | some workspace => .ok workspace
  | none => .error (.config .noEnvironment)

def machine (session : Session) (name : String) : Except LabError Machine := do
  (← session.requireWorkspace).machine name

def image (session : Session) (name : String) : Except LabError CloudImage := do
  let workspace ← session.requireWorkspace
  match session.manifest.findImage name with
  | some declaration => CloudImage.resolve workspace.environment declaration
  | none => throw (.image name (.stated "not declared"))

def connect (session : Session) (uri : Option String) : Except LabError String × Session :=
  match uri, session.connection with
  | none, some connected => (.ok connected, session)
  | _, _ =>
    match uri.map .ok |>.getD (session.requireWorkspace.map (·.environment.uri)) with
    | .error error => (.error error, session)
    | .ok uri =>
      match session.perform (Hypervisor.Virsh.connect uri) with
      | (.error error, session) => (.error error, session)
      | (.ok (), session) => (.ok uri, { session with connection := some uri })

def onHypervisor {α : Type} (session : Session) (task : String → LabTask α) :
    Except LabError α × Session :=
  match session.connect none with
  | (.error error, session) => (.error error, session)
  | (.ok uri, session) => session.perform (task uri)

def call (session : Session) (call : Hypervisor.Call) : Except LabError call.Value × Session :=
  session.onHypervisor fun uri => Hypervisor.Virsh.through uri (Hypervisor.perform call)

def lookup (session : Session) (domain : String) :
    Except LabError (Option DomainStatus) × Session :=
  session.onHypervisor fun uri => Hypervisor.Virsh.through uri (Hypervisor.lookup domain)

def onLab {α : Type} (session : Session) (operation : Lab → LabTask α) :
    Except LabError α × Session :=
  session.onHypervisor fun uri => do
    let workspace ← Attempt.orFail id session.requireWorkspace
    workspace.operate uri operation

/-- Runs an operation on a machine of the lab. The machine is settled before anything else. -/
def onMachine {α : Type} (session : Session) (name : String)
    (operation : Lab → Machine → LabTask α) : Except LabError α × Session :=
  match session.machine name with
  | .error error => (.error error, session)
  | .ok machine => session.onLab fun lab => operation lab machine

def status (session : Session) : Except LabError (List MachineStatus) × Session :=
  session.onHypervisor fun uri => do
    let workspace ← Attempt.orFail id session.requireWorkspace
    let machines ← Attempt.orFail id workspace.machines
    workspace.operate uri fun _ => Lab.status machines

def onImage {α : Type} (session : Session) (name : String) (task : CloudImage → LabTask α) :
    Except LabError α × Session :=
  match session.image name with
  | .error error => (.error error, session)
  | .ok image => session.perform (task image)

def onSpecification {α : Type} (session : Session) (name : String) (task : Machine → LabTask α) :
    Except LabError α × Session :=
  match session.machine name with
  | .error error => (.error error, session)
  | .ok machine => session.perform (task machine)

end Session

end VirtualLab.Rehearsal
