import VirtualLab.CommandLine.Invocation
import VirtualLab.StatusReport
import VirtualLab.Workspace

/-!
# Running commands

What each command does and prints. A command loads the manifest and settles its environment before
anything else, and looks up the machine it is about before it connects to the hypervisor.
-/

namespace VirtualLab

inductive CommandFailure where
  | lab (error : LabError)
  | undeclaredImage (name : String)
  | imagesFailed (failures : List (String × LabError))
  deriving DecidableEq, Repr

namespace CommandFailure

def message : CommandFailure → String
  | lab error => error.message
  | undeclaredImage name => "Image " ++ name ++ " is not declared in the manifest"
  | imagesFailed failures =>
    toString failures.length ++ " image(s) failed:\n" ++
      Text.joined "\n" (failures.map fun failure => failure.1 ++ ": " ++ failure.2.message)

end CommandFailure

abbrev CommandTask (α : Type) := Attempt CommandFailure α

namespace Command

def versionText : String := "lvlab version 0.1.0"

def printLine (text : String) : CommandTask Unit := Attempt.ask (.print (text ++ "\n"))

def ofLab {α : Type} (task : LabTask α) : CommandTask α := Attempt.mapError .lab task

def onHypervisor {α : Type} (workspace : Workspace) (operation : Lab → LabTask α) :
    CommandTask α :=
  ofLab do
    Hypervisor.Virsh.connect workspace.environment.uri
    workspace.operate workspace.environment.uri operation

def machineCalled (workspace : Workspace) (name : String) : CommandTask Machine :=
  ofLab (Attempt.orFail id (workspace.machine name))

def allMachines (workspace : Workspace) : CommandTask (List Machine) :=
  ofLab (Attempt.orFail id workspace.machines)

def selectedImages (images : List ImageDeclaration) (names : List String) :
    List ImageDeclaration :=
  images.filter fun image => names.isEmpty || names.contains image.name

def verificationLabel (report : CloudImage.AcquireReport) : String :=
  if report.alreadyVerified then "previously verified"
  else if report.checksumVerified then "checksum verified"
  else "no checksum configured"

def imageLine (image : CloudImage) (report : CloudImage.AcquireReport) : String :=
  image.name ++ ": " ++ image.imagePath.text ++ " (" ++ toString report.downloaded.length ++
    " file(s) downloaded, " ++ verificationLabel report ++ ")"

def acquireImage (environment : Environment) (declaration : ImageDeclaration) : LabTask Unit := do
  let image ← Attempt.orFail id (CloudImage.resolve environment declaration)
  let report ← image.acquire
  Attempt.ask (.print (imageLine image report ++ "\n"))

def acquireImages (environment : Environment) :
    List ImageDeclaration → Script (List (String × LabError))
  | [] => return []
  | declaration :: rest => do
    let acquired ← (acquireImage environment declaration).run
    let failures ← acquireImages environment rest
    match acquired with
    | .ok () => return failures
    | .error error => return (declaration.name, error) :: failures

def runInit (workspace : Workspace) (names : List String) : CommandTask Unit := do
  if let some name := names.find? fun name => (workspace.manifest.findImage name).isNone then
    throw (.undeclaredImage name)
  let failures ← ExceptT.lift <|
    acquireImages workspace.environment (selectedImages workspace.manifest.images names)
  if !failures.isEmpty then throw (.imagesFailed failures)

/-- An answer that confirms: `y` or `yes` in any letter case, with blanks around it. -/
def isYes (answer : String) : Bool :=
  let word := String.ofList (Text.lower (Text.trimmed answer.toList))
  word == "y" || word == "yes"

def confirm (machine : Machine) : LabTask Bool := do
  Attempt.ask (.print ("Destroy " ++ machine.vmName ++ " and delete its disks? [y/N] "))
  return isYes (← Attempt.orFail .file (← Attempt.ask .readLine))

def upLine (machine : Machine) : UpOutcome → String
  | .alreadyRunning => machine.vmName ++ " is already running"
  | .started current => machine.vmName ++ " started: " ++ current.message
  | .transitional current => machine.vmName ++ " is " ++ current.message ++ "; not starting it"
  | .deployed => machine.vmName ++ " deployed"

def downLine (machine : Machine) : DownOutcome → String
  | .shutdownRequested => "Shutdown requested for " ++ machine.vmName
  | .notRunning current => machine.vmName ++ " is " ++ current.message ++ "; nothing to shut down"
  | .notDeployed => machine.vmName ++ " is not deployed"

def destroyLines (machine : Machine) : DestroyOutcome → List String
  | .notDeployed => [machine.vmName ++ " is not deployed"]
  | .destroyed snapshots directoryRemoved =>
    (machine.vmName ++ " destroyed (" ++ toString snapshots ++ " snapshot(s) deleted)") ::
      if directoryRemoved then []
      else ["Left " ++ machine.workDirectory.text ++ " in place: it still contains files"]

def printLines : List String → CommandTask Unit
  | [] => return ()
  | line :: rest => do
    printLine line
    printLines rest

def runUp (workspace : Workspace) (name : String) : CommandTask Unit := do
  let machine ← machineCalled workspace name
  let outcome ← onHypervisor workspace fun lab => lab.up machine
  printLine (upLine machine outcome)

def runDown (workspace : Workspace) (name : String) : CommandTask Unit := do
  let machine ← machineCalled workspace name
  let outcome ← onHypervisor workspace fun _ => Lab.down machine
  printLine (downLine machine outcome)

def runDestroy (workspace : Workspace) (name : String) (confirmed : Bool) : CommandTask Unit := do
  let machine ← machineCalled workspace name
  let agreed ← if confirmed then pure true else ofLab (confirm machine)
  if agreed then
    let outcome ← onHypervisor workspace fun _ => Lab.destroy machine
    printLines (destroyLines machine outcome)
  else printLine "Aborted"

def runStatus (workspace : Workspace) (asJson : Bool) : CommandTask Unit := do
  let machines ← allMachines workspace
  let statuses ← onHypervisor workspace fun _ => Lab.status machines
  printLine (if asJson then MachineStatus.json statuses else MachineStatus.table statuses)

def runSnapshot (workspace : Workspace) : SnapshotCommand → CommandTask Unit
  | .create name label description => do
    let machine ← machineCalled workspace name
    onHypervisor workspace fun _ => Lab.createSnapshot machine label description
    printLine ("Created snapshot " ++ label ++ " of " ++ machine.vmName)
  | .list name => do
    let machine ← machineCalled workspace name
    printLines (← onHypervisor workspace fun _ => Lab.listSnapshots machine)
  | .delete name label => do
    let machine ← machineCalled workspace name
    onHypervisor workspace fun _ => Lab.deleteSnapshot machine label
    printLine ("Deleted snapshot " ++ label ++ " of " ++ machine.vmName)

def runHosts (workspace : Workspace) : CommandTask Unit := do
  let machines ← allMachines workspace
  Attempt.ask (.print
    (HostsEntry.block workspace.environment.name (HostsEntry.ofMachines machines)))

/-- The description is printed as the hypervisor gives it, with a line end of its own. -/
def runCapabilities (workspace : Workspace) : CommandTask Unit := do
  let uri := workspace.environment.uri
  ofLab (Hypervisor.Virsh.connect uri)
  printLine (← ofLab (Hypervisor.Virsh.through uri (Hypervisor.perform .capabilities)))

def runIn (workspace : Workspace) : Command → CommandTask Unit
  | init names => runInit workspace names
  | up machine => runUp workspace machine
  | down machine => runDown workspace machine
  | destroy machine confirmed => runDestroy workspace machine confirmed
  | status asJson => runStatus workspace asJson
  | snapshot command => runSnapshot workspace command
  | hosts => runHosts workspace
  | capabilities => runCapabilities workspace
  | version => printLine versionText

end Command

/-- Runs what a command line says. Only the version is known without a manifest. -/
def Invocation.run (home : Option Path) (invocation : Invocation) : CommandTask Unit := do
  if invocation.command = .version then Command.printLine Command.versionText
  else
    let workspace ← Command.ofLab (Workspace.load home invocation.manifest)
    Command.runIn (workspace.withUri invocation.connect) invocation.command

end VirtualLab
