import VirtualLab.Lifecycle
import VirtualLab.Manifest.Read

/-!
# Workspaces

A manifest with its environment settled for a user. A workspace finds the machines and images that
are meant by a name, and brings operations together with all that they need to know.
-/

namespace VirtualLab

structure Workspace where
  home : Option Path
  manifest : Manifest
  environment : Environment
  deriving Repr, Inhabited

namespace Workspace

def ofManifest (home : Option Path) (manifest : Manifest) : Except LabError Workspace := do
  return { home, manifest, environment := ← manifest.environment home }

def load (home : Option Path) (path : Path) : LabTask Workspace := do
  let manifest ← Manifest.load path
  Attempt.orFail id (ofManifest home manifest)

def withUri (workspace : Workspace) (uri : Option String) : Workspace :=
  { workspace with
    environment := { workspace.environment with uri := uri.getD workspace.environment.uri } }

def machines (workspace : Workspace) : Except LabError (List Machine) :=
  workspace.manifest.resolvedMachines workspace.environment

def machine (workspace : Workspace) (name : String) : Except LabError Machine := do
  Machine.resolve workspace.environment (← workspace.manifest.findMachine name)

/-- The lab on a hypervisor. The hosts commands are those of all machines. -/
def lab (workspace : Workspace) (uri : String) : Except LabError Lab := do
  let machines ← workspace.machines
  return {
    home := workspace.home
    environment := workspace.environment
    images := workspace.manifest.images
    uri
    hostsCommands := HostsEntry.commands (HostsEntry.ofMachines machines)
  }

/-- Runs an operation on a hypervisor that has been found to answer. Every machine has to be
settled before it begins. -/
def operate {α : Type} (workspace : Workspace) (uri : String) (operation : Lab → LabTask α) :
    LabTask α := do
  let lab ← Attempt.orFail id (workspace.lab uri)
  Hypervisor.Virsh.through uri (operation lab)

end Workspace

end VirtualLab
