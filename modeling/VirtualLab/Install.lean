import VirtualLab.Machine
import VirtualLab.Script

/-!
# Installing a machine

What the installation tool is told to define a domain and boot it from its first disk.
-/

namespace VirtualLab

structure InstallRequest where
  uri : String
  name : String
  memoryMib : Nat
  vcpus : Nat
  /-- Disks in the order of attachment; the guest boots from the first. -/
  disks : List Path
  bootMedium : Path
  osVariant : String
  networks : List String
  mounts : List Mount
  deriving DecidableEq, Repr, Inhabited

namespace InstallRequest

def installationTool : String := "virt-install"

/-- The networks of a machine, one per interface; a machine without interfaces gets one card. -/
def networksOf (machine : Machine) : List String :=
  if machine.interfaces.isEmpty then [machine.primaryNetwork]
  else machine.interfaces.map (·.network)

def ofMachine (uri : String) (machine : Machine) (disks : List Path) (bootMedium : Path)
    (osVariant : String) (mounts : List Mount) : InstallRequest where
  uri
  name := machine.vmName
  memoryMib := machine.memoryMib
  vcpus := machine.cpus
  disks
  bootMedium
  osVariant
  networks := networksOf machine
  mounts

def diskArguments (disk : Path) : List String :=
  ["--disk", "path=" ++ disk.text ++ ",format=qcow2,bus=virtio"]

def networkArguments (network : String) : List String :=
  ["--network", "network=" ++ network ++ ",model=virtio"]

def mountArguments (mount : Mount) : List String :=
  ["--filesystem",
    "source=" ++ mount.source ++ ",target=" ++ mount.target ++ ",accessmode=passthrough" ++
      (if mount.readonly then ",readonly=on" else "")]

def arguments (request : InstallRequest) : List String :=
  ["--connect", request.uri,
    "--name", request.name,
    "--memory", toString request.memoryMib,
    "--vcpus", toString request.vcpus,
    "--import"] ++
  request.disks.flatMap diskArguments ++
  ["--disk", "path=" ++ request.bootMedium.text ++ ",device=cdrom",
    "--os-variant", request.osVariant] ++
  request.networks.flatMap networkArguments ++
  ["--graphics", "vnc,listen=0.0.0.0", "--noautoconsole"] ++
  request.mounts.flatMap mountArguments

def install (request : InstallRequest) : Attempt ToolFailure Unit := do
  let _ ← Attempt.orFail id (← Attempt.ask (.runTool installationTool request.arguments))

end InstallRequest

end VirtualLab
