import VirtualLab.Environment

/-!
# Machines

A machine with every value settled. Values come in this order: what the machine declares, what its
environment gives to all machines, a fixed value. Interfaces take each absent field from the shared
interface; a declared disk takes its size from the default disk of its name.
-/

namespace VirtualLab

inductive Addressing where
  | dhcp
  | static (address : String) (gateway : Option String) (nameservers search : List String)
  deriving DecidableEq, Repr, Inhabited

structure NetworkInterface where
  name : String
  network : String
  addressing : Addressing
  deriving DecidableEq, Repr, Inhabited

def NetworkInterface.ip4 (interface : NetworkInterface) : Option String :=
  match interface.addressing with
  | .static address _ _ _ => some (String.ofList (Text.before '/' address.toList))
  | .dhcp => none

structure DiskSpec where
  name : String
  size : String
  deriving DecidableEq, Repr, Inhabited

structure CloudInit where
  user : String
  pubkey : Option String
  timezone : Option String
  packages : List String
  runcmd : List String
  deriving DecidableEq, Repr, Inhabited

structure Machine where
  vmName : String
  hostname : String
  fqdn : String
  os : String
  cpus : Nat
  memoryMib : Nat
  interfaces : List NetworkInterface
  disks : List DiskSpec
  cloudInit : CloudInit
  workDirectory : Path
  deriving DecidableEq, Repr, Inhabited

namespace Machine

def defaultOs : String := "fedora40"
def defaultCpus : Nat := 1
def defaultMemoryMib : Nat := 1024
def defaultDiskName : String := "root"
def defaultDiskSize : String := "15G"
def defaultNetwork : String := "default"
def defaultUser : String := "lab"

/-- The interface at a position, from its declaration laid over the shared one. It is static when
an address is given; its name falls back to its position. -/
def resolveInterface (index : Nat) (merged : InterfaceDeclaration) : NetworkInterface where
  name := merged.name.getD ("eth" ++ toString index)
  network := merged.network.getD defaultNetwork
  addressing :=
    match merged.address with
    | none => .dhcp
    | some address =>
      let nameservers := merged.nameservers.getD {}
      .static address merged.gateway nameservers.addresses nameservers.search

/-- A disk takes the size it declares, then that of the first default of its name. -/
def resolveDisk (defaults : List DiskDeclaration) (declared : DiskDeclaration) : DiskSpec where
  name := declared.name
  size :=
    (declared.size.or ((defaults.find? (·.name == declared.name)).bind (·.size))).getD
      defaultDiskSize

/-- The disks of a machine: its own, else the defaults, else one boot disk. -/
def resolveDisks (defaults declared : List DiskDeclaration) : List DiskSpec :=
  if !declared.isEmpty then declared.map (resolveDisk defaults)
  else if !defaults.isEmpty then defaults.map (resolveDisk [])
  else [⟨defaultDiskName, defaultDiskSize⟩]

def resolveCloudInit (merged : CloudInitDeclaration) : CloudInit where
  user := merged.user.getD defaultUser
  pubkey := merged.pubkey
  timezone := merged.timezone
  packages := merged.packages.getD []
  runcmd := merged.runcmd.getD []

/-- The declared full name, else the host name in the environment's domain if that is not empty. -/
def resolveFqdn (declared domain : Option String) (hostname : String) : String :=
  match declared, domain with
  | some fqdn, _ => fqdn
  | none, some domain => if domain.isEmpty then hostname else hostname ++ "." ++ domain
  | none, none => hostname

/-- Settles a declared machine of an environment. Only a machine without a name is refused. -/
def resolve (environment : Environment) (declaration : MachineDeclaration) :
    Except LabError Machine :=
  match declaration.vmName.filter fun name => !Text.isBlankText name with
  | none => .error (.config .unnamedMachine)
  | some vmName =>
    let defaults := environment.defaults
    let hostname := declaration.hostname.getD vmName
    .ok {
      vmName
      hostname
      fqdn := resolveFqdn declaration.fqdn environment.domain hostname
      os := (declaration.os.or defaults.os).getD defaultOs
      cpus := (declaration.cpu.or defaults.cpu).getD defaultCpus
      memoryMib := (declaration.memory.or defaults.memory).getD defaultMemoryMib
      interfaces :=
        declaration.interfaces.mapIdx fun index interface =>
          resolveInterface index (defaults.interfaces.overlay interface)
      disks := resolveDisks defaults.disks declaration.disks
      cloudInit :=
        resolveCloudInit <|
          match declaration.cloudInit with
          | some declared => defaults.cloudInit.overlay declared
          | none => defaults.cloudInit
      workDirectory := environment.workDirectory vmName
    }

def primaryNetwork (machine : Machine) : String :=
  match machine.interfaces.head? with
  | some interface => interface.network
  | none => defaultNetwork

end Machine

def Manifest.resolvedMachines (manifest : Manifest) (environment : Environment) :
    Except LabError (List Machine) :=
  manifest.machines.mapM (Machine.resolve environment)

end VirtualLab
