import VirtualLab.Error

/-!
# Declarations

A manifest as it is written. A field that may be left out stays absent here: which value stands in
for it is decided where a declaration is resolved. Only the first environment is managed.
-/

namespace VirtualLab

structure NameserversDeclaration where
  addresses : List String := []
  search : List String := []
  deriving DecidableEq, Repr, Inhabited

structure InterfaceDeclaration where
  name : Option String := none
  network : Option String := none
  address : Option String := none
  gateway : Option String := none
  nameservers : Option NameserversDeclaration := none
  deriving DecidableEq, Repr, Inhabited

/-- The declared fields, and those of `base` where none is declared. -/
def InterfaceDeclaration.overlay (base declared : InterfaceDeclaration) : InterfaceDeclaration where
  name := declared.name.or base.name
  network := declared.network.or base.network
  address := declared.address.or base.address
  gateway := declared.gateway.or base.gateway
  nameservers := declared.nameservers.or base.nameservers

structure DiskDeclaration where
  name : String
  size : Option String := none
  deriving DecidableEq, Repr, Inhabited

structure CloudInitDeclaration where
  user : Option String := none
  pubkey : Option String := none
  timezone : Option String := none
  packages : Option (List String) := none
  runcmd : Option (List String) := none
  deriving DecidableEq, Repr, Inhabited

def CloudInitDeclaration.overlay (base declared : CloudInitDeclaration) : CloudInitDeclaration where
  user := declared.user.or base.user
  pubkey := declared.pubkey.or base.pubkey
  timezone := declared.timezone.or base.timezone
  packages := declared.packages.or base.packages
  runcmd := declared.runcmd.or base.runcmd

structure Mount where
  source : String
  target : String
  readonly : Bool := false
  deriving DecidableEq, Repr, Inhabited

structure DefaultsDeclaration where
  domain : Option String := none
  os : Option String := none
  cpu : Option Nat := none
  memory : Option Nat := none
  cloudImageDirectory : Option String := none
  diskImageDirectory : Option String := none
  interfaces : InterfaceDeclaration := {}
  disks : List DiskDeclaration := []
  cloudInit : CloudInitDeclaration := {}
  mounts : List Mount := []
  deriving DecidableEq, Repr, Inhabited

structure MachineDeclaration where
  vmName : Option String := none
  hostname : Option String := none
  fqdn : Option String := none
  os : Option String := none
  cpu : Option Nat := none
  memory : Option Nat := none
  interfaces : List InterfaceDeclaration := []
  disks : List DiskDeclaration := []
  cloudInit : Option CloudInitDeclaration := none
  deriving DecidableEq, Repr, Inhabited

structure EnvironmentDeclaration where
  name : Option String := none
  uri : Option String := none
  defaults : DefaultsDeclaration := {}
  machines : List MachineDeclaration := []
  deriving DecidableEq, Repr, Inhabited

structure ImageDeclaration where
  name : String
  imageUrl : String
  checksumUrl : Option String := none
  checksumType : Option String := none
  keyUrl : Option String := none
  networkVersion : Option Nat := none
  osVariant : Option String := none
  deriving DecidableEq, Repr, Inhabited

structure Manifest where
  environments : List EnvironmentDeclaration := []
  images : List ImageDeclaration := []
  deriving DecidableEq, Repr, Inhabited

namespace Manifest

def defaultPath : Path := ⟨"Lvlab.yml"⟩

def environmentDeclaration (manifest : Manifest) : Except LabError EnvironmentDeclaration :=
  match manifest.environments.head? with
  | some declaration => .ok declaration
  | none => .error (.config .noEnvironment)

def machines (manifest : Manifest) : List MachineDeclaration :=
  match manifest.environments.head? with
  | some declaration => declaration.machines
  | none => []

/-- The machine called `name`: the one with that machine name wherever it stands, and without one
the first with that host name. -/
def findMachine (manifest : Manifest) (name : String) : Except LabError MachineDeclaration :=
  match manifest.machines.find? fun machine => machine.vmName == some name with
  | some machine => .ok machine
  | none =>
    match manifest.machines.find? fun machine => machine.hostname == some name with
    | some machine => .ok machine
    | none => .error (.machineNotFound name)

def findImage (manifest : Manifest) (name : String) : Option ImageDeclaration :=
  manifest.images.find? fun image => image.name == name

end Manifest

end VirtualLab
