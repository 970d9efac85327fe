import VirtualLab.Manifest.Declaration

/-!
# The environment

The managed environment with its directories and its hypervisor settled. It needs a name, and no
two of its machines may share theirs: a machine's name is also that of its domain and directory.
-/

namespace VirtualLab

/-- An environment as all operations of a run see it. -/
structure Environment where
  name : String
  uri : String
  domain : Option String
  defaults : DefaultsDeclaration
  diskImageDirectory : Path
  cloudImageDirectory : Path
  deriving DecidableEq, Repr, Inhabited

namespace Environment

def defaultUri : String := "qemu:///system"

def defaultDirectory : String := "/var/lib/libvirt/images/lvlab"

def firstRepeated : (seen names : List String) → Option String
  | _, [] => none
  | seen, name :: rest =>
    if name ∈ seen then some name else firstRepeated (name :: seen) rest

def ofDeclaration (home : Option Path) (declaration : EnvironmentDeclaration) :
    Except LabError Environment :=
  match declaration.name.filter fun name => !Text.isBlankText name with
  | none => .error (.config .unnamedEnvironment)
  | some name =>
    match firstRepeated [] (declaration.machines.filterMap (·.vmName)) with
    | some machine => .error (.config (.repeatedMachine machine name))
    | none =>
      let defaults := declaration.defaults
      .ok {
        name
        uri := declaration.uri.getD defaultUri
        domain := defaults.domain
        defaults
        diskImageDirectory :=
          Path.expandHome home (defaults.diskImageDirectory.getD defaultDirectory)
        cloudImageDirectory :=
          Path.expandHome home (defaults.cloudImageDirectory.getD defaultDirectory)
      }

def workDirectory (environment : Environment) (machine : String) : Path :=
  (environment.diskImageDirectory.join environment.name).join machine

def imageDirectory (environment : Environment) : Path :=
  environment.cloudImageDirectory.join "cloud-images"

def mounts (environment : Environment) : List Mount := environment.defaults.mounts

end Environment

def Manifest.environment (manifest : Manifest) (home : Option Path) :
    Except LabError Environment := do
  Environment.ofDeclaration home (← manifest.environmentDeclaration)

end VirtualLab
