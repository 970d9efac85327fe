import VirtualLab.BootConfig.Network
import VirtualLab.PublicKey
import VirtualLab.Yaml.Render

/-!
# Boot documents

The three documents a guest reads on its first boot: who it is, how it is set up, and its network.
-/

namespace VirtualLab.BootConfig

open Yaml (Value)

def sudoRule : String := "ALL=(ALL) NOPASSWD:ALL"

def loginShell : String := "/bin/bash"

def metaDataFields (machine : Machine) : List (String × Value) :=
  [("instance-id", .text machine.vmName), ("local-hostname", .text machine.hostname)]

def guestUser (name : String) (keys : List String) : Value :=
  .mapping <|
    [("name", .text name), ("sudo", .text sudoRule), ("shell", .text loginShell)] ++
    listField "ssh_authorized_keys" keys

/-- The fields of the document that sets the guest up. The hosts commands run before the machine's
own. -/
def userDataFields (machine : Machine) (hostsCommands keys : List String) : List (String × Value) :=
  [("hostname", .text machine.hostname),
    ("fqdn", .text machine.fqdn),
    ("users", .sequence [guestUser machine.cloudInit.user keys])] ++
  listField "packages" machine.cloudInit.packages ++
  optionalField "timezone" machine.cloudInit.timezone ++
  listField "runcmd" (hostsCommands ++ machine.cloudInit.runcmd)

def authorizedKeys (home : Option Path) (machine : Machine) : LabTask (List String) :=
  match machine.cloudInit.pubkey with
  | none => return []
  | some value => return [← PublicKey.resolve home value]

def metaData (machine : Machine) : String := Value.document (metaDataFields machine)

def userDataHeader : String := "#cloud-config\n"

def userData (home : Option Path) (machine : Machine) (hostsCommands : List String) :
    LabTask String := do
  let keys ← authorizedKeys home machine
  return userDataHeader ++ Value.document (userDataFields machine hostsCommands keys)

def networkConfig (machine : Machine) (version : Nat) : Except LabError String :=
  (Network.document machine.interfaces version).map Value.document

structure Documents where
  metaData : String
  userData : String
  networkConfig : String
  deriving DecidableEq, Repr, Inhabited

def Documents.render (home : Option Path) (machine : Machine) (networkVersion : Nat)
    (hostsCommands : List String) : LabTask Documents := do
  let userData ← BootConfig.userData home machine hostsCommands
  let networkConfig ← Attempt.orFail id (BootConfig.networkConfig machine networkVersion)
  return { metaData := BootConfig.metaData machine, userData, networkConfig }

end VirtualLab.BootConfig
