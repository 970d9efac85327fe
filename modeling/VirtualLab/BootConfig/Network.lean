import VirtualLab.Machine
import VirtualLab.NameMap
import VirtualLab.Yaml.Value

/-!
# Network configuration

The interfaces of a machine in either of the two schemas a guest understands. The first schema
lists them in order. The second keys them by name in the order of the names' characters, and of two
interfaces with one name holds the last. Empty lists are left out.
-/

namespace VirtualLab.BootConfig

open Yaml (Value)

def optionalField (name : String) : Option String → List (String × Value)
  | none => []
  | some content => [(name, .text content)]

def listField (name : String) (contents : List String) : List (String × Value) :=
  if contents.isEmpty then [] else [(name, .texts contents)]

namespace Network

def subnet : Addressing → Value
  | .dhcp => .mapping [("type", .text "dhcp")]
  | .static address gateway nameservers search =>
    .mapping <|
      [("type", .text "static"), ("address", .text address)] ++
      optionalField "gateway" gateway ++
      listField "dns_nameservers" nameservers ++
      listField "dns_search" search

def physical (interface : NetworkInterface) : Value :=
  .mapping [
    ("type", .text "physical"),
    ("name", .text interface.name),
    ("subnets", .sequence [subnet interface.addressing])]

def nameserversField (nameservers search : List String) : List (String × Value) :=
  if nameservers.isEmpty && search.isEmpty then []
  else
    [("nameservers",
      .mapping (listField "addresses" nameservers ++ listField "search" search))]

def routesField : Option String → List (String × Value)
  | none => []
  | some gateway =>
    [("routes", .sequence [.mapping [("to", .text "default"), ("via", .text gateway)]])]

def ethernet : Addressing → Value
  | .dhcp => .mapping [("dhcp4", .flag true)]
  | .static address gateway nameservers search =>
    .mapping <|
      [("dhcp4", .flag false), ("addresses", .texts [address])] ++
      routesField gateway ++
      nameserversField nameservers search

def ethernets (interfaces : List NetworkInterface) : NameMap Value :=
  interfaces.foldl
    (fun fields interface => NameMap.insert interface.name (ethernet interface.addressing) fields)
    []

/-- The fields of the document in a schema; only the schemas 1 and 2 exist. -/
def document (interfaces : List NetworkInterface) (version : Nat) :
    Except LabError (List (String × Value)) :=
  match version with
  | 1 => .ok [("version", .number 1), ("config", .sequence (interfaces.map physical))]
  | 2 => .ok [("version", .number 2), ("ethernets", .mapping (ethernets interfaces))]
  | other => .error (.config (.networkVersion other))

end Network

end VirtualLab.BootConfig
