import VirtualLab.Machine

/-!
# The hosts file

One line per machine whose first interface has a static address, the block that holds these lines
between two comments, and the shell commands that add each line to a guest's hosts file once.
-/

namespace VirtualLab

structure HostsEntry where
  ip4 : String
  fqdn : String
  hostname : String
  deriving DecidableEq, Repr, Inhabited

namespace HostsEntry

/-- The address and the names with one space between them; two equal names are written once. -/
def line (entry : HostsEntry) : String :=
  if entry.fqdn = entry.hostname then entry.ip4 ++ " " ++ entry.hostname
  else entry.ip4 ++ " " ++ entry.fqdn ++ " " ++ entry.hostname

/-- The entry of a machine, if its first interface is static. -/
def ofMachine (machine : Machine) : Option HostsEntry := do
  let interface ← machine.interfaces.head?
  let ip4 ← interface.ip4
  pure { ip4, fqdn := machine.fqdn, hostname := machine.hostname }

def ofMachines (machines : List Machine) : List HostsEntry := machines.filterMap ofMachine

def block (environment : String) (entries : List HostsEntry) : String :=
  "# BEGIN lvlab " ++ environment ++ "\n" ++
    String.join (entries.map fun entry => entry.line ++ "\n") ++
    "# END lvlab " ++ environment ++ "\n"

/-- Appends the line to the hosts file unless it stands there already. -/
def command (entry : HostsEntry) : String :=
  "grep -qxF '" ++ entry.line ++ "' /etc/hosts || echo '" ++ entry.line ++ "' >> /etc/hosts"

def commands (entries : List HostsEntry) : List String := entries.map command

end HostsEntry

end VirtualLab
