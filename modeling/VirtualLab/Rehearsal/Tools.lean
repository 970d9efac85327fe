import VirtualLab.FileSystem
import VirtualLab.NameMap
import VirtualLab.Script

/-!
# Tools in a rehearsal

Stand-ins for the tools a lab runs. They keep domains and write files as far as a lab can tell.
Rules come first: a rule makes the runs that it matches end in a given way and do nothing.
-/

namespace VirtualLab.Rehearsal

structure ToolExit where
  code : Int := 0
  stdout : String := ""
  stderr : String := ""
  deriving DecidableEq, Repr, Inhabited

namespace ToolExit

def prints (text : String) : ToolExit := { stdout := text }

def fails (text : String) : ToolExit := { code := 1, stderr := text }

def result (tool : String) (arguments : List String) (exit : ToolExit) :
    Except ToolFailure ToolOutput :=
  if exit.code = 0 then .ok ⟨exit.stdout, exit.stderr⟩
  else .error (.failed tool arguments exit.code exit.stderr)

end ToolExit

structure Rule where
  tool : String
  argument : Option String := none
  ending : Option ToolExit
  timesLeft : Option Nat := none
  deriving DecidableEq, Repr, Inhabited

namespace Rule

def decides (rule : Rule) (tool : String) (arguments : List String) : Bool :=
  rule.tool == tool && rule.argument.all arguments.contains && rule.timesLeft != some 0

def spend (rule : Rule) : Rule := { rule with timesLeft := rule.timesLeft.map (· - 1) }

def applyFirst (tool : String) (arguments : List String) :
    List Rule → Option (Option ToolExit × List Rule)
  | [] => none
  | rule :: rest =>
    if rule.decides tool arguments then some (rule.ending, rule.spend :: rest)
    else (applyFirst tool arguments rest).map fun decided => (decided.1, rule :: decided.2)

end Rule

structure Domain where
  state : Int := 0
  reason : Int := 0
  snapshots : List String := []
  deriving DecidableEq, Repr, Inhabited

structure Workbench where
  files : FileSystem := {}
  domains : NameMap Domain := []
  deriving DecidableEq, Repr, Inhabited

namespace Workbench

def argumentAfter (word : String) : List String → Option String
  | first :: second :: rest =>
    if first = word then some second else argumentAfter word (second :: rest)
  | _ => none

/-! ## The client of the hypervisor -/

def listed (names : List String) : String := String.join (names.map (· ++ "\n")) ++ "\n"

def subject (command : String) (operands : List String) : String :=
  let word :=
    if command = "domstats" then some "--state"
    else if "snapshot-".toList.isPrefixOf command.toList then some "--domain"
    else none
  ((match word with
    | some word => argumentAfter word operands
    | none => operands.head?)).getD ""

def onDomain (name : String) (domain : Domain) (command : String) (operands : List String) :
    ToolExit × Option Domain :=
  if command = "domstats" then
    (.prints ("Domain: '" ++ name ++ "'\n  state.state=" ++ toString domain.state ++
      "\n  state.reason=" ++ toString domain.reason ++ "\n\n"), some domain)
  else if command = "start" then
    if domain.state = 1 then (.fails "error: Domain is already active\n", some domain)
    else ({}, some { domain with state := 1, reason := 1 })
  else if command = "shutdown" then ({}, some { domain with state := 4, reason := 1 })
  else if command = "destroy" then ({}, some { domain with state := 5, reason := 2 })
  else if command = "undefine" then ({}, none)
  else if command = "snapshot-list" then (.prints (listed domain.snapshots), some domain)
  else if command = "snapshot-create-as" then
    let snapshot := (argumentAfter "--name" operands).getD ""
    if snapshot ∈ domain.snapshots then
      (.fails ("error: domain snapshot " ++ snapshot ++ " already exists\n"), some domain)
    else ({}, some { domain with snapshots := domain.snapshots ++ [snapshot] })
  else if command = "snapshot-delete" then
    let snapshot := (argumentAfter "--snapshotname" operands).getD ""
    if snapshot ∈ domain.snapshots then
      ({}, some { domain with snapshots := domain.snapshots.erase snapshot })
    else
      (.fails ("error: no domain snapshot with matching name '" ++ snapshot ++ "'\n"), some domain)
  else (.fails ("error: unknown command: '" ++ command ++ "'\n"), some domain)

def client (domains : NameMap Domain) (uri command : String) (operands : List String) :
    ToolExit × NameMap Domain :=
  if command = "uri" then (.prints (uri ++ "\n"), domains)
  else if command = "capabilities" then (.prints "<capabilities/>\n", domains)
  else if command = "list" then (.prints (listed (domains.map (·.1))), domains)
  else
    let name := subject command operands
    match domains.get? name with
    | none => (.fails ("error: failed to get domain '" ++ name ++ "'\n"), domains)
    | some domain =>
      match onDomain name domain command operands with
      | (exit, some domain) => (exit, NameMap.insert name domain domains)
      | (exit, none) => (exit, NameMap.erase name domains)

/-! ## The tools that write files -/

def writing (bench : Workbench) (path : String) (content : Bytes) : ToolExit × Workbench :=
  match bench.files.write ⟨path⟩ content with
  | .ok files => ({}, { bench with files })
  | .error cause => (.fails (cause.message ++ "\n"), bench)

/-- The disk tool writes the size of the disk, which is its last argument, into the file before. -/
def makeDisk (bench : Workbench) (arguments : List String) : ToolExit × Workbench :=
  match arguments.reverse with
  | size :: path :: _ => bench.writing path (Bytes.ofText size)
  | _ => ({}, bench)

def pack (bench : Workbench) (arguments : List String) : ToolExit × Workbench :=
  bench.writing ((argumentAfter "-output" arguments).getD "") (Bytes.ofText "iso")

def decrypt (bench : Workbench) (arguments : List String) : ToolExit × Workbench :=
  match argumentAfter "--decrypt" arguments with
  | none => ({}, bench)
  | some source =>
    match bench.files.read ⟨source⟩ with
    | .error cause => ({ code := 2, stderr := "gpg: " ++ cause.message ++ "\n" }, bench)
    | .ok content => bench.writing ((argumentAfter "--output" arguments).getD "") content

def install (bench : Workbench) (arguments : List String) : ToolExit × Workbench :=
  let name := (argumentAfter "--name" arguments).getD ""
  match bench.domains.get? name with
  | some _ => (.fails ("ERROR    Guest name '" ++ name ++ "' is already in use.\n"), bench)
  | none =>
    ({}, { bench with
      domains := NameMap.insert name { state := 1, reason := 1 } bench.domains })

/-! ## All tools -/

def run (bench : Workbench) (tool : String) (arguments : List String) :
    Option (ToolExit × Workbench) :=
  match tool, arguments with
  | "virsh", _ :: uri :: command :: operands =>
    let (exit, domains) := client bench.domains uri command operands
    some (exit, { bench with domains })
  | "qemu-img", _ => some (bench.makeDisk arguments)
  | "genisoimage", _ => some (bench.pack arguments)
  | "virt-install", _ => some (bench.install arguments)
  | "gpg", _ => some (bench.decrypt arguments)
  | _, _ => none

end Workbench

end VirtualLab.Rehearsal
