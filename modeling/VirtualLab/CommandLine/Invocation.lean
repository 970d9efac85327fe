import VirtualLab.Manifest.Declaration

/-!
# Command lines

A command line names a command, the options that hold for all commands, and the command's own
options and operands. Options may stand anywhere, also before the command. What is wrong with a
command line, and a request for help, end the program before anything is done.
-/

namespace VirtualLab

inductive SnapshotCommand where
  | create (machine name : String) (description : Option String)
  | list (machine : String)
  | delete (machine name : String)
  deriving DecidableEq, Repr

inductive Command where
  | init (images : List String)
  | up (machine : String)
  | down (machine : String)
  | destroy (machine : String) (confirmed : Bool)
  | status (asJson : Bool)
  | snapshot (command : SnapshotCommand)
  | hosts
  | capabilities
  | version
  deriving DecidableEq, Repr

structure Invocation where
  manifest : Path
  connect : Option String
  command : Command
  deriving DecidableEq, Repr

inductive UsageStop where
  | help
  | malformed
  deriving DecidableEq, Repr

def UsageStop.exitCode : UsageStop → Nat
  | help => 0
  | malformed => 2

namespace CommandLine

inductive Switch where
  | manifest
  | connect
  | yes
  | json
  | description
  | help
  | version
  deriving DecidableEq, Repr

namespace Switch

def word : Switch → String
  | manifest => "manifest"
  | connect => "connect"
  | yes => "yes"
  | json => "json"
  | description => "description"
  | help => "help"
  | version => "version"

def letter : Switch → Option Char
  | manifest => some 'f'
  | connect => some 'c'
  | yes => some 'y'
  | json => none
  | description => some 'd'
  | help => some 'h'
  | version => some 'V'

def takesValue : Switch → Bool
  | manifest | connect | description => true
  | yes | json | help | version => false

/-- The option accepts a value. A path is never empty. -/
def accepts (switch : Switch) (value : String) : Bool :=
  !(switch = manifest && value.isEmpty)

end Switch

structure Section where
  switches : List (Switch × String) := []
  operands : List String := []
  deriving Repr, Inhabited

namespace Section

def has (part : Section) (switch : Switch) : Bool := part.switches.any (·.1 == switch)

def value? (part : Section) (switch : Switch) : Option String := part.switches.lookup switch

/-- Takes an option with its value. An option is given once, and a request for help is followed at
once. -/
def add (part : Section) (switch : Switch) (value : String) : Except UsageStop Section :=
  if switch = .help || switch = .version then .error .help
  else if part.has switch || !switch.accepts value then .error .malformed
  else .ok { part with switches := part.switches ++ [(switch, value)] }

end Section

structure Shape where
  switches : List Switch
  operandLimit : Option Nat := some 0
  commands : List String := []

namespace Shape

def commonSwitches : List Switch := [.manifest, .connect, .help]

def root : Shape where
  switches := .version :: commonSwitches
  commands :=
    ["init", "up", "down", "destroy", "status", "snapshot", "hosts", "capabilities", "version"]

def snapshot : Shape where
  switches := commonSwitches
  commands := ["create", "list", "delete"]

def leaf (operandLimit : Option Nat) (own : List Switch := []) : Shape where
  switches := own ++ commonSwitches
  operandLimit

def ofCommand (command : String) : Shape :=
  if command = "init" then leaf none
  else if command = "up" || command = "down" then leaf (some 1)
  else if command = "destroy" then leaf (some 1) [.yes]
  else if command = "status" then leaf (some 0) [.json]
  else leaf (some 0)

def ofSnapshotCommand (command : String) : Shape :=
  if command = "create" then leaf (some 2) [.description]
  else if command = "delete" then leaf (some 2)
  else leaf (some 1)

def findWord (shape : Shape) (word : String) : Option Switch :=
  shape.switches.find? (·.word == word)

def findLetter (shape : Shape) (letter : Char) : Option Switch :=
  shape.switches.find? (·.letter == some letter)

def hasRoom (shape : Shape) (part : Section) : Bool :=
  match shape.operandLimit with
  | none => true
  | some limit => part.operands.length < limit

end Shape

structure Reading where
  part : Section
  next : Option (String × List String) := none

/-- An argument that can be the value of an option or an operand: it does not begin with a dash, or
is a dash alone. -/
def isOperand (argument : String) : Bool :=
  match argument.toList with
  | '-' :: _ :: _ => false
  | _ => true

/-- What an option is given: the value attached to it, or the next argument. Answers the value and
the arguments after it. -/
def takeValue (attached : Option String) (rest : List String) :
    Except UsageStop (String × List String) :=
  match attached, rest with
  | some value, _ => .ok (value, rest)
  | none, value :: others => if isOperand value then .ok (value, others) else .error .malformed
  | none, [] => .error .malformed

def readWord (shape : Shape) (part : Section) (text : List Char) (rest : List String) :
    Except UsageStop (Section × List String) :=
  let name := String.ofList (Text.before '=' text)
  let attached := (Text.splitFirst ['='] text).map fun parts => String.ofList parts.2
  match shape.findWord name with
  | none => .error .malformed
  | some switch =>
    if switch.takesValue then do
      let (value, others) ← takeValue attached rest
      return (← part.add switch value, others)
    else if attached.isSome then .error .malformed
    else do return (← part.add switch "", rest)

/-- Reads the options in an argument that begins with one dash. The letters of options without a
value may stand together; what follows the letter of another option is its value. -/
def readLetters (shape : Shape) (rest : List String) :
    (part : Section) → List Char → Except UsageStop (Section × List String)
  | part, [] => .ok (part, rest)
  | part, letter :: letters =>
    match shape.findLetter letter with
    | none => .error .malformed
    | some switch =>
      if switch.takesValue then do
        let attached :=
          match letters with
          | [] => none
          | '=' :: value => some (String.ofList value)
          | value => some (String.ofList value)
        let (value, others) ← takeValue attached rest
        return (← part.add switch value, others)
      else do readLetters shape rest (← part.add switch "") letters

def readOperands (shape : Shape) : (part : Section) → List String → Except UsageStop Section
  | part, [] => .ok part
  | part, operand :: rest =>
    if shape.hasRoom part then
      readOperands shape { part with operands := part.operands ++ [operand] } rest
    else .error .malformed

/-- Reads a part of a command line up to the word that begins the next one. The number bounds the
arguments. -/
def readSection (shape : Shape) :
    (bound : Nat) → (part : Section) → List String → Except UsageStop Reading
  | 0, part, _ => .ok { part }
  | _, part, [] => .ok { part }
  | bound + 1, part, argument :: rest =>
    match argument.toList with
    | ['-', '-'] => do return { part := ← readOperands shape part rest }
    | '-' :: '-' :: text => do
      let (part, rest) ← readWord shape part text rest
      readSection shape bound part rest
    | '-' :: letter :: letters => do
      let (part, rest) ← readLetters shape rest part (letter :: letters)
      readSection shape bound part rest
    | _ =>
      if shape.commands.isEmpty then
        if shape.hasRoom part then
          readSection shape bound { part with operands := part.operands ++ [argument] } rest
        else .error .malformed
      else if argument = "help" || shape.commands.contains argument then
        .ok { part, next := some (argument, rest) }
      else .error .malformed

def isHelpTopic (shape : Shape) : List String → Bool
  | [] => true
  | ["help"] => !shape.commands.isEmpty
  | ["snapshot", command] =>
    shape.commands.contains "snapshot" &&
      ("help" :: Shape.snapshot.commands).contains command
  | [command] => shape.commands.contains command
  | _ => false

def readPart (shape : Shape) (arguments : List String) : Except UsageStop Reading := do
  let reading ← readSection shape arguments.length {} arguments
  match reading.next with
  | some ("help", topic) => throw (if isHelpTopic shape topic then .help else .malformed)
  | _ => return reading

def commandOf (name : String) (part : Section) : Option Command :=
  match name, part.operands with
  | "init", images => some (.init images)
  | "up", [machine] => some (.up machine)
  | "down", [machine] => some (.down machine)
  | "destroy", [machine] => some (.destroy machine (part.has .yes))
  | "status", [] => some (.status (part.has .json))
  | "hosts", [] => some .hosts
  | "capabilities", [] => some .capabilities
  | "version", [] => some .version
  | _, _ => none

def snapshotCommandOf (name : String) (part : Section) : Option Command :=
  match name, part.operands with
  | "create", [machine, snapshot] =>
    some (.snapshot (.create machine snapshot (part.value? .description)))
  | "list", [machine] => some (.snapshot (.list machine))
  | "delete", [machine, snapshot] => some (.snapshot (.delete machine snapshot))
  | _, _ => none

/-- The value of an option that may stand in any part: that of the last part which has it. -/
def commonValue (parts : List Section) (switch : Switch) : Option String :=
  (parts.reverse.filterMap (·.value? switch)).head?

/-- The path of the manifest: as an option says, else as the user's settings say, else the default.
A path in the settings has to be valid wherever no option stands in for it. -/
def manifestPath (setting : Option String) (parts : List Section) : Except UsageStop Path :=
  if setting.any (fun value => !Switch.manifest.accepts value) &&
      parts.any (fun part => !part.has .manifest) then
    .error .malformed
  else
    .ok <|
      match (commonValue parts .manifest).or setting with
      | some text => ⟨text⟩
      | none => Manifest.defaultPath

def invocation (setting : Option String) (parts : List Section) (command : Option Command) :
    Except UsageStop Invocation := do
  match command with
  | none => throw .malformed
  | some command =>
    return {
      manifest := ← manifestPath setting parts
      connect := commonValue parts .connect
      command
    }

def read (setting : Option String) (arguments : List String) : Except UsageStop Invocation := do
  let root ← readPart Shape.root arguments
  match root.next with
  | none => throw .malformed
  | some ("snapshot", arguments) =>
    let group ← readPart Shape.snapshot arguments
    match group.next with
    | none => throw .malformed
    | some (name, arguments) =>
      let last ← readPart (Shape.ofSnapshotCommand name) arguments
      invocation setting [root.part, group.part, last.part] (snapshotCommandOf name last.part)
  | some (name, arguments) =>
    let last ← readPart (Shape.ofCommand name) arguments
    invocation setting [root.part, last.part] (commandOf name last.part)

end CommandLine

end VirtualLab
