import VirtualLab.Yaml.Error
import VirtualLab.Yaml.Node

/-!
# Taking values from nodes

Records, lists and single values from the nodes of a document. A reference counts as the node it
refers to. Nothing written where a list or a record is expected is an empty one. Fields that a
record does not know are passed over.
-/

namespace VirtualLab.Yaml.Node

abbrev Decoder (α : Type) := (document node : Node) → Except ReadError α

namespace Decoder

variable {α : Type}

def text : Decoder String := fun document node =>
  match node.target document with
  | scalar _ _ _ text => .ok text
  | _ => .error (.wrongKind "a string")

/-- A scalar that may stand for something else than its text: a plain one, or a literal one with
the tag for the kind. -/
def plainText (kind tag : String) : Decoder String := fun document node =>
  match node.target document with
  | scalar _ _ .plain text => .ok text
  | scalar _ (some own) .literal text =>
    if own = tag then .ok text else .error (.wrongKind kind)
  | _ => .error (.wrongKind kind)

def number (bound : Nat) : Decoder Nat := fun document node => do
  match Scalar.readUnsigned bound (← plainText "a number" "tag:yaml.org,2002:int" document node).toList
    with
  | some value => return value
  | none => throw (.wrongKind "a number")

def flag : Decoder Bool := fun document node => do
  match Scalar.readFlag (← plainText "a boolean" "tag:yaml.org,2002:bool" document node) with
  | some value => return value
  | none => throw (.wrongKind "a boolean")

/-- Whether a node stands for a value. Nothing written and the plain spellings of null do not. -/
def isPresent : Decoder Bool := fun document node =>
  match node.target document with
  | scalar _ none .plain text => .ok (!(text.isEmpty || Scalar.isNull text))
  | scalar _ (some "tag:yaml.org,2002:null") .plain text =>
    if Scalar.isNull text then .ok false else .error (.wrongKind "null")
  | _ => .ok true

def optional (decode : Decoder α) : Decoder (Option α) := fun document node => do
  if ← isPresent document node then return some (← decode document node) else return none

def list (decode : Decoder α) : Decoder (List α) := fun document node =>
  match node.target document with
  | sequence _ items => items.mapM (decode document)
  | scalar _ _ .plain "" => .ok []
  | _ => .error (.wrongKind "a sequence")

end Decoder

structure Fields where
  document : Node
  fields : List (String × Node)

namespace Fields

/-- The fields of a node that a record knows; none of them may occur twice. -/
def ofNode (known : List String) : Decoder Fields := fun document node =>
  match node.target document with
  | mapping _ pairs => do
    let fields ← pairs.mapM fun pair => return (← Decoder.text document pair.1, pair.2)
    let names := (fields.map (·.1)).filter known.contains
    match known.find? fun name => 1 < names.count name with
    | some name => throw (.repeatedField name)
    | none => return { document, fields }
  | scalar _ _ .plain "" => .ok { document, fields := [] }
  | _ => .error (.wrongKind "a mapping")

variable {α : Type}

def getD (fields : Fields) (name : String) (decode : Decoder α) (absent : α) :
    Except ReadError α :=
  match fields.fields.lookup name with
  | some node => decode fields.document node
  | none => .ok absent

def get? (fields : Fields) (name : String) (decode : Decoder α) : Except ReadError (Option α) :=
  fields.getD name decode.optional none

def get (fields : Fields) (name : String) (decode : Decoder α) : Except ReadError α :=
  match fields.fields.lookup name with
  | some node => decode fields.document node
  | none => .error (.missingField name)

end Fields

end VirtualLab.Yaml.Node
