import VirtualLab.Yaml.Token

/-!
# Nodes

What a document holds once its tokens are put together: scalars as they were written, sequences,
mappings, and references to nodes that were given a name. Names are replaced by numbers, so that a
name may be given again. Two names can come to share a number when one is given again; a reference
then means the node that got the number last.
-/

namespace VirtualLab.Yaml

inductive Node where
  | reference (anchor : Nat)
  | scalar (anchor : Option Nat) (tag : Option String) (form : ScalarForm) (text : String)
  | sequence (anchor : Option Nat) (items : List Node)
  | mapping (anchor : Option Nat) (fields : List (Node × Node))
  deriving Repr, Inhabited

namespace Node

mutual

def find? (anchor : Nat) : Node → Option Node
  | reference _ => none
  | scalar own tag form text =>
    if own = some anchor then some (scalar own tag form text) else none
  | sequence own items =>
    (findInItems? anchor items).or (if own = some anchor then some (sequence own items) else none)
  | mapping own fields =>
    (findInFields? anchor fields).or (if own = some anchor then some (mapping own fields) else none)

def findInItems? (anchor : Nat) : List Node → Option Node
  | [] => none
  | item :: rest => (findInItems? anchor rest).or (item.find? anchor)

def findInFields? (anchor : Nat) : List (Node × Node) → Option Node
  | [] => none
  | (key, value) :: rest =>
    (findInFields? anchor rest).or ((value.find? anchor).or (key.find? anchor))

end

/-- The node itself, or the one it refers to within a document. -/
def target (node document : Node) : Node :=
  match node with
  | reference anchor => (find? anchor document).getD node
  | _ => node

def empty (anchor : Option Nat) (tag : Option String) : Node := scalar anchor tag .plain ""

end Node

end VirtualLab.Yaml
