/-!
# Values

A document as a tree of values. The fields of a mapping are in the order in which they are
written.
-/

namespace VirtualLab.Yaml

inductive Value where
  | text (content : String)
  | number (value : Nat)
  | flag (value : Bool)
  | sequence (items : List Value)
  | mapping (fields : List (String × Value))
  deriving Repr, Inhabited

namespace Value

def texts (contents : List String) : Value := sequence (contents.map text)

def field? (name : String) : Value → Option Value
  | mapping fields => (fields.find? (·.1 == name)).map (·.2)
  | _ => none

end Value

end VirtualLab.Yaml
