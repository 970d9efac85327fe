import VirtualLab.Yaml.Node
import VirtualLab.Yaml.Token.Lexer

/-!
# Putting tokens together

A document is read from the front of its tokens. In a block a missing value is an empty scalar;
between brackets a pair may stand alone as a mapping of one field. A text holds at most one
document.
-/

namespace VirtualLab.Yaml.Node

structure Progress where
  tokens : List Token
  anchors : List (String × Nat) := []
  handles : List (String × String) := []

abbrev Reader := StateT Progress (Except ReadError)

namespace Reader

def peek : Reader Token := return (← get).tokens.headD .streamEnd

def skip : Reader Unit := modify fun progress => { progress with tokens := progress.tokens.tail }

def skipIf (token : Token) : Reader Bool := do
  if (← peek) = token then
    skip
    return true
  else return false

/-- Gives a number to a name: that of the different names so far. -/
def anchor (name : String) : Reader Nat := do
  let anchors := (← get).anchors
  let number := (anchors.map (·.1)).eraseDups.length
  modify fun progress => { progress with anchors := (name, number) :: anchors }
  return number

def anchor? : Reader (Option Nat) := do
  match ← peek with
  | .anchor name =>
    skip
    return some (← anchor name)
  | _ => return none

def resolveTag (handle suffix : String) : Reader String := do
  if handle.isEmpty then return suffix
  match (← get).handles.lookup handle with
  | some replacement => return replacement ++ suffix
  | none =>
    if handle = "!" then return "!" ++ suffix
    else if handle = "!!" then return "tag:yaml.org,2002:" ++ suffix
    else throw .undefinedTagHandle

def tag? : Reader (Option String) := do
  match ← peek with
  | .tag handle suffix =>
    skip
    return some (← resolveTag handle suffix)
  | _ => return none

def properties : Reader (Option Nat × Option String) := do
  match ← anchor? with
  | some anchor => return (some anchor, ← tag?)
  | none =>
    let tag ← tag?
    return (← if tag.isSome then anchor? else pure none, tag)

end Reader

open Reader

mutual

/-- Reads a node. Blocks may begin only if `block`, and a sequence without indentation of its own
only if `indentless`. The number bounds the depth. -/
def read (block indentless : Bool) : (bound : Nat) → Reader Node
  | 0 => throw .tooDeep
  | bound + 1 => do
    if let .reference name ← peek then
      skip
      match (← get).anchors.lookup name with
      | some anchor => return reference anchor
      | none => throw (.undefinedAlias name)
    let (anchor, tag) ← properties
    match ← peek with
    | .blockEntry =>
      if indentless then return sequence anchor (← readIndentless bound)
      else missing anchor tag
    | .scalar text form =>
      skip
      return scalar anchor (if tag = some "!" then none else tag) form text
    | .flowSequenceStart =>
      skip
      return sequence anchor (← readFlowItems true bound)
    | .flowMappingStart =>
      skip
      return mapping anchor (← readFlowFields true bound)
    | .blockSequenceStart =>
      if block then
        skip
        return sequence anchor (← readItems bound)
      else missing anchor tag
    | .blockMappingStart =>
      if block then
        skip
        return mapping anchor (← readFields bound)
      else missing anchor tag
    | _ => missing anchor tag
where
  missing (anchor : Option Nat) (tag : Option String) : Reader Node :=
    if anchor.isSome || tag.isSome then return empty anchor tag else throw .nodeExpected

def readOrEmpty (indentless : Bool) (ends : List Token) : (bound : Nat) → Reader Node
  | 0 => throw .tooDeep
  | bound + 1 => do
    if ends.contains (← peek) then return empty none none
    read true indentless bound

def readFlowOrEmpty (ends : List Token) : (bound : Nat) → Reader Node
  | 0 => throw .tooDeep
  | bound + 1 => do
    if ends.contains (← peek) then return empty none none
    read false false bound

def readItems : (bound : Nat) → Reader (List Node)
  | 0 => throw .tooDeep
  | bound + 1 => do
    if ← skipIf .blockEntry then
      let item ← readOrEmpty false [.blockEntry, .blockEnd] bound
      return item :: (← readItems bound)
    else if ← skipIf .blockEnd then return []
    else throw .entryExpected

def readIndentless : (bound : Nat) → Reader (List Node)
  | 0 => throw .tooDeep
  | bound + 1 => do
    if ← skipIf .blockEntry then
      let item ← readOrEmpty false [.blockEntry, .key, .value, .blockEnd] bound
      return item :: (← readIndentless bound)
    else return []

def readFields : (bound : Nat) → Reader (List (Node × Node))
  | 0 => throw .tooDeep
  | bound + 1 => do
    if ← skipIf .blockEnd then return []
    if !(← skipIf .key) then throw .entryExpected
    let ends := [Token.key, .value, .blockEnd]
    let key ← readOrEmpty true ends bound
    let value ← if ← skipIf .value then readOrEmpty true ends bound else pure (empty none none)
    return (key, value) :: (← readFields bound)

def readFlowItems (first : Bool) : (bound : Nat) → Reader (List Node)
  | 0 => throw .tooDeep
  | bound + 1 => do
    if ← skipIf .flowSequenceEnd then return []
    if !first && !(← skipIf .flowEntry) then throw .entryExpected
    if ← skipIf .flowSequenceEnd then return []
    let item ← if ← skipIf .key then readPair bound else read false false bound
    return item :: (← readFlowItems false bound)

/-- Reads a pair that stands alone in a sequence, after the mark of its key. -/
def readPair : (bound : Nat) → Reader Node
  | 0 => throw .tooDeep
  | bound + 1 => do
    let keyMissing := [Token.value, .flowEntry, .flowSequenceEnd].contains (← peek)
    let key ← readFlowOrEmpty [.value, .flowEntry, .flowSequenceEnd] bound
    -- The token before which a key is missing is taken for the key.
    if keyMissing then skip
    let value ←
      if ← skipIf .value then readFlowOrEmpty [.flowEntry, .flowSequenceEnd] bound
      else pure (empty none none)
    return mapping none [(key, value)]

def readFlowFields (first : Bool) : (bound : Nat) → Reader (List (Node × Node))
  | 0 => throw .tooDeep
  | bound + 1 => do
    if ← skipIf .flowMappingEnd then return []
    if !first && !(← skipIf .flowEntry) then throw .entryExpected
    if ← skipIf .flowMappingEnd then return []
    if ← skipIf .key then
      let key ← readFlowOrEmpty [.value, .flowEntry, .flowMappingEnd] bound
      let value ←
        if ← skipIf .value then readFlowOrEmpty [.flowEntry, .flowMappingEnd] bound
        else pure (empty none none)
      return (key, value) :: (← readFlowFields false bound)
    else
      let key ← read false false bound
      return (key, empty none none) :: (← readFlowFields false bound)

end

def readDirectives (versionSeen : Bool) : (bound : Nat) → Reader Bool
  | 0 => return versionSeen
  | bound + 1 => do
    match ← peek with
    | .versionDirective major minor =>
      if versionSeen then throw .repeatedDirective
      if major ≠ 1 ∨ (minor ≠ 1 ∧ minor ≠ 2) then throw .incompatibleVersion
      skip
      readDirectives true bound
    | .tagDirective handle replacement =>
      if ((← get).handles.lookup handle).isSome then throw .repeatedDirective
      skip
      modify fun progress => { progress with handles := (handle, replacement) :: progress.handles }
      readDirectives versionSeen bound
    | _ => return versionSeen

def skipDocumentEnds : (bound : Nat) → Reader Unit
  | 0 => return ()
  | bound + 1 => do
    if ← skipIf .documentEnd then skipDocumentEnds bound

/-- Reads the only document of a text; none if there is no document at all. -/
def readDocument (bound : Nat) : Reader (Option Node) := do
  if (← peek) = .streamEnd then return none
  let marked ←
    match ← peek with
    | .versionDirective _ _ | .tagDirective _ _ | .documentStart => pure true
    | _ => pure false
  if marked then
    let _ ← readDirectives false bound
    if !(← skipIf .documentStart) then throw .documentStartExpected
  let isEmpty ←
    match ← peek with
    | .versionDirective _ _ | .tagDirective _ _ | .documentStart | .documentEnd | .streamEnd =>
      pure marked
    | _ => pure false
  let document ← if isEmpty then pure (empty none none) else read true false bound
  skipDocumentEnds bound
  match ← peek with
  | .streamEnd => return some document
  | .documentStart | .versionDirective _ _ | .tagDirective _ _ => throw .severalDocuments
  | _ => throw .documentStartExpected

def ofText (text : String) : Except ReadError (Option Node) := do
  let tokens ← Token.ofText text
  let (document, _) ← (readDocument (4 * tokens.length + 4)).run { tokens }
  return document

end VirtualLab.Yaml.Node
