import VirtualLab.Yaml.Style

/-!
# Tokens

The words and marks a document is made of. Marks for the beginning and the end of a block stand
where its indentation begins and ends.
-/

namespace VirtualLab.Yaml

inductive ScalarForm where
  | plain
  | quoted
  | literal
  | folded
  deriving DecidableEq, Repr

inductive Token where
  | versionDirective (major minor : Nat)
  | tagDirective (handle replacement : String)
  | documentStart
  | documentEnd
  | streamEnd
  | blockSequenceStart
  | blockMappingStart
  | blockEnd
  | flowSequenceStart
  | flowSequenceEnd
  | flowMappingStart
  | flowMappingEnd
  | blockEntry
  | flowEntry
  | key
  | value
  | reference (name : String)
  | anchor (name : String)
  | tag (handle suffix : String)
  | scalar (text : String) (form : ScalarForm)
  deriving DecidableEq, Repr, Inhabited

structure Cursor where
  rest : List Char
  line : Nat := 0
  column : Nat := 0
  index : Nat := 0
  deriving Repr, Inhabited

namespace Cursor

def next (cursor : Cursor) : Cursor :=
  match cursor.rest with
  | [] => cursor
  | character :: rest =>
    if Style.isBreak character then
      { rest, line := cursor.line + 1, column := 0, index := cursor.index + 1 }
    else { cursor with rest, column := cursor.column + 1, index := cursor.index + 1 }

def skip (cursor : Cursor) : Nat → Cursor
  | 0 => cursor
  | count + 1 => cursor.next.skip count

/-- The place at which `rest`, an end of the text, begins. -/
def moveTo (cursor : Cursor) (rest : List Char) : Cursor :=
  cursor.skip (cursor.rest.length - rest.length)

end Cursor

end VirtualLab.Yaml
