import VirtualLab.Text.Blank

/-!
# Cutting text

Cuts at the first or the last occurrence of a mark, and the lines of a text. A mark that does not
occur gives no cut.
-/

namespace VirtualLab.Text

def splitFirst (mark : List Char) : List Char → Option (List Char × List Char)
  | [] => if mark.isEmpty then some ([], []) else none
  | character :: rest =>
    if mark.isPrefixOf (character :: rest) then
      some ([], (character :: rest).drop mark.length)
    else (splitFirst mark rest).map fun parts => (character :: parts.1, parts.2)

/-- The part before the first occurrence of `mark`; the whole text without one. -/
def before (mark : Char) (text : List Char) : List Char := text.takeWhile (· != mark)

/-- The part after the last occurrence of `mark`, if there is one. -/
def afterLast (mark : Char) (text : List Char) : Option (List Char) :=
  if mark ∈ text then some (text.reverse.takeWhile (· != mark)).reverse else none

def dropEnding (ending : Char) (text : List Char) : List Char :=
  if text.getLast? = some ending then text.dropLast else text

/-- The lines of a text. A line feed ends a line and is not part of it, nor is one carriage return
before it; text after the last line feed is a line of its own, kept as it stands. -/
def lines (text : List Char) : List (List Char) :=
  let parts := pieces (· == '\n') text
  let ended := parts.dropLast.map (dropEnding '\r')
  match parts.getLast? with
  | none | some [] => ended
  | some rest => ended ++ [rest]

def lower (text : List Char) : List Char := text.map Char.toLower

def joined (separator : String) (texts : List String) : String := separator.intercalate texts

end VirtualLab.Text
