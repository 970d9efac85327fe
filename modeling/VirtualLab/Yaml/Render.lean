import VirtualLab.Yaml.Style
import VirtualLab.Yaml.Value

/-!
# Writing documents

Documents are written in block form. A mapping has one field per line; a sequence that is the value
of a field has its dashes under the field's name; everything deeper stands two columns further in.
Lines are not folded.
-/

namespace VirtualLab.Yaml

namespace Style

def margin (width : Nat) : List Char := List.replicate width ' '

def hex : (width value : Nat) → List Char
  | 0, _ => []
  | width + 1, value => hex width (value / 16) ++ [(Nat.digitChar (value % 16)).toUpper]

def letterEscapes : List (Char × Char) := [
  ('\x00', '0'), ('\x07', 'a'), ('\x08', 'b'), ('\t', 't'), ('\n', 'n'), ('\x0b', 'v'),
  ('\x0c', 'f'), ('\r', 'r'), ('\x1b', 'e'), ('"', '"'), ('\\', '\\'), ('\x85', 'N'),
  ('\u2028', 'L'), ('\u2029', 'P')]

def escaped (character : Char) : List Char :=
  if isPrintable character && !isBreak character && character != '"' && character != '\\' then
    [character]
  else
    match letterEscapes.lookup character with
    | some letter => ['\\', letter]
    | none =>
      let code := character.toNat
      if code ≤ 0xFF then '\\' :: 'x' :: hex 2 code
      else if code ≤ 0xFFFF then '\\' :: 'u' :: hex 4 code
      else '\\' :: 'U' :: hex 8 code

/-- The text with `indent` spaces at the start of each line that is not empty. The first character
starts a line if `atStart`. -/
def indented (indent : Nat) : (atStart : Bool) → List Char → List Char
  | _, [] => []
  | atStart, character :: rest =>
    if isBreak character then character :: indented indent true rest
    else if atStart then margin indent ++ character :: indented indent false rest
    else character :: indented indent false rest

def singleQuotes (indent : Nat) (text : List Char) : List Char :=
  let doubled := text.flatMap fun character => if character = '\'' then ['\'', '\''] else [character]
  '\'' :: indented indent false doubled ++
    (if text.getLast?.any isBreak then margin indent else []) ++ ['\'']

def chomping (text : List Char) : List Char :=
  match text.reverse with
  | last :: earlier =>
    if !isBreak last then ['-']
    else
      match earlier with
      | [] => ['+']
      | previous :: _ => if isBreak previous then ['+'] else []
  | [] => ['-']

/-- A literal block with its lines at a column. The first line is told apart from the margin by a
number if it begins with a space or is empty. -/
def literalBlock (indent : Nat) (text : List Char) : List Char :=
  let hint := if text.head?.any fun first => isSpace first || isBreak first then ['2'] else []
  '|' :: hint ++ chomping text ++ '\n' :: indented indent true text

def write (style : Style) (indent : Nat) (text : List Char) : List Char :=
  match style with
  | plain => text
  | singleQuoted => singleQuotes indent text
  | doubleQuoted => '"' :: text.flatMap escaped ++ ['"']
  | literal => literalBlock indent text

/-- What ends the last line of a text in a style. A literal block may end its line itself. -/
def lineEnd (style : Style) (text : List Char) : List Char :=
  if style = literal && text.getLast?.any isBreak then [] else ['\n']

end Style

namespace Value

def textLine (indent : Nat) (content : String) : List Char :=
  let style := Style.choose content false
  style.write indent content.toList ++ style.lineEnd content.toList

def keyAndColon (indent : Nat) (name : String) : List Char :=
  if Style.isSimpleKey name then (Style.choose name true).write indent name.toList ++ [':']
  else '?' :: ' ' :: textLine (indent + 2) name ++ Style.margin indent ++ [':']

mutual

/-- A value after a dash, or after the colon of a key on a line of its own, at column `indent`. -/
def afterDash (indent : Nat) : Value → List Char
  | text content => ' ' :: textLine (indent + 2) content
  | number value => ' ' :: (toString value).toList ++ ['\n']
  | flag value => ' ' :: (toString value).toList ++ ['\n']
  | sequence items =>
    if items.isEmpty then " []\n".toList else itemLines (indent + 2) [' '] items
  | mapping fields =>
    if fields.isEmpty then " \x7b\x7d\n".toList else fieldLines (indent + 2) [' '] fields

def afterKey (indent : Nat) : Value → List Char
  | text content => ' ' :: textLine (indent + 2) content
  | number value => ' ' :: (toString value).toList ++ ['\n']
  | flag value => ' ' :: (toString value).toList ++ ['\n']
  | sequence items =>
    if items.isEmpty then " []\n".toList
    else itemLines indent ('\n' :: Style.margin indent) items
  | mapping fields =>
    if fields.isEmpty then " \x7b\x7d\n".toList
    else fieldLines (indent + 2) ('\n' :: Style.margin (indent + 2)) fields

def itemLines (indent : Nat) (lead : List Char) : List Value → List Char
  | [] => []
  | item :: rest =>
    lead ++ '-' :: afterDash indent item ++ itemLines indent (Style.margin indent) rest

def fieldLines (indent : Nat) (lead : List Char) : List (String × Value) → List Char
  | [] => []
  | (name, value) :: rest =>
    lead ++ keyAndColon indent name ++
      (if Style.isSimpleKey name then afterKey indent value else afterDash indent value) ++
      fieldLines indent (Style.margin indent) rest

end

def document (fields : List (String × Value)) : String := String.ofList (fieldLines 0 [] fields)

end Value

end VirtualLab.Yaml
