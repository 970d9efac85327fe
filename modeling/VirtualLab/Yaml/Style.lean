import VirtualLab.Yaml.Scalar

/-!
# How a text is written

A text is written plain where that is read back as the same text, in single quotes where it is
not, as a literal block where it has several lines, and in double quotes with escapes where no
other form can hold it.
-/

namespace VirtualLab.Yaml

inductive Style where
  | plain
  | singleQuoted
  | doubleQuoted
  | literal
  deriving DecidableEq, Repr

namespace Style

def isBreak (character : Char) : Bool :=
  character == '\n' || character == '\r' || character == '\x85' || character == '\u2028' ||
    character == '\u2029'

def isPrintable (character : Char) : Bool :=
  let code := character.toNat
  code == 0x0A || (0x20 ≤ code && code ≤ 0x7E) || (0xA0 ≤ code && code < 0xD800) ||
    (0xE000 ≤ code && code ≤ 0xFFFD && code != 0xFEFF) || 0x10000 ≤ code

def isSpaceOrEnd : Option Char → Bool
  | none => true
  | some character =>
    character == ' ' || character == '\t' || character == '\x00' || isBreak character

def startIndicators : List Char := "#,[]\x7b\x7d&*!|>'\"%@`".toList

def indicatesAtStart (character : Char) (following : Option Char) : Bool :=
  startIndicators.contains character ||
    ((character == '?' || character == ':' || character == '-') && isSpaceOrEnd following)

/-- Some character inside the text, with its neighbours, gives it another meaning: a colon before
a space, or a hash sign after one. -/
def indicatesInside : (previous : Char) → List Char → Bool
  | _, [] => false
  | previous, character :: rest =>
    (character == ':' && isSpaceOrEnd rest.head?) ||
      (character == '#' && isSpaceOrEnd (some previous)) || indicatesInside character rest

def hasIndicator (text : List Char) : Bool :=
  "---".toList.isPrefixOf text || "...".toList.isPrefixOf text ||
    match text with
    | [] => false
    | first :: rest => indicatesAtStart first rest.head? || indicatesInside first rest

def hasPair (first second : Char → Bool) : List Char → Bool
  | one :: two :: rest => (first one && second two) || hasPair first second (two :: rest)
  | _ => false

def isSpace (character : Char) : Bool := character == ' '

def needsEscape (text : List Char) : Bool :=
  text.any (fun character => !isPrintable character) || hasPair isSpace isBreak text

def hasLooseEnd (text : List Char) : Bool :=
  let isLoose := fun character => isSpace character || isBreak character
  text.head?.any isLoose || text.getLast?.any isLoose

def plainAllowed (text : List Char) : Bool :=
  text.isEmpty ||
    !(hasLooseEnd text || hasPair isBreak isSpace text || needsEscape text ||
      text.any isBreak || hasIndicator text)

def singleQuotedAllowed (text : List Char) : Bool :=
  !(hasPair isBreak isSpace text || needsEscape text)

def literalAllowed (text : List Char) : Bool :=
  !text.isEmpty && !(text.getLast? == some ' ' || needsEscape text)

/-- How a text is written as a value, or as a key if `asKey`. A key stands before a colon on one
line. -/
def choose (text : String) (asKey : Bool) : Style :=
  let characters := text.toList
  if asKey && characters.any isBreak then doubleQuoted
  else if characters.contains '\n' then
    if literalAllowed characters && !asKey then literal else doubleQuoted
  else if !Scalar.isAmbiguous text && plainAllowed characters then plain
  else if singleQuotedAllowed characters then singleQuoted
  else doubleQuoted

def isSimpleKey (text : String) : Bool := text.utf8ByteSize ≤ 128 && !text.toList.any isBreak

end Style

end VirtualLab.Yaml
