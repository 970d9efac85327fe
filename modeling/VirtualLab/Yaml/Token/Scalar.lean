import VirtualLab.Yaml.Error
import VirtualLab.Yaml.Token

/-!
# Reading scalars

Each function takes a scalar off the front of a text. Line breaks inside a scalar that is not
literal are folded: one break is read as a space, and of several the first is dropped.
-/

namespace VirtualLab.Yaml.Token

open Style (isBreak isSpaceOrEnd)

def isBlank (character : Char) : Bool := character == ' ' || character == '\t'

def isGap (character : Char) : Bool := isBlank character || isBreak character

def startsWithDocumentMark (text : List Char) : Bool :=
  match text with
  | '-' :: '-' :: '-' :: rest | '.' :: '.' :: '.' :: rest => isSpaceOrEnd rest.head?
  | _ => false

/-- What a gap inside a scalar is read as: blanks on one line stand for themselves, line breaks are
folded. -/
def folded (gap : List Char) : List Char :=
  match gap.filter isBreak with
  | [] => gap
  | first :: others =>
    if first = '\n' then (if others.isEmpty then [' '] else others) else first :: others

def columnAfter (column : Nat) (gap : List Char) : Nat :=
  if gap.any isBreak then (gap.reverse.takeWhile fun character => !isBreak character).length
  else column + gap.length

/-- A tab stands left of `indent` on a line that begins in the gap. -/
def hasMisplacedTab (indent : Nat) (gap : List Char) : Bool :=
  (Text.pieces isBreak gap).tail.any fun line => (line.take indent).contains '\t'

/-! ## Plain scalars -/

def isFlowMark (character : Char) : Bool := ",[]\x7b\x7d".toList.contains character

def plainRun (inFlow : Bool) : List Char → Except ReadError (List Char × List Char)
  | [] => .ok ([], [])
  | character :: rest =>
    if isGap character then .ok ([], character :: rest)
    else if inFlow && character == ':' &&
        rest.head?.any fun next => next == '?' || isFlowMark next then
      .error .misplacedColon
    else if (character == ':' && isSpaceOrEnd rest.head?) || (inFlow && isFlowMark character) then
      .ok ([], character :: rest)
    else do
      let (run, after) ← plainRun inFlow rest
      return (character :: run, after)

structure Reading where
  content : List Char
  rest : List Char
  brokenOff : Bool := false

def plainRuns (inFlow : Bool) (indent : Nat) :
    (bound column : Nat) → (gap text : List Char) → Except ReadError Reading
  | 0, _, gap, text => .ok { content := [], rest := text, brokenOff := gap.any isBreak }
  | bound + 1, column, gap, text =>
    let ended : Reading := { content := [], rest := text, brokenOff := gap.any isBreak }
    if (column == 0 && startsWithDocumentMark text) || text.head? == some '#' then .ok ended
    else do
      let (run, after) ← plainRun inFlow text
      if run.isEmpty then return ended
      let content := folded gap ++ run
      let next := after.takeWhile isGap
      let rest := after.dropWhile isGap
      if next.isEmpty then return { content, rest }
      if hasMisplacedTab indent next then throw .misplacedTab
      let column := columnAfter (column + run.length) next
      if !inFlow && column < indent then
        return { content, rest, brokenOff := next.any isBreak }
      let reading ← plainRuns inFlow indent bound column next rest
      return { reading with content := content ++ reading.content }

/-! ## Quoted scalars -/

def letterEscapes : List (Char × Char) := [
  ('0', '\x00'), ('a', '\x07'), ('b', '\x08'), ('t', '\t'), ('\t', '\t'), ('n', '\n'),
  ('v', '\x0b'), ('f', '\x0c'), ('r', '\r'), ('e', '\x1b'), (' ', ' '), ('"', '"'), ('/', '/'),
  ('\\', '\\'), ('N', '\x85'), ('_', '\xa0'), ('L', '\u2028'), ('P', '\u2029')]

def escapeWidth : Char → Option Nat
  | 'x' => some 2
  | 'u' => some 4
  | 'U' => some 8
  | _ => none

def readEscape : List Char → Except ReadError (Char × List Char)
  | [] => .error .unknownEscape
  | letter :: rest =>
    match letterEscapes.lookup letter, escapeWidth letter with
    | some character, _ => .ok (character, rest)
    | none, some width =>
      match Text.readNatural 16 (rest.take width) with
      | some code =>
        if (rest.take width).length = width && code.isValidChar then
          .ok (Char.ofNat code, rest.drop width)
        else .error .unknownEscape
      | none => .error .unknownEscape
    | none, none => .error .unknownEscape

/-- Reads a quoted scalar after its opening quote. `pending` is the gap before the text, and
`atStart` says that the text begins a line. The number bounds the steps. -/
def quotedRuns (double : Bool) :
    (bound : Nat) → (atStart : Bool) → List Char → Except ReadError (List Char × List Char)
  | 0, _, _ => .error .unterminatedQuote
  | bound + 1, atStart, text =>
    if atStart && startsWithDocumentMark text then .error .documentMarkInQuote
    else
      match text with
      | [] => .error .unterminatedQuote
      | character :: rest =>
        let keep := fun (content : List Char) (atStart : Bool) (rest : List Char) => do
          let (following, after) ← quotedRuns double bound atStart rest
          return (content ++ following, after)
        if isGap character then
          let gap := text.takeWhile isGap
          let after := text.dropWhile isGap
          keep (folded gap) (columnAfter 1 gap == 0) after
        else if character == (if double then '"' else '\'') then
          match double, rest with
          | false, '\'' :: others => keep ['\''] false others
          | _, _ => .ok ([], rest)
        else if double && character == '\\' then
          match rest with
          | next :: others =>
            if isBreak next then
              -- An escaped break is dropped with the blanks after it; further breaks are kept.
              let gap := others.takeWhile isGap
              keep (gap.filter isBreak) (columnAfter 0 gap == 0) (others.dropWhile isGap)
            else do
              let (escaped, others) ← readEscape rest
              keep [escaped] false others
          | [] => .error .unknownEscape
        else keep [character] false rest

/-! ## Block scalars -/

inductive Chomping where
  | strip
  | clip
  | keep
  deriving DecidableEq

def readBlockHeader (text : List Char) :
    Except ReadError (Chomping × Option Nat × List Char) :=
  let sign : List Char → Option (Chomping × List Char)
    | '+' :: rest => some (.keep, rest)
    | '-' :: rest => some (.strip, rest)
    | _ => none
  let digit : List Char → Except ReadError (Option Nat × List Char)
    | '0' :: _ => .error .malformedBlockHeader
    | character :: rest =>
      if character.isDigit then .ok (some (character.toNat - '0'.toNat), rest)
      else .ok (none, character :: rest)
    | [] => .ok (none, [])
  match sign text with
  | some (chomping, rest) => do
    let (increment, rest) ← digit rest
    return (chomping, increment, rest)
  | none => do
    let (increment, rest) ← digit text
    match increment, sign rest with
    | some _, some (chomping, rest) => return (chomping, increment, rest)
    | _, _ => return (.clip, increment, rest)

/-- Takes the empty lines before the next line of a block scalar, whose lines begin at `indent` if
that is known. Answers the line breaks, the greatest column reached, the column and the rest. -/
def blockBreaks (indent : Option Nat) :
    (column greatest : Nat) → List Char → Except ReadError (List Char × Nat × Nat × List Char)
  | column, greatest, [] => .ok ([], max greatest column, column, [])
  | column, greatest, character :: rest =>
    let within := indent.all fun indent => column < indent
    if within && character == ' ' then blockBreaks indent (column + 1) greatest rest
    else if within && character == '\t' then .error .misplacedTab
    else if isBreak character then do
      let (breaks, greatest, column, after) ←
        blockBreaks indent 0 (max greatest column) rest
      return (character :: breaks, greatest, column, after)
    else .ok ([], max greatest column, column, character :: rest)

/-- What stands between two lines of a block scalar: the break after the first, and the empty lines
between them. In a folded scalar a single break between two lines that do not begin with a blank
is read as a space. -/
def blockJoint (isFolded : Bool) (leading : List Char) (trailing : List Char)
    (afterBlank beforeBlank : Bool) : List Char :=
  if isFolded && leading.head? == some '\n' && !afterBlank && !beforeBlank then
    (if trailing.isEmpty then [' '] else []) ++ trailing
  else leading ++ trailing

def blockLines (isFolded : Bool) (chomping : Chomping) (indent : Nat) :
    (bound column : Nat) → (leading trailing : List Char) → (afterBlank : Bool) → List Char →
      Except ReadError (List Char × List Char)
  | 0, _, _, _, _, text => .ok ([], text)
  | bound + 1, column, leading, trailing, afterBlank, text =>
    if column = indent && !text.isEmpty then
      let beforeBlank := text.head?.any isBlank
      let line := text.takeWhile fun character => !isBreak character
      let rest := text.dropWhile fun character => !isBreak character
      do
        let (breaks, _, next, after) ← blockBreaks (some indent) 0 0 (rest.drop 1)
        let (following, after) ←
          blockLines isFolded chomping indent bound
            (if rest.isEmpty then column + line.length else next)
            (rest.take 1) breaks beforeBlank after
        return (blockJoint isFolded leading trailing afterBlank beforeBlank ++ line ++ following,
          after)
    else
      .ok ((if chomping = .strip then [] else leading) ++
        (if chomping = .keep then trailing else []), text)

def readBlock (isFolded : Bool) (parent : Int) (text : List Char) :
    Except ReadError (List Char × List Char) := do
  let (chomping, increment, rest) ← readBlockHeader text
  let rest := rest.dropWhile isBlank
  let rest :=
    if rest.head? = some '#' then rest.dropWhile fun character => !isBreak character else rest
  match rest with
  | character :: _ => if !isBreak character then throw .malformedBlockHeader
  | [] => pure ()
  let known := increment.map fun columns => (if parent < 0 then 0 else parent.toNat) + columns
  let (breaks, greatest, column, lines) ← blockBreaks known 0 0 (rest.drop 1)
  let indent := known.getD (max greatest (max (parent + 1).toNat 1))
  blockLines isFolded chomping indent (lines.length + 1) column [] breaks false lines

end VirtualLab.Yaml.Token
