import VirtualLab.Bytes
import VirtualLab.Yaml.Token.Scalar

/-!
# Cutting a document into tokens

A colon may turn what came before it into a key, and a token further in than the block around it
opens a block of its own. The lexer therefore remembers where a key may have begun, and the columns
of the open blocks.
-/

namespace VirtualLab.Yaml

open Style (isBreak isSpaceOrEnd)
open Token (isBlank)

/-- A place that a later colon would make the beginning of a key. -/
structure PossibleKey where
  position : Nat
  place : Cursor
  /-- Nothing but a key can stand at this place. -/
  required : Bool
  deriving Inhabited

structure Lexer where
  cursor : Cursor
  tokens : Array Token := #[]
  indent : Int := -1
  indents : List Int := []
  keyAllowed : Bool := true
  blockKey : Option PossibleKey := none
  flowKeys : List (Option PossibleKey) := []

namespace Lexer

def inFlow (lexer : Lexer) : Bool := !lexer.flowKeys.isEmpty

def key (lexer : Lexer) : Option PossibleKey :=
  match lexer.flowKeys with
  | [] => lexer.blockKey
  | key :: _ => key

def setKey (lexer : Lexer) (key : Option PossibleKey) : Lexer :=
  match lexer.flowKeys with
  | [] => { lexer with blockKey := key }
  | _ :: outer => { lexer with flowKeys := key :: outer }

def push (lexer : Lexer) (token : Token) : Lexer :=
  { lexer with tokens := lexer.tokens.push token }

def insert (lexer : Lexer) (position : Nat) (token : Token) : Lexer :=
  { lexer with tokens := lexer.tokens.insertIdxIfInBounds position token }

/-- A key stands on one line and within 1024 characters. -/
def isAlive (lexer : Lexer) (key : PossibleKey) : Bool :=
  key.place.line = lexer.cursor.line && lexer.cursor.index ≤ key.place.index + 1024

/-- Forgets keys that can no longer become keys. A required one is an error. -/
def dropStaleKeys (lexer : Lexer) : Except ReadError Lexer :=
  match lexer.blockKey with
  | some key =>
    if lexer.isAlive key then .ok lexer
    else if key.required then .error .colonExpected
    else .ok { lexer with blockKey := none }
  | none => .ok lexer

def removeKey (lexer : Lexer) : Except ReadError Lexer :=
  if lexer.key.any (·.required) then .error .colonExpected else .ok (lexer.setKey none)

def saveKey (lexer : Lexer) : Except ReadError Lexer :=
  if lexer.keyAllowed then do
    let required := !lexer.inFlow && lexer.indent == lexer.cursor.column
    let cleared ← lexer.removeKey
    return cleared.setKey (some ⟨lexer.tokens.size, lexer.cursor, required⟩)
  else .ok lexer

def openBlock (lexer : Lexer) (column position : Nat) (mark : Token) : Lexer :=
  if !lexer.inFlow && lexer.indent < column then
    { lexer.insert position mark with
      indent := column, indents := lexer.indent :: lexer.indents }
  else lexer

def closeBlocks (lexer : Lexer) (column : Int) : Lexer :=
  if lexer.inFlow then lexer
  else
    let closed := lexer.indent :: lexer.indents
    let remaining := closed.dropWhile (column < ·)
    { lexer with
      tokens := lexer.tokens ++ Array.replicate (closed.length - remaining.length) Token.blockEnd
      indent := remaining.headD (-1)
      indents := remaining.tail }

def advance (lexer : Lexer) (count : Nat) : Lexer :=
  { lexer with cursor := lexer.cursor.skip count }

def proceed (lexer : Lexer) (rest : List Char) (keyAllowed : Bool) : Lexer :=
  { lexer with cursor := lexer.cursor.moveTo rest, keyAllowed }

/-- Goes past blanks, comments and line breaks. A tab counts as a blank only where it cannot be
taken for indentation. The number bounds the lines. -/
def skipGap : (bound : Nat) → Lexer → Lexer
  | 0, lexer => lexer
  | bound + 1, lexer =>
    let tabAllowed := lexer.inFlow || !lexer.keyAllowed
    let isSkipped := fun character => character == ' ' || (tabAllowed && character == '\t')
    let rest := lexer.cursor.rest.dropWhile isSkipped
    let rest :=
      if rest.head? = some '#' then rest.dropWhile fun character => !isBreak character else rest
    let moved := { lexer with cursor := lexer.cursor.moveTo rest }
    if rest.head?.any isBreak then
      skipGap bound { moved.advance 1 with keyAllowed := moved.keyAllowed || !moved.inFlow }
    else moved

/-! ## Directives, names and tags -/

def isNameCharacter (character : Char) : Bool :=
  character.isAlphanum || character == '-' || character == '_'

def isTagCharacter (verbatim : Bool) (character : Char) : Bool :=
  isNameCharacter character || ";/?:@&=+$.!~*'()".toList.contains character ||
    (verbatim && (character == ',' || character == '[' || character == ']'))

def tagEscapes : (bound : Nat) → List Char → Except ReadError (Bytes × List Char)
  | bound + 1, '%' :: high :: low :: rest =>
    match Text.readNatural 16 [high, low] with
    | some code => do
      let (bytes, after) ← tagEscapes bound rest
      return (UInt8.ofNat code :: bytes, after)
    | none => .error .malformedTag
  | _, '%' :: _ => .error .malformedTag
  | _, text => .ok ([], text)

def tagText (verbatim : Bool) : (bound : Nat) → List Char → Except ReadError (List Char × List Char)
  | 0, text => .ok ([], text)
  | bound + 1, text =>
    match text with
    | '%' :: _ => do
      let (bytes, after) ← tagEscapes text.length text
      match Bytes.toText? bytes with
      | some escaped =>
        let (following, rest) ← tagText verbatim bound after
        return (escaped.toList ++ following, rest)
      | none => throw .malformedTag
    | character :: rest =>
      if isTagCharacter verbatim character then do
        let (following, after) ← tagText verbatim bound rest
        return (character :: following, after)
      else .ok ([], text)
    | [] => .ok ([], [])

def tagHandle (text : List Char) : Except ReadError (List Char × List Char) :=
  match text with
  | '!' :: rest =>
    let name := rest.takeWhile isNameCharacter
    let after := rest.dropWhile isNameCharacter
    match after with
    | '!' :: others => .ok ('!' :: name ++ ['!'], others)
    | _ => .ok ('!' :: name, after)
  | _ => .error .malformedTag

def readTag (inFlow : Bool) (text : List Char) : Except ReadError (Token × List Char) := do
  let (handle, suffix, rest) ←
    match text with
    | '!' :: '<' :: verbatim => do
      let (suffix, rest) ← tagText true verbatim.length verbatim
      match rest with
      | '>' :: others =>
        if suffix.isEmpty then throw .malformedTag
        pure ([], suffix, others)
      | _ => throw .malformedTag
    | _ => do
      let (handle, rest) ← tagHandle text
      if 1 < handle.length && handle.getLast? = some '!' then
        let (suffix, rest) ← tagText false rest.length rest
        if suffix.isEmpty then throw .malformedTag
        pure (handle, suffix, rest)
      else
        let (more, rest) ← tagText false rest.length rest
        let suffix := handle.tail ++ more
        if suffix.isEmpty then pure ([], ['!'], rest) else pure (['!'], suffix, rest)
  if isSpaceOrEnd rest.head? || (inFlow && rest.head? = some ',') then
    return (.tag (String.ofList handle) (String.ofList suffix), rest)
  throw .malformedTag

def readVersionPart (digits : List Char) : Option Nat :=
  if digits.length ≤ 9 then Text.readNatural 10 digits else none

def readVersion (text : List Char) : Except ReadError (Token × List Char) :=
  let major := text.takeWhile Char.isDigit
  match text.dropWhile Char.isDigit with
  | '.' :: rest =>
    let minor := rest.takeWhile Char.isDigit
    match readVersionPart major, readVersionPart minor with
    | some major, some minor =>
      .ok (.versionDirective major minor, rest.dropWhile Char.isDigit)
    | _, _ => .error .malformedDirective
  | _ => .error .malformedDirective

def readTagDirective (text : List Char) : Except ReadError (Token × List Char) := do
  let (handle, rest) ← tagHandle text
  if handle != ['!'] && handle.getLast? != some '!' then throw .malformedTag
  if !rest.head?.any isBlank then throw .malformedDirective
  let replacement := rest.dropWhile isBlank
  let (replacement, rest) ← tagText true replacement.length replacement
  if replacement.isEmpty then throw .malformedTag
  if !isSpaceOrEnd rest.head? then throw .malformedDirective
  return (.tagDirective (String.ofList handle) (String.ofList replacement), rest)

def readDirective (text : List Char) : Except ReadError (Token × List Char) := do
  let name := text.takeWhile isNameCharacter
  let rest := text.dropWhile isNameCharacter
  if name.isEmpty || !isSpaceOrEnd rest.head? then throw .malformedDirective
  let value := rest.dropWhile isBlank
  let (token, rest) ←
    if name = "YAML".toList then readVersion value
    else if name = "TAG".toList then readTagDirective value
    else throw .unknownDirective
  let rest := rest.dropWhile isBlank
  let rest :=
    if rest.head? = some '#' then rest.dropWhile fun character => !isBreak character else rest
  match rest with
  | [] => return (token, [])
  | character :: others =>
    if isBreak character then return (token, others) else throw .malformedDirective

def readName (text : List Char) : Except ReadError (String × List Char) :=
  let name := text.takeWhile isNameCharacter
  let rest := text.dropWhile isNameCharacter
  let ends := isSpaceOrEnd rest.head? || rest.head?.any fun character =>
    "?:,]\x7d%@`".toList.contains character
  if name.isEmpty || !ends then .error .emptyName else .ok (String.ofList name, rest)

/-! ## One token -/

def openFlow (lexer : Lexer) (mark : Token) : Except ReadError Lexer := do
  let lexer ← lexer.saveKey
  return { (lexer.push mark).advance 1 with
    flowKeys := none :: lexer.flowKeys, keyAllowed := true }

def closeFlow (lexer : Lexer) (mark : Token) : Except ReadError Lexer := do
  let lexer ← lexer.removeKey
  return { (lexer.push mark).advance 1 with
    flowKeys := lexer.flowKeys.tail, keyAllowed := false }

def flowEntry (lexer : Lexer) : Except ReadError Lexer := do
  let lexer ← lexer.removeKey
  return { (lexer.push .flowEntry).advance 1 with keyAllowed := true }

def blockEntry (lexer : Lexer) : Except ReadError Lexer := do
  if !lexer.inFlow && !lexer.keyAllowed then throw .sequenceEntryNotAllowed
  let opened := lexer.openBlock lexer.cursor.column lexer.tokens.size .blockSequenceStart
  let opened ← opened.removeKey
  return { (opened.push .blockEntry).advance 1 with keyAllowed := true }

def explicitKey (lexer : Lexer) : Except ReadError Lexer := do
  if !lexer.inFlow && !lexer.keyAllowed then throw .keyNotAllowed
  let opened := lexer.openBlock lexer.cursor.column lexer.tokens.size .blockMappingStart
  let opened ← opened.removeKey
  return { (opened.push .key).advance 1 with keyAllowed := !opened.inFlow }

/-- Reads the colon of a value. If a key may have begun on its line, one did. -/
def value (lexer : Lexer) : Except ReadError Lexer := do
  match lexer.key.filter lexer.isAlive with
  | some key =>
    let keyed := (lexer.insert key.position .key).openBlock key.place.column key.position
      .blockMappingStart
    return { ((keyed.setKey none).push .value).advance 1 with keyAllowed := false }
  | none =>
    if !lexer.inFlow && !lexer.keyAllowed then throw .valueNotAllowed
    let opened := lexer.openBlock lexer.cursor.column lexer.tokens.size .blockMappingStart
    return { (opened.push .value).advance 1 with keyAllowed := !opened.inFlow }

def betweenDocuments (lexer : Lexer) (token : Token) (rest : List Char) :
    Except ReadError Lexer := do
  let closed ← (lexer.closeBlocks (-1)).removeKey
  return (closed.push token).proceed rest false

def keyPart (lexer : Lexer) (token : Token) (rest : List Char) (keyAllowed : Bool) :
    Except ReadError Lexer := do
  let saved ← lexer.saveKey
  return (saved.push token).proceed rest keyAllowed

def plainStoppers : List Char := "-?:,[]\x7b\x7d#&*!|>'\"%@`".toList

def startsPlain (inFlow : Bool) (character : Char) (next : Option Char) : Bool :=
  (!isSpaceOrEnd (some character) && !plainStoppers.contains character) ||
    (character == '-' && !next.any isBlank) ||
    (!inFlow && (character == '?' || character == ':') && !isSpaceOrEnd next)

def readToken (lexer : Lexer) (character : Char) (rest : List Char) : Except ReadError Lexer := do
  let text := character :: rest
  let next := rest.head?
  let atStart := lexer.cursor.column = 0
  if atStart && character == '%' then
    let (token, after) ← readDirective rest
    lexer.betweenDocuments token after
  else if atStart && Token.startsWithDocumentMark text then
    lexer.betweenDocuments (if character == '-' then .documentStart else .documentEnd)
      (text.drop 3)
  else if character == '[' then lexer.openFlow .flowSequenceStart
  else if character == '\x7b' then lexer.openFlow .flowMappingStart
  else if character == ']' then lexer.closeFlow .flowSequenceEnd
  else if character == '\x7d' then lexer.closeFlow .flowMappingEnd
  else if character == ',' then lexer.flowEntry
  else if character == '-' && isSpaceOrEnd next then lexer.blockEntry
  else if character == '?' && (lexer.inFlow || isSpaceOrEnd next) then lexer.explicitKey
  else if character == ':' && (lexer.inFlow || isSpaceOrEnd next) then lexer.value
  else if character == '*' then
    let (name, after) ← readName rest
    lexer.keyPart (.reference name) after false
  else if character == '&' then
    let (name, after) ← readName rest
    lexer.keyPart (.anchor name) after false
  else if character == '!' then
    let (token, after) ← readTag lexer.inFlow text
    lexer.keyPart token after false
  else if (character == '|' || character == '>') && !lexer.inFlow then
    let lexer ← lexer.removeKey
    let isFolded := character == '>'
    let (content, after) ← Token.readBlock isFolded lexer.indent rest
    let form := if isFolded then ScalarForm.folded else .literal
    return (lexer.push (.scalar (String.ofList content) form)).proceed after true
  else if character == '\'' || character == '"' then
    let (content, after) ← Token.quotedRuns (character == '"') (rest.length + 1) false rest
    lexer.keyPart (.scalar (String.ofList content) .quoted) after false
  else if startsPlain lexer.inFlow character next then
    let reading ← Token.plainRuns lexer.inFlow (lexer.indent + 1).toNat text.length
      lexer.cursor.column [] text
    lexer.keyPart (.scalar (String.ofList reading.content) .plain) reading.rest reading.brokenOff
  else throw .noToken

def finish (lexer : Lexer) : Except ReadError Lexer := do
  let closed ← (lexer.closeBlocks (-1)).removeKey
  return closed.push .streamEnd

def readTokens : (bound : Nat) → Lexer → Except ReadError Lexer
  | 0, lexer => lexer.finish
  | bound + 1, lexer => do
    let lexer ← (skipGap (lexer.cursor.rest.length + 1) lexer).dropStaleKeys
    match lexer.cursor.rest with
    | [] => lexer.finish
    | character :: rest =>
      let closed := lexer.closeBlocks lexer.cursor.column
      let read ← closed.readToken character rest
      readTokens bound (← read.dropStaleKeys)

def isAllowed (character : Char) : Bool :=
  let code := character.toNat
  code == 0x09 || code == 0x0A || code == 0x0D || (0x20 ≤ code && code ≤ 0x7E) || code == 0x85 ||
    (0xA0 ≤ code && code < 0xD800) || (0xE000 ≤ code && code ≤ 0xFFFD) || 0x10000 ≤ code

def normalized : List Char → List Char
  | '\r' :: '\n' :: rest => '\n' :: normalized rest
  | character :: rest =>
    (if character == '\r' || character == '\x85' then '\n' else character) :: normalized rest
  | [] => []

def byteOrderMark : Char := '\ufeff'

def withoutByteOrderMark (text : List Char) : List Char :=
  if text.head? = some byteOrderMark then text.tail else text

/-- The place where a text begins to have a meaning. Another mark of the byte order counts for
nothing but takes a column. -/
def start (text : List Char) : Cursor :=
  let cursor : Cursor := { rest := normalized text }
  if text.head? = some byteOrderMark then cursor.next else cursor

end Lexer

def Token.ofText (text : String) : Except ReadError (List Token) := do
  let characters := Lexer.withoutByteOrderMark text.toList
  if characters.all Lexer.isAllowed then
    let lexer ← Lexer.readTokens (characters.length + 1) { cursor := Lexer.start characters }
    return lexer.tokens.toList
  else throw .controlCharacter

end VirtualLab.Yaml
