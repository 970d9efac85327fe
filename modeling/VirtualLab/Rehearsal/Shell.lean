import VirtualLab.Bytes
import VirtualLab.Text.Split

/-!
# A small shell

Command lines of simple commands: quoted words, parameters, commands one after another or depending
on how the last one ended, and output sent elsewhere. The commands print, do nothing, or end the
shell.
-/

namespace VirtualLab.Rehearsal.Shell

inductive Channel where
  | output
  | error
  | nowhere
  deriving DecidableEq, Repr

inductive Condition where
  | always
  | afterSuccess
  | afterFailure
  deriving DecidableEq, Repr

inductive Piece where
  | text (content : List Char)
  | parameter (name : List Char) (quoted : Bool)
  deriving DecidableEq, Repr

inductive Token where
  | word (pieces : List Piece)
  | separator (condition : Condition)
  | redirection (source target : Channel)
  deriving DecidableEq, Repr

inductive Quoting where
  | none
  | single
  | double
  deriving DecidableEq, Repr

def finished : Option (List Piece) → List Token
  | some word => [.word word.reverse]
  | none => []

def extended (word : Option (List Piece)) (piece : Piece) : Option (List Piece) :=
  some (piece :: word.getD [])

def isNameCharacter (character : Char) : Bool := character.isAlphanum || character == '_'

def parameterName : List Char → Option (List Char × Nat)
  | '\x7b' :: rest =>
    let name := rest.takeWhile (· != '\x7d')
    some (name, name.length + 2)
  | character :: rest =>
    if character.isDigit || "?#@*$".toList.contains character then some ([character], 1)
    else if isNameCharacter character then
      let name := character :: rest.takeWhile isNameCharacter
      some (name, name.length)
    else none
  | [] => none

/-- Reads a command line. The word read so far is kept with its last piece first. The number bounds
the characters. -/
def readTokens : (bound : Nat) → Quoting → Option (List Piece) → List Char → List Token
  | 0, _, word, _ | _, _, word, [] => finished word
  | bound + 1, .single, word, character :: rest =>
    if character = '\'' then readTokens bound .none word rest
    else readTokens bound .single (extended word (.text [character])) rest
  | bound + 1, quoting, word, '$' :: rest =>
    match parameterName rest with
    | some (name, length) =>
      readTokens bound quoting (extended word (.parameter name (quoting == .double)))
        (rest.drop length)
    | none => readTokens bound quoting (extended word (.text ['$'])) rest
  | bound + 1, .double, word, '\\' :: character :: rest =>
    let meant := if "\\\"$`".toList.contains character then [character] else ['\\', character]
    readTokens bound .double (extended word (.text meant)) rest
  | bound + 1, .double, word, character :: rest =>
    if character = '"' then readTokens bound .none word rest
    else readTokens bound .double (extended word (.text [character])) rest
  | bound + 1, .none, word, '\'' :: rest =>
    readTokens bound .single (extended word (.text [])) rest
  | bound + 1, .none, word, '"' :: rest =>
    readTokens bound .double (extended word (.text [])) rest
  | bound + 1, .none, word, '\\' :: character :: rest =>
    readTokens bound .none (extended word (.text [character])) rest
  | bound + 1, .none, word, '&' :: '&' :: rest =>
    finished word ++ .separator .afterSuccess :: readTokens bound .none none rest
  | bound + 1, .none, word, '|' :: '|' :: rest =>
    finished word ++ .separator .afterFailure :: readTokens bound .none none rest
  | bound + 1, .none, some [.text ['2']], '>' :: '&' :: '1' :: rest =>
    .redirection .error .output :: readTokens bound .none none rest
  | bound + 1, .none, some [.text ['1']], '>' :: '&' :: '2' :: rest =>
    .redirection .output .error :: readTokens bound .none none rest
  | bound + 1, .none, word, '>' :: '&' :: '2' :: rest =>
    finished word ++ .redirection .output .error :: readTokens bound .none none rest
  | bound + 1, .none, some [.text ['2']], '>' :: rest =>
    .redirection .error .nowhere :: readTokens bound .none none rest
  | bound + 1, .none, word, '>' :: rest =>
    finished word ++ .redirection .output .nowhere :: readTokens bound .none none rest
  | bound + 1, .none, word, character :: rest =>
    if character = ';' || character = '\n' then
      finished word ++ .separator .always :: readTokens bound .none none rest
    else if character = ' ' || character = '\t' then
      finished word ++ readTokens bound .none none rest
    else readTokens bound .none (extended word (.text [character])) rest

structure Outlets where
  output : Channel := .output
  error : Channel := .error
  deriving DecidableEq, Repr, Inhabited

namespace Outlets

def get (outlets : Outlets) : Channel → Channel
  | .output => outlets.output
  | .error => outlets.error
  | .nowhere => .nowhere

def redirect (outlets : Outlets) (source target : Channel) : Outlets :=
  match source with
  | .output => { outlets with output := outlets.get target }
  | .error => { outlets with error := outlets.get target }
  | .nowhere => outlets

end Outlets

structure SimpleCommand where
  condition : Condition
  words : List (List Piece) := []
  outlets : Outlets := {}
  deriving DecidableEq, Repr

def readCommands (current : SimpleCommand) : List Token → List SimpleCommand
  | [] => [current]
  | .redirection source .nowhere :: .word _ :: rest =>
    readCommands { current with outlets := current.outlets.redirect source .nowhere } rest
  | .redirection source target :: rest =>
    readCommands { current with outlets := current.outlets.redirect source target } rest
  | .word pieces :: rest => readCommands { current with words := current.words ++ [pieces] } rest
  | .separator condition :: rest => current :: readCommands { condition } rest

structure State where
  output : Bytes := []
  error : Bytes := []
  code : Int := 0
  ended : Bool := false
  deriving DecidableEq, Repr, Inhabited

/-! ## Parameters -/

structure Arguments where
  name : String := "sh"
  rest : List String := []
  deriving DecidableEq, Repr, Inhabited

def valueOf (arguments : Arguments) (code : Int) (name : List Char) : String :=
  if name = ['?'] then toString code
  else if name = ['#'] then toString arguments.rest.length
  else if name = ['@'] || name = ['*'] then Text.joined " " arguments.rest
  else
    match Text.readNatural 10 name with
    | some position => ((arguments.name :: arguments.rest)[position]?).getD ""
    | none => ""

/-- The words that a piece stands for. Only what is quoted keeps its blanks. -/
def wordsOf (arguments : Arguments) (code : Int) : Piece → List (List Char)
  | .text content => [content]
  | .parameter name quoted =>
    if !quoted then Text.words (valueOf arguments code name).toList
    else if name = ['@'] then arguments.rest.map (·.toList)
    else [(valueOf arguments code name).toList]

def joinWords : List (List Char) → List (List Char) → List (List Char)
  | [], others => others
  | words, [] => words
  | [last], first :: others => (last ++ first) :: others
  | word :: words, others => word :: joinWords words others

def expanded (arguments : Arguments) (code : Int) (pieces : List Piece) : List String :=
  (pieces.foldl (fun words piece => joinWords words (wordsOf arguments code piece)) []).map
    String.ofList

/-! ## Commands -/

def State.emit (state : State) (channel : Channel) (content : Bytes) : State :=
  match channel with
  | .output => { state with output := state.output ++ content }
  | .error => { state with error := state.error ++ content }
  | .nowhere => state

def readOctal : (digits value : Nat) → List Char → Nat × List Char
  | digits + 1, value, character :: rest =>
    if '0' ≤ character && character ≤ '7' then
      readOctal digits (value * 8 + (character.toNat - '0'.toNat)) rest
    else (value, character :: rest)
  | _, value, rest => (value, rest)

def escapes : List (Char × Char) := [
  ('n', '\n'), ('t', '\t'), ('r', '\r'), ('a', '\x07'), ('b', '\x08'), ('f', '\x0c'), ('v', '\x0b'),
  ('\\', '\\')]

/-- What stands after a backslash, and the rest: a letter for a character, or the digits of a byte.
Anything else leaves the backslash as it is. -/
def escaped (text : List Char) : Bytes × List Char :=
  match text with
  | [] => (Bytes.ofText "\\", [])
  | character :: rest =>
    match escapes.lookup character with
    | some meant => (Bytes.ofText meant.toString, rest)
    | none =>
      if '0' ≤ character && character ≤ '7' then
        let (value, rest) := readOctal 3 0 text
        ([UInt8.ofNat value], rest)
      else (Bytes.ofText "\\", text)

/-- Prints by a format, in which `%s` stands for the next argument. The arguments that are left over
come second. The number bounds the characters of the format. -/
def formatted : (bound : Nat) → (format : List Char) → (arguments : List String) →
    Bytes × List String
  | 0, _, arguments | _, [], arguments => ([], arguments)
  | bound + 1, '\\' :: rest, arguments =>
    let (meant, rest) := escaped rest
    let (following, left) := formatted bound rest arguments
    (meant ++ following, left)
  | bound + 1, '%' :: '%' :: rest, arguments =>
    let (following, left) := formatted bound rest arguments
    (Bytes.ofText "%" ++ following, left)
  | bound + 1, '%' :: 's' :: rest, arguments =>
    let (following, left) := formatted bound rest arguments.tail
    (Bytes.ofText (arguments.headD "") ++ following, left)
  | bound + 1, character :: rest, arguments =>
    let (following, left) := formatted bound rest arguments
    (Bytes.ofText character.toString ++ following, left)

def formattedAgain (format : List Char) : (bound : Nat) → (arguments : List String) → Bytes
  | 0, _ => []
  | bound + 1, arguments =>
    let (printed, left) := formatted format.length format arguments
    if left.isEmpty || left.length = arguments.length then printed
    else printed ++ formattedAgain format bound left

def printed (format : String) (arguments : List String) : Bytes :=
  formattedAgain format.toList (arguments.length + 1) arguments

def spaced : List String → String
  | "-n" :: words => Text.joined " " words
  | words => Text.joined " " words ++ "\n"

/-- Replaces escapes. A zero may stand before the digits of a byte; a `c` ends the text. The number
bounds the characters. -/
def withEscapes : (bound : Nat) → List Char → Bytes
  | 0, _ | _, [] => []
  | _, '\\' :: 'c' :: _ => []
  | bound + 1, '\\' :: rest =>
    let digits := match rest with
      | '0' :: next :: _ => if '0' ≤ next && next ≤ '7' then rest.tail else rest
      | _ => rest
    (escaped digits).1 ++ withEscapes bound (escaped digits).2
  | bound + 1, character :: rest => Bytes.ofText character.toString ++ withEscapes bound rest

def echoed (words : List String) : Bytes :=
  withEscapes (spaced words).length (spaced words).toList

def State.runWords (state : State) (outlets : Outlets) : List String → State
  | [] => state
  | "echo" :: words => { state.emit outlets.output (echoed words) with code := 0 }
  | "printf" :: format :: arguments =>
    { state.emit outlets.output (printed format arguments) with code := 0 }
  | ["exit"] => { state with ended := true }
  | "exit" :: text :: _ =>
    match Text.readNatural 10 text.toList with
    | some code => { state with code := (code % 256 : Nat), ended := true }
    | none =>
      { state.emit outlets.error
          (Bytes.ofText ("sh: 1: exit: Illegal number: " ++ text ++ "\n")) with
        code := 2, ended := true }
  | "kill" :: _ => { state with code := -1, ended := true }
  | "true" :: _ | ":" :: _ | "sleep" :: _ => { state with code := 0 }
  | "false" :: _ => { state with code := 1 }
  | command :: _ =>
    { state.emit outlets.error (Bytes.ofText ("sh: 1: " ++ command ++ ": not found\n")) with
      code := 127 }

def State.runAll (arguments : Arguments) (state : State) : List SimpleCommand → State
  | [] => state
  | command :: rest =>
    if state.ended then state
    else
      let isMeant :=
        match command.condition with
        | .always => true
        | .afterSuccess => state.code == 0
        | .afterFailure => state.code != 0
      let words := command.words.flatMap (expanded arguments state.code)
      if isMeant then (state.runWords command.outlets words).runAll arguments rest
      else state.runAll arguments rest

def run (text : String) (arguments : List String) : State :=
  State.runAll { name := arguments.headD "sh", rest := arguments.tail } {}
    (readCommands { condition := .always }
      (readTokens (text.length + 1) .none none text.toList))

end VirtualLab.Rehearsal.Shell
