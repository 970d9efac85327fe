import Mathlib.Logic.Function.Basic
import VirtualLab.Proofs.Places
import VirtualLab.Proofs.ShellWords

/-!
# Runs of shell commands

What a guest's shell does with a line of programs joined by `||`, of which each may append its
output to a file. The programs are given from outside; what POSIX says of `grep` and `echo` is a
property that they may have.
-/

namespace VirtualLab.GuestShell

/-! ## Commands of a line -/

structure SimpleCommand where
  words : List (List Char) := []
  target : Option (List Char) := none
  deriving DecidableEq, Repr

def reservedWords : List String := [
  "!", "\x7b", "\x7d", "case", "do", "done", "elif", "else", "esac", "fi", "for", "if", "in",
  "then", "until", "while"]

def SimpleCommand.callsProgram (command : SimpleCommand) : Bool :=
  match command.words with
  | [] => false
  | program :: _ => String.ofList program ∉ reservedWords ∧ '=' ∉ program

/-- The first of the commands between `||`, with the others, where there is nothing else than these,
literal words and at most one `>>` each. -/
def alternatives : List Token → Option (SimpleCommand × List SimpleCommand)
  | [] => some ({}, [])
  | .word text true :: rest =>
    (alternatives rest).map fun (first, others) =>
      ({ first with words := text :: first.words }, others)
  | .operator ['|', '|'] :: rest =>
    (alternatives rest).map fun (first, others) => ({}, first :: others)
  | .operator ['>', '>'] :: .word path true :: rest =>
    (alternatives rest).bind fun (first, others) =>
      if first.target.isNone then some ({ first with target := some path }, others) else none
  | _ => none

def simpleCommands (line : List Token) : Option (List SimpleCommand) :=
  (alternatives line).bind fun (first, others) =>
    if (first :: others).all (·.callsProgram) then some (first :: others) else none

/-! ## Running them

Programs answer by their words and by the files, and change no file themselves.
-/

abbrev Files := List Char → Option (List Char)

abbrev Programs := List (List Char) → Files → Bool × List Char

/-- A target that is not there is made before the program is called. -/
def SimpleCommand.run (programs : Programs) (command : SimpleCommand) (files : Files) :
    Bool × Files :=
  match command.target with
  | none => ((programs command.words files).1, files)
  | some path =>
    let contents := (files path).getD []
    let (succeeds, output) := programs command.words (Function.update files path (some contents))
    (succeeds, Function.update files path (some (contents ++ output)))

def runAlternatives (programs : Programs) : List SimpleCommand → Files → Files
  | [], files => files
  | command :: others, files =>
    let (succeeds, after) := command.run programs files
    if succeeds then after else runAlternatives programs others after

def run (programs : Programs) (files : Files) (line : String) : Option Files :=
  ((tokens line).bind simpleCommands).map (runAlternatives programs · files)

def runAll (programs : Programs) (lines : List String) (files : Files) : Option Files :=
  lines.foldlM (run programs) files

/-! ## Text files -/

def TextLine (line : List Char) : Prop := '\n' ∉ line ∧ '\x00' ∉ line

instance (line : List Char) : Decidable (TextLine line) := inferInstanceAs (Decidable (_ ∧ _))

def complete (lines : List (List Char)) : List Char := lines.flatMap (· ++ ['\n'])

/-- The lines of a file. What stands after the last line end is a line too, unless it is empty. -/
def textLines (contents : List Char) : List (List Char) :=
  let pieces := Text.pieces (· == '\n') contents
  if pieces.getLast? = some [] then pieces.dropLast else pieces

theorem textLines_complete {lines : List (List Char)} (text : ∀ line ∈ lines, TextLine line) :
    textLines (complete lines) = lines := by
  have pieces : Text.pieces (· == '\n') (complete lines) = lines ++ [[]] := by
    induction lines with
    | nil => rfl
    | cons line lines induction =>
      obtain ⟨first, others⟩ := List.forall_mem_cons.mp text
      have split : complete (line :: lines) = line ++ '\n' :: complete lines := by
        simp [complete]
      rw [split, Text.pieces_append_separator (by rfl), induction others,
        Text.pieces_of_plain (Text.no_separator_of_notMem first.1)]
      rfl
  simp [textLines, pieces]

/-! ## Two programs -/

/-- What POSIX says of `grep -qxF` with one pattern and one text file, and of `echo` with one
operand. An operand that begins with a dash, or has a backslash in it, may mean something else. -/
structure Documented (programs : Programs) : Prop where
  grep : ∀ (pattern path : List Char) (lines : List (List Char)) (files : Files),
    TextLine pattern → pattern.head? ≠ some '-' → path.head? ≠ some '-' →
      (∀ line ∈ lines, TextLine line) → files path = some (complete lines) →
        programs ["grep".toList, "-qxF".toList, pattern, path] files =
          (decide (pattern ∈ lines), [])
  echo : ∀ (text : List Char) (files : Files),
    '\x00' ∉ text → text.head? ≠ some '-' → '\\' ∉ text →
      programs ["echo".toList, text] files = (true, text ++ ['\n'])

def grepAndEcho : Programs
  | [program, flags, pattern, path], files =>
    if program = "grep".toList ∧ flags = "-qxF".toList then
      (((files path).map textLines).any (·.contains pattern), [])
    else (false, [])
  | [program, text], _ =>
    if program = "echo".toList then (true, text ++ ['\n']) else (false, [])
  | _, _ => (false, [])

theorem documented_grepAndEcho : Documented grepAndEcho where
  grep pattern path lines files _ _ _ text shown := by
    simp [grepAndEcho, shown, textLines_complete text]
  echo text files _ _ _ := by
    simp [grepAndEcho]

end VirtualLab.GuestShell
