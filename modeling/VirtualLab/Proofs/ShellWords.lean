import Mathlib.Data.List.Basic

/-!
# Words of a shell command

How a POSIX shell cuts a command line into words and operators, by its rules for quoting and token
recognition. A word comes without its quotes, and it is noted whether anything is left in it that
the shell would expand; what stands in a substitution is read like any other text. Text between
single quotes stands for itself, up to the next single quote.
-/

namespace VirtualLab.GuestShell

/-! ## Reading a command line

A line is read character by character. The reader holds the finished tokens, the one that is begun,
and what the next character is part of.
-/

inductive Token where
  | word (text : List Char) (literal : Bool)
  | operator (text : List Char)
  deriving DecidableEq, Repr

inductive Mode where
  | between
  | operator
  | word
  | single
  | double
  | comment
  deriving DecidableEq, Repr

structure Reader where
  tokens : List Token := []
  current : List Char := []
  literal : Bool := true
  mode : Mode := .between
  escaped : Bool := false
  deriving DecidableEq, Repr

def operators : List (List Char) := [
  ['|'], ['|', '|'], ['&'], ['&', '&'], [';'], [';', ';'], ['('], [')'], ['<'], ['<', '<'],
  ['<', '<', '-'], ['<', '&'], ['<', '>'], ['>'], ['>', '>'], ['>', '&'], ['>', '|']]

/-- The characters after which a shell expands what follows, or which match others, where they are
not quoted. -/
def expandable : List Char := ['$', '\x60', '*', '?', '[', '~']

def expandableQuoted : List Char := ['$', '\x60']

def escapable : List Char := ['$', '\x60', '"', '\\']

namespace Reader

def ended (reader : Reader) : Reader :=
  match reader.mode with
  | .between | .comment => { reader with mode := .between }
  | .operator => { tokens := reader.tokens ++ [.operator reader.current] }
  | .word | .single | .double =>
    { tokens := reader.tokens ++ [.word reader.current reader.literal] }

def taking (reader : Reader) (mode : Mode) (literal : Bool) (character : Char) : Reader :=
  { reader with
    current := reader.current ++ [character], literal := reader.literal && literal, mode }

def inWord (reader : Reader) (character : Char) : Reader :=
  if character = '\'' then { reader with mode := .single }
  else if character = '"' then { reader with mode := .double }
  else reader.taking .word (character ∉ expandable) character

def afresh (reader : Reader) (character : Char) : Reader :=
  if character = ' ' ∨ character = '\t' then reader
  else if character = '\n' then { reader with tokens := reader.tokens ++ [.operator ['\n']] }
  else if character = '#' then { reader with mode := .comment }
  else if [character] ∈ operators then
    { reader with current := [character], mode := .operator }
  else reader.inWord character

/-- Reads the character after a backslash. A line end is removed with the backslash, wherever it
stands. -/
def backslashed (reader : Reader) (character : Char) : Reader :=
  if character = '\n' then reader
  else
    match reader.mode with
    | .double =>
      if character ∈ escapable then reader.taking .double true character
      else (reader.taking .double true '\\').taking .double (character ∉ expandableQuoted) character
    | .operator => reader.ended.taking .word true character
    | _ => reader.taking .word true character

def unescaped (reader : Reader) (character : Char) : Reader :=
  match reader.mode with
  | .single =>
    if character = '\'' then { reader with mode := .word }
    else reader.taking .single true character
  | .double =>
    if character = '"' then { reader with mode := .word }
    else if character = '\\' then { reader with escaped := true }
    else reader.taking .double (character ∉ expandableQuoted) character
  | .comment => if character = '\n' then reader.ended.afresh character else reader
  | .operator =>
    if character = '\\' then { reader with escaped := true }
    else if reader.current ++ [character] ∈ operators then
      { reader with current := reader.current ++ [character] }
    else reader.ended.afresh character
  | .word =>
    if character = '\\' then { reader with escaped := true }
    else if character ∈ [' ', '\t', '\n'] ∨ [character] ∈ operators then
      reader.ended.afresh character
    else reader.inWord character
  | .between =>
    if character = '\\' then { reader with escaped := true } else reader.afresh character

def step (reader : Reader) (character : Char) : Reader :=
  if reader.escaped then { reader with escaped := false }.backslashed character
  else reader.unescaped character

def result (reader : Reader) : Option (List Token) :=
  if reader.escaped ∨ reader.mode = .single ∨ reader.mode = .double then none
  else some reader.ended.tokens

end Reader

def tokens (command : String) : Option (List Token) :=
  (command.toList.foldl Reader.step {}).result

example : tokens "echo 'it'\\''s' \"$HOME\" >>notes # a comment" =
    some [.word "echo".toList true, .word "it's".toList true, .word "$HOME".toList false,
      .operator ">>".toList, .word "notes".toList true] := by
  decide +kernel

/-! ## What a step does -/

def Token.text : Token → List Char
  | .word text _ | .operator text => text

def size : List Token → Nat
  | [] => 0
  | token :: tokens => token.text.length + size tokens

@[simp] theorem size_nil : size [] = 0 := rfl

@[simp] theorem size_cons (token : Token) (tokens : List Token) :
    size (token :: tokens) = token.text.length + size tokens := rfl

@[simp] theorem size_append (tokens others : List Token) :
    size (tokens ++ others) = size tokens + size others := by
  induction tokens with
  | nil => simp
  | cons token tokens induction => simp [induction, Nat.add_assoc]

def Mode.InWord (mode : Mode) : Prop := mode = .word ∨ mode = .single ∨ mode = .double

namespace Reader

variable {reader next : Reader} {text : List Char} {character : Char} {mode : Mode} {literal : Bool}

/-- The characters that are taken so far. A backslash is counted until it is known what it is. -/
def size (reader : Reader) : Nat :=
  GuestShell.size reader.tokens + reader.current.length + reader.escaped.toNat

/-- What one step does: at most one character more is taken, and a word that is begun is continued
or finished as it is. -/
structure Follows (reader next : Reader) : Prop where
  size_le : next.size ≤ reader.size + 1
  tokens : ∃ finished, next.tokens = reader.tokens ++ finished ∧
    (reader.mode.InWord →
      (finished = [] ∧ next.mode.InWord ∧ reader.current <+: next.current) ∨
      ∃ more, finished = .word reader.current reader.literal :: more)

theorem size_ended_le (reader : Reader) : reader.ended.size ≤ reader.size := by
  unfold ended
  split <;> simp [size, Token.text]

theorem size_taking (reader : Reader) (mode : Mode) (literal : Bool) (character : Char) :
    (reader.taking mode literal character).size = reader.size + 1 := by
  simp only [taking, size, List.length_append, List.length_singleton]
  omega

theorem size_inWord_le (reader : Reader) (character : Char) :
    (reader.inWord character).size ≤ reader.size + 1 := by
  unfold inWord
  split_ifs
  · exact Nat.le_succ reader.size
  · exact Nat.le_succ reader.size
  · exact Nat.le_of_eq (size_taking ..)

theorem size_afresh_le (reader : Reader) (character : Char) :
    (reader.afresh character).size ≤ reader.size + 1 := by
  unfold afresh
  split_ifs
  · exact Nat.le_succ reader.size
  · simp [size, Token.text]
    omega
  · exact Nat.le_succ reader.size
  · simp [size]
    omega
  · exact size_inWord_le reader character

theorem follows_of_same (tokens : next.tokens = reader.tokens)
    (current : next.current = reader.current) (inWord : reader.mode.InWord → next.mode.InWord) :
    Follows reader next := by
  refine ⟨?_, [], by simp [tokens], fun begun => .inl ⟨rfl, inWord begun, ?_⟩⟩
  · have := Bool.toNat_le next.escaped
    simp only [size, tokens, current]
    omega
  · exact current ▸ List.prefix_rfl

theorem follows_of_continued (size_le : next.size ≤ reader.size + 1)
    (tokens : next.tokens = reader.tokens) (current : reader.current <+: next.current)
    (inWord : next.mode.InWord) : Follows reader next :=
  ⟨size_le, [], by simp [tokens], fun _ => .inl ⟨rfl, inWord, current⟩⟩

theorem follows_taking (inWord : mode.InWord) :
    Follows reader (reader.taking mode literal character) :=
  follows_of_continued (Nat.le_of_eq (size_taking ..)) rfl (List.prefix_append ..) inWord

theorem follows_of_outside (size_le : next.size ≤ reader.size + 1)
    (tokens : ∃ more, next.tokens = reader.tokens ++ more) (outside : ¬ reader.mode.InWord) :
    Follows reader next :=
  let ⟨more, shown⟩ := tokens
  ⟨size_le, more, shown, fun begun => absurd begun outside⟩

theorem tokens_inWord (reader : Reader) (character : Char) :
    (reader.inWord character).tokens = reader.tokens := by
  unfold inWord
  split_ifs <;> rfl

theorem tokens_afresh (reader : Reader) (character : Char) :
    ∃ more, (reader.afresh character).tokens = reader.tokens ++ more := by
  unfold afresh
  split_ifs
  · exact ⟨[], by simp⟩
  · exact ⟨_, rfl⟩
  · exact ⟨[], by simp⟩
  · exact ⟨[], by simp⟩
  · exact ⟨[], by simp [tokens_inWord]⟩

theorem tokens_ended (reader : Reader) :
    ∃ finished, reader.ended.tokens = reader.tokens ++ finished ∧
      (reader.mode.InWord → finished = [.word reader.current reader.literal]) := by
  unfold ended
  split <;> rename_i shown
  · exact ⟨[], by simp, by simp [Mode.InWord, shown]⟩
  · exact ⟨[], by simp, by simp [Mode.InWord, shown]⟩
  · exact ⟨_, rfl, by simp [Mode.InWord, shown]⟩
  all_goals exact ⟨_, rfl, fun _ => rfl⟩

theorem follows_ended (later : ∃ more, next.tokens = reader.ended.tokens ++ more)
    (size_le : next.size ≤ reader.ended.size + 1) : Follows reader next := by
  obtain ⟨more, shown⟩ := later
  obtain ⟨finished, ends, word⟩ := tokens_ended reader
  refine ⟨Nat.le_trans size_le (Nat.succ_le_succ (size_ended_le reader)), finished ++ more, ?_, ?_⟩
  · rw [shown, ends, List.append_assoc]
  · intro begun
    exact .inr ⟨more, by rw [word begun]; rfl⟩

theorem follows_ended_afresh (reader : Reader) (character : Char) :
    Follows reader (reader.ended.afresh character) :=
  follows_ended (tokens_afresh ..) (size_afresh_le ..)

theorem follows_inWord (reader : Reader) (character : Char) :
    Follows reader (reader.inWord character) := by
  unfold inWord
  split_ifs
  · exact follows_of_same rfl rfl fun _ => .inr (.inl rfl)
  · exact follows_of_same rfl rfl fun _ => .inr (.inr rfl)
  · exact follows_taking (.inl rfl)

theorem follows_unescaped (reader : Reader) (character : Char) :
    Follows reader (reader.unescaped character) := by
  have backslash : Follows reader { reader with escaped := true } := follows_of_same rfl rfl id
  have ended := follows_ended_afresh reader character
  unfold unescaped
  split <;> rename_i shown
  · split_ifs
    · exact follows_of_same rfl rfl fun _ => .inl rfl
    · exact follows_taking (.inr (.inl rfl))
  · split_ifs
    · exact follows_of_same rfl rfl fun _ => .inl rfl
    · exact backslash
    · exact follows_taking (.inr (.inr rfl))
  · split_ifs
    · exact ended
    · exact follows_of_same rfl rfl id
  · split_ifs
    · exact backslash
    · refine follows_of_outside ?_ ⟨[], by simp⟩ (by simp [Mode.InWord, shown])
      simp only [size, List.length_append, List.length_singleton]
      omega
    · exact ended
  · split_ifs
    · exact backslash
    · exact ended
    · exact follows_inWord reader character
  · split_ifs
    · exact backslash
    · exact follows_of_outside (size_afresh_le ..) (tokens_afresh ..) (by simp [Mode.InWord, shown])

theorem follows_backslashed (escaped : reader.escaped = true) (character : Char) :
    Follows reader ({ reader with escaped := false }.backslashed character) := by
  have less : size { reader with escaped := false } + 1 = reader.size := by
    simp [size, escaped]
  have taken (mode : Mode) (inWord : mode.InWord) :
      Follows reader (taking { reader with escaped := false } mode true character) := by
    refine follows_of_continued ?_ rfl (List.prefix_append ..) inWord
    rw [size_taking]
    omega
  unfold backslashed
  split
  · exact follows_of_same rfl rfl id
  · split <;> rename_i shown
    · split
      · exact taken .double (.inr (.inr rfl))
      · refine follows_of_continued ?_ rfl ?_ (.inr (.inr rfl))
        · rw [size_taking, size_taking]
          omega
        · exact (List.prefix_append ..).trans (List.prefix_append ..)
    · refine follows_of_outside ?_ ?_ (by simp [Mode.InWord, show reader.mode = _ from shown])
      · have ended := size_ended_le { reader with escaped := false }
        rw [size_taking]
        omega
      · obtain ⟨finished, ends, _⟩ := tokens_ended { reader with escaped := false }
        exact ⟨finished, ends⟩
    · exact taken .word (.inl rfl)

theorem follows_step (reader : Reader) (character : Char) :
    Follows reader (reader.step character) := by
  unfold step
  split_ifs with escaped
  · exact follows_backslashed escaped character
  · exact follows_unescaped reader character

/-! ## What a run of steps does -/

theorem size_foldl_le (reader : Reader) (text : List Char) :
    (text.foldl step reader).size ≤ reader.size + text.length := by
  induction text generalizing reader with
  | nil => simp
  | cons character text induction =>
    have one := (follows_step reader character).size_le
    have rest := induction (reader.step character)
    simp only [List.foldl_cons, List.length_cons]
    omega

/-- A reader on its way to some tokens: its finished ones come first, and the word that it has
begun is the beginning of the next. -/
structure LeadsTo (reader : Reader) (tokens : List Token) : Prop where
  finished : reader.tokens <+: tokens
  begun : reader.mode.InWord → ∃ text literal,
    tokens[reader.tokens.length]? = some (.word text literal) ∧ reader.current <+: text

theorem LeadsTo.before {tokens : List Token} (leads : LeadsTo next tokens)
    (follows : Follows reader next) : LeadsTo reader tokens := by
  obtain ⟨_, finished, shown, word⟩ := follows
  have first : reader.tokens <+: next.tokens := shown ▸ List.prefix_append ..
  refine ⟨first.trans leads.finished, fun begun => ?_⟩
  rcases word begun with ⟨rfl, inWord, current⟩ | ⟨more, rfl⟩
  · obtain ⟨text, literal, found, starts⟩ := leads.begun inWord
    rw [List.append_nil] at shown
    exact ⟨text, literal, shown ▸ found, current.trans starts⟩
  · obtain ⟨rest, rfl⟩ := leads.finished
    refine ⟨reader.current, reader.literal, ?_, List.prefix_rfl⟩
    simp [shown]

theorem LeadsTo.before_foldl {tokens : List Token}
    (leads : LeadsTo (text.foldl step reader) tokens) : LeadsTo reader tokens := by
  induction text generalizing reader with
  | nil => exact leads
  | cons character text induction => exact (induction leads).before (follows_step reader character)

theorem leadsTo_of_result {tokens : List Token} (result : reader.result = some tokens) :
    LeadsTo reader tokens := by
  unfold Reader.result at result
  split_ifs at result
  obtain rfl := Option.some.inj result
  obtain ⟨finished, ends, word⟩ := tokens_ended reader
  refine ⟨ends ▸ List.prefix_append .., fun begun => ?_⟩
  exact ⟨reader.current, reader.literal, by simp [ends, word begun], List.prefix_rfl⟩

theorem escaped_inWord (reader : Reader) (character : Char) :
    (reader.inWord character).escaped = reader.escaped := by
  unfold inWord
  split_ifs <;> rfl

theorem escaped_afresh (reader : Reader) (character : Char) :
    (reader.afresh character).escaped = reader.escaped := by
  unfold afresh
  split_ifs
  · rfl
  · rfl
  · rfl
  · rfl
  · exact escaped_inWord reader character

theorem escaped_ended (unescaped : reader.escaped = false) : reader.ended.escaped = false := by
  unfold ended
  split
  · exact unescaped
  · exact unescaped
  all_goals rfl

theorem escaped_backslashed (unescaped : reader.escaped = false) (character : Char) :
    (reader.backslashed character).escaped = false := by
  unfold backslashed
  split
  · exact unescaped
  · split
    · split <;> exact unescaped
    · exact escaped_ended unescaped
    · exact unescaped

theorem escaped_unescaped (unescaped : reader.escaped = false) (different : character ≠ '\\') :
    (reader.unescaped character).escaped = false := by
  have ended : (reader.ended.afresh character).escaped = false := by
    rw [escaped_afresh, escaped_ended unescaped]
  unfold Reader.unescaped
  split
  · split <;> exact unescaped
  · split <;> exact unescaped
  · split
    · exact ended
    · exact unescaped
  · rw [if_neg different]
    split
    · exact unescaped
    · exact ended
  · rw [if_neg different]
    split
    · exact ended
    · exact (escaped_inWord ..).trans unescaped
  · rw [if_neg different]
    exact (escaped_afresh ..).trans unescaped

theorem eq_backslash_of_escaped_step (escaped : (reader.step character).escaped = true) :
    character = '\\' := by
  by_contra different
  unfold step at escaped
  split at escaped
  · rw [escaped_backslashed rfl] at escaped
    cases escaped
  · rename_i before
    rw [escaped_unescaped (Bool.eq_false_iff.mpr before) different] at escaped
    cases escaped

theorem getLast?_of_escaped (escaped : (text.foldl step reader).escaped = true)
    (nonempty : text ≠ []) : text.getLast? = some '\\' := by
  rw [← List.dropLast_append_getLast nonempty, List.foldl_append] at escaped
  rw [List.getLast?_eq_getLast_of_ne_nil nonempty, eq_backslash_of_escaped_step escaped]

/-! ## Text without quotes -/

def Bare (character : Char) : Prop :=
  character ∉ ['\'', '"', '\\', '#', ' ', '\t', '\n'] ∧ character ∉ expandable ∧
    [character] ∉ operators

instance (character : Char) : Decidable (Bare character) := inferInstanceAs (Decidable (_ ∧ _))

theorem foldl_step_bare (unescaped : reader.escaped = false) (word : reader.mode = .word)
    (bare : ∀ character ∈ text, Bare character) :
    text.foldl step reader = { reader with current := reader.current ++ text } := by
  induction text generalizing reader with
  | nil => simp
  | cons character text induction =>
    obtain ⟨⟨plain, unexpanded, noOperator⟩, others⟩ := List.forall_mem_cons.mp bare
    simp only [List.mem_cons, List.not_mem_nil, or_false, not_or] at plain
    have taken : reader.step character =
        { reader with current := reader.current ++ [character] } := by
      simp [step, Reader.unescaped, unescaped, word, plain, noOperator, inWord, taking, unexpanded]
    rw [List.foldl_cons, taken,
      @induction { reader with current := reader.current ++ [character] } unescaped word others,
      List.append_assoc]
    rfl

theorem step_blank_of_word (unescaped : reader.escaped = false) (word : reader.mode = .word) :
    reader.step ' ' = { tokens := reader.tokens ++ [.word reader.current reader.literal] } := by
  simp [step, Reader.unescaped, unescaped, word, ended, afresh]

theorem foldl_step_word {tokens : List Token} (nonempty : text ≠ [])
    (bare : ∀ character ∈ text, Bare character) :
    text.foldl step { tokens } = { tokens, current := text, mode := .word } := by
  obtain ⟨character, text, rfl⟩ := List.exists_cons_of_ne_nil nonempty
  obtain ⟨⟨plain, unexpanded, noOperator⟩, others⟩ := List.forall_mem_cons.mp bare
  simp only [List.mem_cons, List.not_mem_nil, or_false, not_or] at plain
  have begun : step { tokens } character = { tokens, current := [character], mode := .word } := by
    simp [step, Reader.unescaped, plain, noOperator, afresh, inWord, taking, unexpanded]
  rw [List.foldl_cons, begun, foldl_step_bare rfl rfl others]
  rfl

/-! ## Quoted text -/

/-- Text without a single quote is taken as it stands where a single quote was opened. -/
theorem foldl_step_single (unescaped : reader.escaped = false) (quoted : reader.mode = .single)
    (plain : '\'' ∉ text) :
    text.foldl step reader = { reader with current := reader.current ++ text } := by
  induction text generalizing reader with
  | nil => simp
  | cons character text induction =>
    obtain ⟨different, plainText⟩ := List.ne_and_not_mem_of_not_mem_cons plain
    have taken : reader.step character =
        { reader with current := reader.current ++ [character] } := by
      simp [step, Reader.unescaped, unescaped, quoted, different.symm, taking]
    rw [List.foldl_cons, taken,
      @induction { reader with current := reader.current ++ [character] } unescaped quoted plainText,
      List.append_assoc]
    rfl

/-- A single quote in quoted text ends the quotation and is not taken. -/
theorem size_foldl_lt_of_quote (unescaped : reader.escaped = false)
    (quoted : reader.mode = .single) (quote : '\'' ∈ text) :
    (text.foldl step reader).size < reader.size + text.length := by
  induction text generalizing reader with
  | nil => simp at quote
  | cons character text induction =>
    rw [List.foldl_cons, List.length_cons]
    by_cases same : character = '\''
    · have closed : reader.step character = { reader with mode := .word } := by
        simp [step, Reader.unescaped, unescaped, quoted, same]
      have rest := size_foldl_le { reader with mode := .word } text
      rw [closed]
      exact Nat.lt_succ_of_le rest
    · have taken : reader.step character = reader.taking .single true character := by
        simp [step, Reader.unescaped, unescaped, quoted, same]
      have rest := @induction (reader.taking .single true character) unescaped rfl
        (by simpa [Ne.symm same] using quote)
      rw [taken]
      rw [size_taking] at rest
      omega

def Quoted (reader : Reader) : Prop :=
  reader.escaped = false ∧ (reader.mode = .single ∨ reader.mode = .double)

/-- Characters that end no quotation are taken in either kind of quotes. -/
theorem foldl_step_quoted (text : List Char) (quoted : reader.Quoted)
    (plain : ∀ character ∈ text, character ∉ ['\'', '"', '\\']) :
    (text.foldl step reader).Quoted ∧ (text.foldl step reader).tokens = reader.tokens ∧
      (text.foldl step reader).current = reader.current ++ text := by
  induction text generalizing reader with
  | nil => simpa using quoted
  | cons character text induction =>
    obtain ⟨first, others⟩ := List.forall_mem_cons.mp plain
    simp only [List.mem_cons, List.not_mem_nil, or_false, not_or] at first
    obtain ⟨unescaped, inQuotes⟩ := quoted
    have taken : ∃ literal,
        reader.step character = reader.taking reader.mode literal character := by
      rcases inQuotes with single | double
      · exact ⟨true, by simp [step, Reader.unescaped, unescaped, single, first]⟩
      · exact ⟨_, by simp only [step, Reader.unescaped, unescaped, double, first]; rfl⟩
    obtain ⟨literal, taken⟩ := taken
    rw [List.foldl_cons, taken]
    obtain ⟨still, tokens, current⟩ :=
      @induction (reader.taking reader.mode literal character) ⟨unescaped, inQuotes⟩ others
    refine ⟨still, tokens, current.trans ?_⟩
    simp [taking]

theorem foldl_step_comment (text : List Char) (unescaped : reader.escaped = false)
    (comment : reader.mode = .comment) (oneLine : '\n' ∉ text) :
    text.foldl step reader = reader := by
  induction text with
  | nil => rfl
  | cons character text induction =>
    obtain ⟨different, others⟩ := List.ne_and_not_mem_of_not_mem_cons oneLine
    have passed : reader.step character = reader := by
      simp [step, Reader.unescaped, unescaped, comment, different.symm]
    rw [List.foldl_cons, passed, induction others]

theorem step_quote_of_operator (unescaped : reader.escaped = false)
    (operator : reader.mode = .operator) :
    reader.step '\'' = { reader.ended with mode := .single } := by
  have noOperator : reader.current ++ ['\''] ∉ operators := by
    intro member
    have last : ∀ text ∈ operators, text.getLast? ≠ some '\'' := by decide
    exact last _ member List.getLast?_concat
  have begun : reader.ended.afresh '\'' = { reader.ended with mode := .single } := rfl
  simp [step, Reader.unescaped, unescaped, operator, noOperator, begun]

/-- What a single quote does: it ends quoted text, is taken after a backslash, is passed over in a
comment, or is in quotes or opens them. -/
theorem step_quote_cases (reader : Reader) :
    (reader.escaped = false ∧ reader.step '\'' = { reader with mode := .word }) ∨
    (reader.escaped = true ∧ (reader.step '\'').mode = .word ∧
      (reader.step '\'').escaped = false ∧
      ∃ text, (reader.step '\'').current = text ++ ['\'']) ∨
    (reader.escaped = false ∧ reader.mode = .comment) ∨
    ((reader.step '\'').Quoted ∧ GuestShell.size (reader.step '\'').tokens ≤ reader.size) := by
  have within : GuestShell.size reader.tokens ≤ reader.size := by
    simp only [size]
    omega
  cases escaped : reader.escaped with
  | true =>
    cases mode : reader.mode with
    | double =>
      have taken : (reader.step '\'').Quoted ∧ (reader.step '\'').tokens = reader.tokens := by
        simp [step, escaped, backslashed, mode, Quoted, taking, escapable]
      exact .inr (.inr (.inr ⟨taken.1, taken.2 ▸ within⟩))
    | operator =>
      refine .inr (.inl ⟨rfl, ?_⟩)
      simp [step, escaped, backslashed, mode, taking, ended]
    | _ =>
      refine .inr (.inl ⟨rfl, ?_⟩)
      simp [step, escaped, backslashed, mode, taking]
  | false =>
    cases mode : reader.mode with
    | single =>
      exact .inl ⟨rfl, by simp [step, Reader.unescaped, escaped, mode]⟩
    | comment => exact .inr (.inr (.inl ⟨rfl, rfl⟩))
    | operator =>
      refine .inr (.inr (.inr ?_))
      have ended := size_ended_le reader
      rw [step_quote_of_operator escaped mode]
      refine ⟨⟨escaped_ended escaped, .inl rfl⟩, Nat.le_trans ?_ ended⟩
      simp only [size]
      omega
    | _ =>
      have opened : (reader.step '\'').Quoted ∧ (reader.step '\'').tokens = reader.tokens := by
        simp [step, Reader.unescaped, escaped, mode, afresh, inWord, Quoted, operators, taking]
      exact .inr (.inr (.inr ⟨opened.1, opened.2 ▸ within⟩))

end Reader

end VirtualLab.GuestShell
