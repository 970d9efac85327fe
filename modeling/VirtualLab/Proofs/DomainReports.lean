import VirtualLab.Hypervisor.Virsh
import VirtualLab.Proofs.InstallRequests
import VirtualLab.Proofs.Listings

/-!
# Reports of a domain's state

The client reports the state of a domain and its reason as numbers, each on a line of its own after
a key. Whatever other lines stand around these two, the numbers are read back and looked up in the
table of states and in the reason table of that state. What is not a whole number of 64 bits after
the key of the state reports none.
-/

namespace VirtualLab

/-! ## Integers as they are written -/

namespace Text

variable {text : List Char}

theorem isDigit_of_digitValue {digit : Char} {value : Nat} (shown : digitValue digit = some value)
    (small : value < 10) : digit.isDigit = true ∧ value = digit.toNat - '0'.toNat := by
  unfold digitValue at shown
  split at shown
  · rename_i decimal
    cases shown
    refine ⟨?_, rfl⟩
    simpa [Char.isDigit, Char.le_def] using decimal
  · split at shown
    · cases shown
      omega
    · split at shown
      · cases shown
        omega
      · cases shown

theorem digitsValue_eq_some_iff {value number : Nat} :
    digitsValue 10 value text = some number ↔
      (∀ digit ∈ text, digit.isDigit = true) ∧ number = Nat.ofDigitChars 10 text value := by
  constructor
  · intro read
    have areDigits : ∀ digit ∈ text, digit.isDigit = true := by
      induction text generalizing value with
      | nil => exact List.forall_mem_nil _
      | cons digit rest induction =>
        rw [digitsValue] at read
        split at read
        · rename_i shown
          split at read
          · rename_i small
            exact List.forall_mem_cons.mpr ⟨(isDigit_of_digitValue shown small).1, induction read⟩
          · cases read
        · cases read
    exact ⟨areDigits, Option.some.inj (read.symm.trans (digitsValue_of_isDigit areDigits))⟩
  · rintro ⟨areDigits, rfl⟩
    exact digitsValue_of_isDigit areDigits

theorem readNatural_eq_some_iff {number : Nat} :
    readNatural 10 text = some number ↔
      text ≠ [] ∧ (∀ digit ∈ text, digit.isDigit = true) ∧ number = Nat.ofDigitChars 10 text 0 := by
  rw [readNatural, ← digitsValue_eq_some_iff]
  cases text <;> simp

inductive Signed (size : Nat) : List Char → Int → Prop
  | unsigned : Signed size [] size
  | plus : Signed size ['+'] size
  | minus : Signed size ['-'] (-size)

/-- The text writes the number: decimal digits, which a sign may come before. The number fits 64
bits. -/
structure Writes (text : List Char) (number : Int) : Prop where
  written : ∃ sign digits, text = sign ++ digits ∧ digits ≠ [] ∧
    (∀ digit ∈ digits, digit.isDigit = true) ∧ Signed (Nat.ofDigitChars 10 digits 0) sign number
  least : -9223372036854775808 ≤ number
  greatest : number ≤ 9223372036854775807

/-- Exactly the integers that are written are read. -/
theorem readInteger_eq_some_iff {number : Int} :
    readInteger text = some number ↔ Writes text number := by
  constructor
  · intro read
    unfold readInteger at read
    obtain ⟨signed, fits⟩ := Option.filter_eq_some_iff.mp read
    obtain ⟨least, greatest⟩ : leastInteger ≤ number ∧ number ≤ greatestInteger := by
      simpa using fits
    refine ⟨?_, least, greatest⟩
    split at signed
    all_goals
      obtain ⟨_, found, rfl⟩ := Option.map_eq_some_iff.mp signed
      obtain ⟨size, natural, equal⟩ := Option.bind_eq_some_iff.mp found
      obtain ⟨nonempty, areDigits, rfl⟩ := readNatural_eq_some_iff.mp natural
      cases equal
    · exact ⟨['-'], _, rfl, nonempty, areDigits, .minus⟩
    · exact ⟨['+'], _, rfl, nonempty, areDigits, .plus⟩
    · exact ⟨[], _, rfl, nonempty, areDigits, .unsigned⟩
  · rintro ⟨⟨sign, digits, rfl, nonempty, areDigits, signed⟩, least, greatest⟩
    have natural := readNatural_eq_some_iff.mpr ⟨nonempty, areDigits, rfl⟩
    have fits : leastInteger ≤ number ∧ number ≤ greatestInteger := ⟨least, greatest⟩
    unfold readInteger
    refine Option.filter_eq_some_iff.mpr ⟨?_, by simpa using fits⟩
    cases signed with
    | minus | plus =>
      change ((readNatural 10 digits).bind _).map _ = _
      rw [natural]
      rfl
    | unsigned =>
      -- The first character is a digit, so it is taken for no sign.
      rw [List.nil_append]
      split
      · exact absurd (areDigits '-' List.mem_cons_self) (by decide)
      · exact absurd (areDigits '+' List.mem_cons_self) (by decide)
      · change ((readNatural 10 digits).bind _).map _ = _
        rw [natural]
        rfl

def decimal (number : Int64) : List Char := (toString number.toInt).toList

theorem writes_decimal (number : Int64) : Writes (decimal number) number.toInt := by
  have least := number.le_toInt
  have greatest := number.toInt_lt
  refine ⟨?_, by omega, by omega⟩
  unfold decimal
  cases number.toInt with
  | ofNat size =>
    obtain ⟨nonempty, areDigits, same⟩ := readNatural_eq_some_iff.mp (readNatural_toString size)
    exact ⟨[], _, rfl, nonempty, areDigits, same ▸ .unsigned⟩
  | negSucc size =>
    obtain ⟨nonempty, areDigits, same⟩ :=
      readNatural_eq_some_iff.mp (readNatural_toString (size + 1))
    exact ⟨['-'], _, String.toList_append, nonempty, areDigits, same ▸ .minus⟩

theorem Writes.isWord {number : Int} (writes : Writes text number) : IsWord text := by
  obtain ⟨sign, digits, rfl, nonempty, areDigits, signed⟩ := writes.written
  refine ⟨by simp [nonempty], List.forall_mem_append.mpr ⟨?_, fun digit member => ?_⟩⟩
  · cases signed with
    | unsigned => exact List.forall_mem_nil _
    | plus | minus => exact List.forall_mem_singleton.mpr (by decide)
  · exact not_isBlank_of_digitValue
      (Option.isSome_of_eq_some (digitValue_of_isDigit (areDigits digit member)).1)

end Text

/-! ## Tables -/

/-- What a table holds under a number, or what stands for every number outside the table. -/
def EntryOf {α : Type} (table : List α) (outside : α) (number : Int) (entry : α) : Prop :=
  (∃ index : Nat, number = index ∧ table[index]? = some entry) ∨
    ((∀ index : Nat, number = index → table.length ≤ index) ∧ entry = outside)

def DomainState.numbered : List DomainState :=
  [.noState, .running, .blocked, .paused, .shuttingDown, .shutOff, .crashed, .suspended]

theorem entryOf_getD {α : Type} (table : List α) (outside : α) (number : Int) :
    EntryOf table outside number
      (if number < 0 then outside else table.getD number.toNat outside) := by
  split
  · rename_i negative
    exact .inr ⟨fun index equal => by omega, rfl⟩
  · rename_i notNegative
    have same : number = number.toNat := by omega
    rcases Nat.lt_or_ge number.toNat table.length with within | beyond
    · exact .inl ⟨_, same, by simp [within]⟩
    · refine .inr ⟨fun index equal => by omega, ?_⟩
      simp [beyond]

theorem DomainState.entryOf_ofCode (code : Int) :
    EntryOf numbered .unknown code (ofCode code) := by
  have known : ∀ index : Nat, index < 8 → numbered[index]? = some (ofCode (index : Int)) := by
    decide
  by_cases within : 0 ≤ code ∧ code < 8
  · obtain ⟨index, rfl⟩ := Int.eq_ofNat_of_zero_le within.1
    exact .inl ⟨index, rfl, known index (by omega)⟩
  · have beyond : ∀ index : Nat, code = index → 8 ≤ index := fun index equal => by omega
    refine .inr ⟨beyond, ?_⟩
    unfold ofCode
    split
    case h_9 => rfl
    all_goals exact absurd (by decide) within

theorem DomainState.entryOf_reasonLabel (state : DomainState) (code : Int) :
    EntryOf state.reasons "Unknown Reason" code (state.reasonLabel code) :=
  entryOf_getD _ _ _

namespace Hypervisor.Virsh

open Listing

/-! ## Reading lines

A line gives a number for the state or for the reason under a key, which stands before its first
equals sign.
-/

inductive Key where
  | state
  | reason
  deriving DecidableEq

def Key.text : Key → List Char
  | state => "state.state".toList
  | reason => "state.reason".toList

def Report.get (report : Report) : Key → Option Int
  | .state => report.state
  | .reason => report.reason

def Key.ofName (name : List Char) : Option Key :=
  if name = state.text then some state else if name = reason.text then some reason else none

theorem Key.isWord_text (key : Key) : Text.IsWord key.text := by
  cases key <;> decide

theorem Key.ofName_eq_some_iff {name : List Char} {key : Key} :
    ofName name = some key ↔ name = key.text := by
  have different : reason.text ≠ state.text := by decide
  unfold ofName
  split
  · rename_i isState
    cases key <;> simp [isState, different.symm]
  · rename_i notState
    cases key <;> simp [notState]

theorem Key.text_injective : Function.Injective text := by
  intro key other same
  have named : ofName other.text = some key := same ▸ ofName_eq_some_iff.mpr rfl
  exact Option.some.inj (named.symm.trans (ofName_eq_some_iff.mpr rfl))

def Report.set (report : Report) (key : Key) (number : Option Int) : Report :=
  match key with
  | .state => { report with state := number }
  | .reason => { report with reason := number }

theorem Report.get_set (report : Report) (key other : Key) (number : Option Int) :
    (report.set key number).get other = if key = other then number else report.get other := by
  cases key <;> cases other <;> rfl

def valueIn (key : Key) (line : List Char) : Option (List Char) :=
  match Text.splitFirst ['='] (Text.trimmed line) with
  | none => none
  | some (name, value) => if name = key.text then some value else none

theorem Key.splitFirst_text (key : Key) (value : List Char) :
    Text.splitFirst ['='] (key.text ++ '=' :: value) = some (key.text, value) := by
  have plain : '=' ∉ key.text := by cases key <;> decide
  exact InstallOptions.splitFirst_of_plain plain

theorem valueIn_eq_some_iff {key : Key} {line value : List Char} :
    valueIn key line = some value ↔ Text.trimmed line = key.text ++ '=' :: value := by
  constructor
  · intro given
    unfold valueIn at given
    split at given
    · cases given
    · rename_i cut
      split at given
      · rename_i isKey
        cases given
        rw [Text.append_of_splitFirst cut, isKey, List.append_assoc]
        rfl
      · cases given
  · intro shown
    rw [valueIn, shown, key.splitFirst_text]
    exact if_pos rfl

def numberIn (key : Key) (line : List Char) : Option (Option Int) :=
  (valueIn key line).map fun value => Text.readInteger (Text.trimmed value)

def lastNumber (key : Key) (lines : List (List Char)) : Option Int :=
  (lines.filterMap (numberIn key)).getLast?.join

theorem numberIn_congr {key : Key} {line other : List Char}
    (same : Text.trimmed line = Text.trimmed other) : numberIn key line = numberIn key other := by
  rw [numberIn, numberIn, valueIn, valueIn, same]

theorem addLine_of_none {report : Report} {line : List Char}
    (unmarked : Text.splitFirst ['='] (Text.trimmed line) = none) :
    report.addLine line = report := by
  rw [Report.addLine, unmarked]

theorem addLine_of_some {report : Report} {line name value : List Char}
    (cut : Text.splitFirst ['='] (Text.trimmed line) = some (name, value)) :
    report.addLine line =
      match Key.ofName name with
      | none => report
      | some key => report.set key (Text.readInteger (Text.trimmed value)) := by
  rw [Report.addLine, cut, Key.ofName]
  change (if name = Key.state.text then report.set .state _
    else if name = Key.reason.text then report.set .reason _ else report) = _
  split
  · rfl
  · split <;> rfl

/-- A line gives its number under its own key, and leaves the other as it was. -/
theorem get_addLine (report : Report) (line : List Char) (key : Key) :
    (report.addLine line).get key = (numberIn key line).getD (report.get key) := by
  unfold numberIn valueIn
  cases cut : Text.splitFirst ['='] (Text.trimmed line) with
  | none => rw [addLine_of_none cut, Option.map_none, Option.getD_none]
  | some parts =>
    obtain ⟨name, value⟩ := parts
    simp only [addLine_of_some cut, ← Key.ofName_eq_some_iff]
    cases Key.ofName name with
    | none => simp
    | some given =>
      by_cases same : given = key
      · simp [same, Report.get_set]
      · simp [same, Report.get_set]

/-- Only the last line with a key counts. -/
theorem get_foldl_addLine (lines : List (List Char)) (key : Key) :
    (lines.foldl Report.addLine {}).get key = lastNumber key lines := by
  -- The induction takes lines off the end, for the last one decides if it has the key.
  induction lines using List.reverseRecOn with
  | nil => cases key <;> rfl
  | append_singleton earlier last induction =>
    rw [List.foldl_append, List.foldl_cons, List.foldl_nil, get_addLine, induction, lastNumber,
      lastNumber, List.filterMap_append]
    cases given : numberIn key last with
    | none => simp [given]
    | some value => simp [given]

theorem lastNumber_eq_none {key : Key} {lines : List (List Char)}
    (unread : ∀ line ∈ lines, ∀ value number, Text.trimmed line = key.text ++ '=' :: value →
      ¬ Text.Writes (Text.trimmed value) number) : lastNumber key lines = none := by
  rw [lastNumber, Option.join_eq_none_iff]
  cases last : (lines.filterMap (numberIn key)).getLast? with
  | none => exact .inl rfl
  | some found =>
    obtain ⟨line, member, given⟩ := List.mem_filterMap.mp (List.mem_of_getLast? last)
    obtain ⟨value, valued, rfl⟩ := Option.map_eq_some_iff.mp given
    refine .inr (congrArg some (Option.eq_none_iff_forall_ne_some.mpr fun number read => ?_))
    exact unread line member value number (valueIn_eq_some_iff.mp valued)
      (Text.readInteger_eq_some_iff.mp read)

theorem readStatus_eq (output : String) :
    readStatus output = (lastNumber .state (Text.lines output.toList)).map fun state =>
      DomainStatus.ofCodes state ((lastNumber .reason (Text.lines output.toList)).getD 0) := by
  rw [← get_foldl_addLine, ← get_foldl_addLine]
  rfl

/-! ## Reports as they are printed -/

/-- What a line of a report says, without the blanks around the line: a number under a key, or
anything else that has neither key before its first equals sign. -/
inductive Said where
  | number (key : Key) (gap : Blanks) (value : Int64)
  | other (text : List Char) (oneLine : '\n' ∉ text)
      (unkeyed : ∀ (key : Key) (value : List Char), Text.trimmed text ≠ key.text ++ '=' :: value)

namespace Said

def text : Said → List Char
  | number key gap value => key.text ++ '=' :: (gap.characters ++ Text.decimal value)
  | other text _ _ => text

def numberOf (key : Key) : Said → Option Int64
  | number given _ value => if given = key then some value else none
  | other _ _ _ => none

def header (domain : String) (oneLine : '\n' ∉ domain.toList) : Said :=
  .other ("Domain: '".toList ++ domain.toList ++ ['\'']) (by simp [oneLine]) <| by
    intro key value shown
    obtain ⟨rest, starts⟩ : ∃ rest, Text.trimmed ("Domain: '".toList ++ domain.toList ++ ['\'']) =
        ['D'] ++ rest :=
      Text.trimmed_append_of_plain (List.cons_ne_nil 'D' [])
        (List.forall_mem_singleton.mpr (by decide)) _
    have first := starts.symm.trans shown
    cases key <;> exact absurd (List.cons.inj first).1 (by decide)

theorem text_number (key : Key) (gap : Blanks) (value : Int64) :
    (number key gap value).text = key.text ++ '=' :: (gap.characters ++ Text.decimal value) := rfl

theorem oneLine (said : Said) : '\n' ∉ said.text := by
  cases said with
  | number key gap value =>
    have plainKey : '\n' ∉ key.text := key.isWord_text.notMem (by decide)
    have plainValue : '\n' ∉ Text.decimal value :=
      (Text.writes_decimal value).isWord.notMem (by decide)
    simp [text, plainKey, plainValue, gap.oneLine]
  | other text oneLine unkeyed => exact oneLine

theorem trimmed_number (key : Key) (gap : Blanks) (value : Int64) :
    Text.trimmed (number key gap value).text = (number key gap value).text := by
  rw [text_number, ← List.cons_append, ← List.append_assoc]
  exact Text.trimmed_between key.isWord_text (Text.writes_decimal value).isWord _

theorem valueIn_number (given key : Key) (gap : Blanks) (value : Int64) :
    valueIn key (number given gap value).text =
      if given = key then some (gap.characters ++ Text.decimal value) else none := by
  rw [valueIn, trimmed_number, text_number, given.splitFirst_text]
  exact if_congr Key.text_injective.eq_iff rfl rfl

theorem numberIn_text (said : Said) (key : Key) :
    numberIn key said.text = (said.numberOf key).map fun value => some value.toInt := by
  cases said with
  | number given gap value =>
    have writes := Text.writes_decimal value
    have bare : Text.trimmed (gap.characters ++ Text.decimal value) = Text.decimal value := by
      rw [← List.append_nil (gap.characters ++ _),
        Text.trimmed_surrounded gap.blank (List.forall_mem_nil _), writes.isWord.trimmed_eq]
    rw [numberIn, valueIn_number, numberOf]
    split
    · rw [Option.map_some, bare, Text.readInteger_eq_some_iff.mpr writes, Option.map_some]
    · rfl
  | other text oneLine unkeyed =>
    have unread : valueIn key text = none :=
      Option.eq_none_iff_forall_ne_some.mpr fun value given =>
        unkeyed key value (valueIn_eq_some_iff.mp given)
    rw [numberIn, Said.text, unread]
    rfl

end Said

structure ReportLine where
  before : Blanks
  said : Said
  after : Blanks

def ReportLine.surrounded (line : ReportLine) : Surrounded :=
  ⟨line.before, line.said.text, line.said.oneLine, line.after⟩

/-- What the client prints for the state of a domain: lines that are ended in either way, and a last
one that is not. -/
structure StateOutput where
  ended : List (ReportLine × Ending)
  last : ReportLine

namespace StateOutput

variable (output : StateOutput)

def text : String :=
  String.ofList (output.ended.flatMap (fun line => line.1.surrounded.text ++ line.2.text) ++
    output.last.surrounded.text)

def contents : List Said := (output.ended.map (·.1) ++ [output.last]).map (·.said)

def numbers (key : Key) : List Int64 := output.contents.filterMap (Said.numberOf key)

theorem filterMap_numberIn (key : Key) :
    (Text.lines output.text.toList).filterMap (numberIn key) =
      (output.numbers key).map fun value => some value.toInt := by
  rw [text, String.toList_ofList, filterMap_lines numberIn_congr rfl ReportLine.surrounded, numbers,
    contents, List.filterMap_map, List.map_filterMap]
  exact List.filterMap_congr fun line _ => line.said.numberIn_text key

theorem lastNumber_text (key : Key) :
    lastNumber key (Text.lines output.text.toList) =
      (output.numbers key).getLast?.map Int64.toInt := by
  rw [lastNumber, output.filterMap_numberIn, List.getLast?_map]
  cases (output.numbers key).getLast? <;> rfl

end StateOutput

/-- A report gives the state of the number under its key, and the reason of the number under its own
key from the table of that state, whatever other lines stand around the two and whichever comes
first. Without a number for the reason it is zero. A text of which no line gives the state a number
gives no status. -/
theorem status_read_from_report :
    (∀ (output : StateOutput) (state : Int64) (reason : Option Int64),
      output.numbers .state = [state] → output.numbers .reason = reason.toList →
        ∃ status, readStatus output.text = some status ∧
          EntryOf DomainState.numbered .unknown state.toInt status.state ∧
          EntryOf status.state.reasons "Unknown Reason" (reason.elim 0 Int64.toInt)
            status.reason) ∧
      ∀ output : String,
        (∀ line ∈ Text.lines output.toList, ∀ value number,
          Text.trimmed line = Key.state.text ++ '=' :: value →
            ¬ Text.Writes (Text.trimmed value) number) →
          readStatus output = none := by
  refine ⟨fun output state reason oneState oneReason => ?_, fun output unread => ?_⟩
  · refine ⟨DomainStatus.ofCodes state.toInt (reason.elim 0 Int64.toInt), ?_,
      DomainState.entryOf_ofCode _, DomainState.entryOf_reasonLabel _ _⟩
    rw [readStatus_eq, output.lastNumber_text, output.lastNumber_text, oneState, oneReason]
    cases reason <;> rfl
  · rw [readStatus_eq, lastNumber_eq_none unread]
    rfl

namespace StateOutput

def blanks (characters : List Char) (areBlank : characters.all Text.isBlank = true)
    (oneLine : characters.contains '\n' = false) : Blanks :=
  ⟨characters, List.all_eq_true.mp areBlank, by simpa using oneLine⟩

def noBlanks : Blanks := blanks [] (by decide) (by decide)

def space : Blanks := blanks [' '] (by decide) (by decide)

def tab : Blanks := blanks ['\t'] (by decide) (by decide)

def spacedKey : Said :=
  .other "state.state =1".toList (by decide) <| by
    intro key value shown
    have unread : valueIn key "state.state =1".toList = none := by cases key <;> decide
    rw [← valueIn_eq_some_iff, unread] at shown
    cases shown

/-- The name of the domain reads like a line for the state, and the reason stands before the
state. -/
def crowded : StateOutput where
  ended := [
    (⟨noBlanks, .header "'\rstate.state=9" (by decide), space⟩, .carriageReturn),
    (⟨tab, .number .reason noBlanks 1, noBlanks⟩, .lineFeed),
    (⟨space, .number .state space 3, tab⟩, .carriageReturn)]
  last := ⟨noBlanks, spacedKey, noBlanks⟩

end StateOutput

theorem crowded_report_read :
    StateOutput.crowded.text =
        "Domain: ''\rstate.state=9' \r\n\tstate.reason=1\n state.state= 3\t\r\nstate.state =1" ∧
      (StateOutput.crowded.numbers .state = [3] ∧ StateOutput.crowded.numbers .reason = [1] ∧
        ∃ status, readStatus StateOutput.crowded.text = some status ∧
          EntryOf DomainState.numbered .unknown 3 status.state ∧
          EntryOf status.state.reasons "Unknown Reason" 1 status.reason) ∧
      readStatus StateOutput.crowded.text = some ⟨.paused, "paused on user request"⟩ ∧
      readStatus "state.state=9223372036854775808" = none := by
  refine ⟨by decide, ⟨rfl, rfl, status_read_from_report.1 _ 3 (some 1) rfl rfl⟩, by decide, ?_⟩
  apply status_read_from_report.2
  intro line member value number shown writes
  have lines : Text.lines "state.state=9223372036854775808".toList =
    ["state.state=9223372036854775808".toList] := by decide
  have given : valueIn .state "state.state=9223372036854775808".toList =
    some "9223372036854775808".toList := by decide
  have beyond : Text.readInteger (Text.trimmed "9223372036854775808".toList) = none := by decide
  rw [lines, List.mem_singleton] at member
  rw [member, ← valueIn_eq_some_iff, given] at shown
  cases shown
  rw [← Text.readInteger_eq_some_iff, beyond] at writes
  cases writes

end Hypervisor.Virsh

end VirtualLab
