import VirtualLab.Image.Checksum
import VirtualLab.Proofs.ClientNames

/-!
# Checksum files as they are published

A published checksum file is a sequence of lines: entries in either form, lines for other
algorithms, comments, the armour of a signature, blank lines. Whatever blanks stand around a line
and whichever way it ends, exactly its entry is read from it, so a file name is given the digest of
the last entry that lists it.
-/

namespace VirtualLab

/-! ## Words and blanks -/

namespace Text

variable {text left right : List Char}

/-! ### Words -/

structure IsWord (word : List Char) : Prop where
  nonempty : word ≠ []
  plain : ∀ character ∈ word, isBlank character = false

theorem isWord_iff {word : List Char} :
    IsWord word ↔ (!word.isEmpty && word.all (!isBlank ·)) = true := by
  simp only [Bool.and_eq_true, Bool.not_eq_true', List.isEmpty_eq_false_iff, List.all_eq_true]
  exact ⟨fun ⟨nonempty, plain⟩ => ⟨nonempty, plain⟩, fun ⟨nonempty, plain⟩ => ⟨nonempty, plain⟩⟩

instance (word : List Char) : Decidable (IsWord word) := decidable_of_iff' _ isWord_iff

theorem words_append_blank {blank : Char} (isBlank : isBlank blank = true) :
    words (left ++ blank :: right) = words left ++ words right := by
  rw [words, pieces_append_separator isBlank, List.filter_append]
  rfl

theorem words_of_plain (nonempty : text ≠ [])
    (plain : ∀ character ∈ text, isBlank character = false) : words text = [text] := by
  rw [words, pieces_of_plain plain]
  simp [nonempty]

/-! ### Blanks at the ends -/

theorem trimmed_surrounded (before : ∀ character ∈ left, isBlank character = true)
    (after : ∀ character ∈ right, isBlank character = true) :
    trimmed (left ++ text ++ right) = trimmed text := by
  induction right using List.reverseRecOn with
  | nil =>
    rw [List.append_nil, trimmed, trimStart, List.dropWhile_append_of_pos before]
    rfl
  | append_singleton others last induction =>
    obtain ⟨othersBlank, lastBlank⟩ := List.forall_mem_append.mp after
    rw [← List.append_assoc, trimmed_append_blank (lastBlank last List.mem_cons_self),
      induction othersBlank]

theorem trimmed_eq_self (starts : ∀ character ∈ text.head?, isBlank character = false)
    (ends : ∀ character ∈ text.getLast?, isBlank character = false) : trimmed text = text := by
  cases text with
  | nil => rfl
  | cons first rest =>
    rw [trimmed, trimStart_of_not_isBlank (starts first rfl), trimEnd_eq_rdropWhile,
      List.rdropWhile_eq_self_iff]
    intro nonempty
    simpa using ends _ (List.getLast?_eq_some_getLast nonempty)

theorem IsWord.notMem {word : List Char} (isWord : IsWord word) {blank : Char}
    (isBlank : isBlank blank = true) : blank ∉ word := by
  intro member
  rw [isWord.plain blank member] at isBlank
  cases isBlank

theorem trimmed_between (first : IsWord left) (last : IsWord right) (middle : List Char) :
    trimmed (left ++ middle ++ right) = left ++ middle ++ right := by
  apply trimmed_eq_self
  · intro character head
    rw [List.append_assoc, List.head?_append_of_ne_nil _ first.nonempty] at head
    exact first.plain character (List.mem_of_mem_head? head)
  · intro character ending
    rw [List.getLast?_append_of_ne_nil _ last.nonempty] at ending
    exact last.plain character (List.mem_of_mem_getLast? ending)

theorem IsWord.trimmed_eq {word : List Char} (isWord : IsWord word) : trimmed word = word :=
  trimmed_eq_self (fun character head => isWord.plain character (List.mem_of_mem_head? head))
    fun character last => isWord.plain character (List.mem_of_mem_getLast? last)

theorem trimmed_append_of_plain (nonempty : left ≠ [])
    (plain : ∀ character ∈ left, isBlank character = false) (right : List Char) :
    ∃ rest, trimmed (left ++ right) = left ++ rest := by
  induction right using List.reverseRecOn with
  | nil =>
    refine ⟨[], ?_⟩
    rw [List.append_nil]
    exact (IsWord.mk nonempty plain).trimmed_eq
  | append_singleton others last induction =>
    rw [← List.append_assoc]
    by_cases blank : isBlank last = true
    · rw [trimmed_append_blank blank]
      exact induction
    · refine ⟨others ++ [last], (trimmed_eq_self ?_ ?_).trans (List.append_assoc _ _ _)⟩
      · rw [List.append_assoc, List.head?_append_of_ne_nil _ nonempty]
        exact fun character head => plain character (List.mem_of_mem_head? head)
      · simpa using blank

/-! ### Hexadecimal digits -/

theorem toNat_of_digitValue {digit : Char} (isDigit : (digitValue digit).isSome = true) :
    (48 ≤ digit.toNat ∧ digit.toNat ≤ 57) ∨ (65 ≤ digit.toNat ∧ digit.toNat ≤ 70) ∨
      (97 ≤ digit.toNat ∧ digit.toNat ≤ 102) := by
  have codes (first last : Char) (within : (first ≤ digit && digit ≤ last) = true) :
      first.toNat ≤ digit.toNat ∧ digit.toNat ≤ last.toNat := by
    simpa [Char.le_def, UInt32.le_iff_toNat_le] using within
  unfold digitValue at isDigit
  split at isDigit
  · exact .inl (codes '0' '9' ‹_›)
  · split at isDigit
    · exact .inr (.inr (codes 'a' 'f' ‹_›))
    · split at isDigit
      · exact .inr (.inl (codes 'A' 'F' ‹_›))
      · cases isDigit

theorem not_isBlank_of_digitValue {digit : Char} (isDigit : (digitValue digit).isSome = true) :
    isBlank digit = false := by
  have codes := toNat_of_digitValue isDigit
  simp only [isBlank, Bool.or_eq_false_iff, Bool.and_eq_false_iff, decide_eq_false_iff_not,
    beq_eq_false_iff_ne]
  omega

end Text

/-! ## Published lines

A line gives a digest after the algorithm and the name, or before the name; or it is a comment, a
line of signature armour, or blank.
-/

namespace Listing

open ChecksumEntry

/-- A digest as it may be written: digits in either case, at least one. -/
structure HexText where
  digits : List Char
  nonempty : digits ≠ []
  areDigits : ∀ digit ∈ digits, (Text.digitValue digit).isSome = true

def HexText.lowered (hex : HexText) : String := String.ofList (Text.lower hex.digits)

structure TaggedLine where
  algorithm : List Char
  name : List Char
  digest : HexText
  nonempty : algorithm ≠ []
  oneWord : ∀ character ∈ algorithm, Text.isBlank character = false
  oneLine : '\n' ∉ name
  unmarked : ¬ ") = ".toList <:+: name

/-- A line with a digest and a name, which may be marked as binary. -/
structure PlainLine where
  digest : HexText
  binary : Bool
  name : List Char
  nonempty : name ≠ []
  oneWord : ∀ character ∈ name, Text.isBlank character = false
  unstarred : name.head? ≠ some '*'

inductive Content where
  | tagged (line : TaggedLine)
  | plain (line : PlainLine)
  | comment (remark : List Char) (oneLine : '\n' ∉ remark)
  | armour (label : List Char) (oneLine : '\n' ∉ label)
  | blank

def TaggedLine.text (line : TaggedLine) : List Char :=
  line.algorithm ++ " (".toList ++ line.name ++ ") = ".toList ++ line.digest.digits

def PlainLine.text (line : PlainLine) : List Char :=
  line.digest.digits ++ ' ' :: (if line.binary then '*' else ' ') :: line.name

def Content.text : Content → List Char
  | tagged line => line.text
  | plain line => line.text
  | comment remark _ => '#' :: remark
  | armour label _ => "-----".toList ++ label
  | blank => []

def Content.entry : Content → Option ChecksumEntry
  | tagged line =>
    if "SHA".toList.isPrefixOf line.algorithm then
      some ⟨String.ofList line.name, line.digest.lowered⟩
    else none
  | plain line => some ⟨String.ofList line.name, line.digest.lowered⟩
  | comment _ _ | armour _ _ | blank => none

/-! ### Reading one line -/

theorem HexText.not_isBlank (hex : HexText) :
    ∀ digit ∈ hex.digits, Text.isBlank digit = false :=
  fun digit member => Text.not_isBlank_of_digitValue (hex.areDigits digit member)

theorem HexText.notMem (hex : HexText) {character : Char}
    (noDigit : (Text.digitValue character).isSome = false) : character ∉ hex.digits := by
  intro member
  rw [hex.areDigits character member] at noDigit
  cases noDigit

theorem HexText.isWord_digits (hex : HexText) : Text.IsWord hex.digits :=
  ⟨hex.nonempty, hex.not_isBlank⟩

theorem ofLine_of_trimmed {text : List Char} (same : Text.trimmed text = text) :
    ofLine text = if isNoise text then none else (ofTagged text).or (ofWords text) := by
  rw [ofLine, same]

theorem ofLine_congr {text other : List Char} (same : Text.trimmed text = Text.trimmed other) :
    ofLine text = ofLine other := by
  rw [ofLine, ofLine, same]

theorem isNoise_cons {first : Char} (noComment : first ≠ '#') (noArmour : first ≠ '-')
    (rest : List Char) : isNoise (first :: rest) = false := by
  have starts : "-----".toList = '-' :: "----".toList := rfl
  rw [isNoise, starts, List.isPrefixOf_cons_cons]
  simp [noComment, noArmour.symm]

theorem ofLine_of_noise {front : List Char} (nonempty : front ≠ [])
    (plain : ∀ character ∈ front, Text.isBlank character = false)
    (noise : ∀ rest, isNoise (front ++ rest) = true) (rest : List Char) :
    ofLine (front ++ rest) = none := by
  obtain ⟨kept, trimmed⟩ := Text.trimmed_append_of_plain nonempty plain rest
  rw [ofLine, trimmed, if_pos (noise kept)]

theorem ofWords_of_length {text : List Char} (notTwo : (Text.words text).length ≠ 2) :
    ofWords text = none := by
  unfold ofWords
  split
  · rename_i two
    rw [two] at notTwo
    exact absurd rfl notTwo
  · rfl

namespace TaggedLine

variable (line : TaggedLine)

/-- What ends the name does not occur before that, for the algorithm is one word. -/
theorem not_infix_head :
    ¬ ") = ".toList <:+: line.algorithm ++ " (".toList ++ line.name := by
  have oneWord := line.oneWord
  rw [List.append_assoc]
  generalize line.algorithm = algorithm at oneWord
  change ¬ [')', ' ', '=', ' '] <:+: algorithm ++ ' ' :: '(' :: line.name
  induction algorithm with
  | nil =>
    have absent : ¬ [')', ' ', '=', ' '] <:+: [' ', '('] ++ line.name :=
      Text.not_infix_append (by decide) line.unmarked
    exact absent
  | cons character rest induction =>
    obtain ⟨_, restWord⟩ := List.forall_mem_cons.mp oneWord
    rw [List.cons_append, List.infix_cons_iff, List.cons_prefix_cons]
    rintro (⟨_, starts⟩ | later)
    -- Behind its bracket the mark has a blank, which is none of the word, and then no bracket.
    · cases rest with
      | nil =>
        rw [List.nil_append, List.cons_prefix_cons, List.cons_prefix_cons] at starts
        exact absurd starts.2.1 (by decide)
      | cons next others =>
        rw [List.cons_append, List.cons_prefix_cons] at starts
        have plain := restWord next List.mem_cons_self
        rw [← starts.1] at plain
        exact absurd plain (by decide)
    · exact induction restWord later

theorem splitFirst_nameEnd : Text.splitFirst ") = ".toList line.text =
    some (line.algorithm ++ " (".toList ++ line.name, line.digest.digits) := by
  rw [text, List.append_assoc _ ") = ".toList]
  exact Text.splitFirst_at_mark (by decide) line.not_infix_head

theorem splitFirst_nameStart :
    Text.splitFirst " (".toList (line.algorithm ++ " (".toList ++ line.name) =
      some (line.algorithm, line.name) := by
  rw [List.append_assoc]
  refine Text.splitFirst_at_mark (by decide) fun marked => ?_
  have plain := line.oneWord ' ' (marked.subset List.mem_cons_self)
  exact absurd plain (by decide)

theorem ofTagged_text : ofTagged line.text = (Content.tagged line).entry := by
  rw [ofTagged, line.splitFirst_nameEnd, Option.bind_eq_bind, Option.bind_some]
  simp only [line.splitFirst_nameStart, Option.bind_some, line.digest.isWord_digits.trimmed_eq,
    Content.entry, HexText.lowered]

/-- The line has more than two words: the algorithm, the equals sign and the digest. -/
theorem ofWords_text : ofWords line.text = none := by
  have isBlank : Text.isBlank ' ' = true := by decide
  have shown : line.text = line.algorithm ++ ' ' :: ('(' :: line.name ++ [')'] ++
      ' ' :: (['='] ++ ' ' :: line.digest.digits)) := by
    simp [text]
  have sign : Text.words ['='] = [['=']] := by decide
  apply ofWords_of_length
  rw [shown, Text.words_append_blank isBlank, Text.words_append_blank isBlank,
    Text.words_append_blank isBlank, Text.words_of_plain line.nonempty line.oneWord, sign,
    Text.words_of_plain line.digest.nonempty line.digest.not_isBlank]
  simp only [List.length_append, List.length_singleton]
  omega

theorem trimmed_text : Text.trimmed line.text = line.text := by
  have between : line.text = line.algorithm ++ (" (".toList ++ line.name ++ ") = ".toList) ++
      line.digest.digits := by simp only [text, List.append_assoc]
  rw [between]
  exact Text.trimmed_between ⟨line.nonempty, line.oneWord⟩ line.digest.isWord_digits _

theorem ofLine_text : ofLine line.text = (Content.tagged line).entry := by
  rw [ofLine_of_trimmed line.trimmed_text, line.ofTagged_text, line.ofWords_text, Option.or_none]
  by_cases listed : "SHA".toList.isPrefixOf line.algorithm = true
  · obtain ⟨rest, starts⟩ := List.isPrefixOf_iff_prefix.mp listed
    have shown : line.text = 'S' :: ("HA".toList ++ rest ++ " (".toList ++ line.name ++
        ") = ".toList ++ line.digest.digits) := by
      rw [text, ← starts]
      rfl
    rw [shown, isNoise_cons (by decide) (by decide), if_neg Bool.false_ne_true]
  · rw [Content.entry, if_neg listed, ite_self]

end TaggedLine

namespace PlainLine

variable (line : PlainLine)

theorem text_eq_append : line.text =
    (line.digest.digits ++ [' ', if line.binary then '*' else ' ']) ++ line.name := by
  simp [text]

/-- There is no bracket before the name, and no blank in it. -/
theorem ofTagged_text : ofTagged line.text = none := by
  have noBracket : ')' ∉ line.digest.digits ++ [' ', if line.binary then '*' else ' '] := by
    have notDigit : ')' ∉ line.digest.digits := line.digest.notMem (by decide)
    cases line.binary <;> simp [notDigit]
  have notInName : ¬ ") = ".toList <:+: line.name := by
    intro within
    have plain := line.oneWord ' ' (within.subset (by decide))
    exact absurd plain (by decide)
  have absent : ¬ ") = ".toList <:+: line.text := by
    rw [text_eq_append]
    exact Text.not_infix_append noBracket notInName
  have notFound : Text.splitFirst ") = ".toList line.text = none :=
    Text.splitFirst_of_not_infix absent
  rw [ofTagged, notFound]
  rfl

theorem ofWords_text : ofWords line.text = (Content.plain line).entry := by
  have isBlank : Text.isBlank ' ' = true := by decide
  have digits : (line.digest.digits.all fun digit => (Text.digitValue digit).isSome) = true :=
    List.all_eq_true.mpr line.digest.areDigits
  have front := Text.words_of_plain line.digest.nonempty line.digest.not_isBlank
  cases marked : line.binary with
  | true =>
    have starred : Text.words ('*' :: line.name) = ['*' :: line.name] :=
      Text.words_of_plain (List.cons_ne_nil _ _)
        (List.forall_mem_cons.mpr ⟨by decide, line.oneWord⟩)
    have words : Text.words line.text = [line.digest.digits, '*' :: line.name] := by
      rw [text, marked, Text.words_append_blank isBlank, front, if_pos rfl, starred]
      rfl
    rw [ofWords, words]
    simp [digits, Content.entry, HexText.lowered]
  | false =>
    have named : Text.words (' ' :: line.name) = [line.name] := by
      rw [← List.nil_append (' ' :: line.name), Text.words_append_blank isBlank,
        Text.words_of_plain line.nonempty line.oneWord]
      rfl
    have words : Text.words line.text = [line.digest.digits, line.name] := by
      rw [text, marked, Text.words_append_blank isBlank, front, if_neg Bool.false_ne_true, named]
      rfl
    rw [ofWords, words]
    simp [digits, Content.entry, HexText.lowered, line.unstarred]

theorem trimmed_text : Text.trimmed line.text = line.text := by
  rw [text_eq_append]
  exact Text.trimmed_between line.digest.isWord_digits ⟨line.nonempty, line.oneWord⟩ _

theorem ofLine_text : ofLine line.text = (Content.plain line).entry := by
  obtain ⟨first, rest, digits⟩ := List.exists_cons_of_ne_nil line.digest.nonempty
  have different {character : Char} (noDigit : (Text.digitValue character).isSome = false) :
      first ≠ character := by
    rintro rfl
    exact line.digest.notMem noDigit (digits ▸ List.mem_cons_self)
  have saysSomething : isNoise line.text = false := by
    rw [text, digits, List.cons_append]
    exact isNoise_cons (different (by decide)) (different (by decide)) _
  rw [ofLine_of_trimmed line.trimmed_text, saysSomething, if_neg Bool.false_ne_true,
    line.ofTagged_text, Option.none_or, line.ofWords_text]

end PlainLine

theorem ofLine_content (content : Content) : ofLine content.text = content.entry := by
  cases content with
  | tagged line => exact line.ofLine_text
  | plain line => exact line.ofLine_text
  | comment remark oneLine =>
    have plain : Text.isBlank '#' = false := by decide
    exact ofLine_of_noise (List.cons_ne_nil '#' []) (List.forall_mem_singleton.mpr plain)
      (fun _ => rfl) remark
  | armour label oneLine =>
    have dashes : "-----".toList = List.replicate 5 '-' := rfl
    have nonempty : "-----".toList ≠ [] := by decide
    have plain : ∀ character ∈ "-----".toList, Text.isBlank character = false := by
      intro character member
      rw [dashes] at member
      rw [List.eq_of_mem_replicate member]
      decide
    refine ofLine_of_noise nonempty plain (fun rest => ?_) label
    rw [isNoise, List.isPrefixOf_iff_prefix.mpr (List.prefix_append _ rest), Bool.or_true]
  | blank => rfl

/-! ## Published files -/

structure Blanks where
  characters : List Char
  blank : ∀ character ∈ characters, Text.isBlank character = true
  oneLine : '\n' ∉ characters

structure Line where
  before : Blanks
  content : Content
  after : Blanks

def Line.text (line : Line) : List Char :=
  line.before.characters ++ line.content.text ++ line.after.characters

inductive Ending where
  | lineFeed
  | carriageReturn

def Ending.text : Ending → List Char
  | lineFeed => ['\n']
  | carriageReturn => ['\r', '\n']

/-! ### Cutting lines off -/

structure Surrounded where
  before : Blanks
  said : List Char
  oneLine : '\n' ∉ said
  after : Blanks

namespace Surrounded

variable (line : Surrounded)

def text : List Char := line.before.characters ++ line.said ++ line.after.characters

theorem text_oneLine : '\n' ∉ line.text := by
  simp [text, line.before.oneLine, line.oneLine, line.after.oneLine]

theorem trimmed_text : Text.trimmed line.text = Text.trimmed line.said :=
  Text.trimmed_surrounded line.before.blank line.after.blank

theorem lines_ended (ending : Ending) (rest : List Char) :
    ∃ cut, Text.lines (line.text ++ ending.text ++ rest) = cut :: Text.lines rest ∧
      Text.trimmed cut = Text.trimmed line.said := by
  have isCarriageBlank : Text.isBlank '\r' = true := by decide
  rw [← line.trimmed_text]
  cases ending with
  | lineFeed =>
    refine ⟨_, ?_, Text.trimmed_dropEnding isCarriageBlank⟩
    rw [List.append_assoc]
    exact Text.lines_of_line line.text_oneLine rest
  | carriageReturn =>
    have oneLine : '\n' ∉ line.text ++ ['\r'] := by simp [line.text_oneLine]
    refine ⟨_, ?_, (Text.trimmed_dropEnding isCarriageBlank).trans
      (Text.trimmed_append_blank isCarriageBlank)⟩
    have shown : line.text ++ Ending.carriageReturn.text ++ rest =
        line.text ++ ['\r'] ++ '\n' :: rest := by simp [Ending.text]
    rw [shown]
    exact Text.lines_of_line oneLine rest

end Surrounded

/-- What is read from lines by what they say without the blanks around them is read from a text of
such lines, if nothing is read from an empty one. The last line may be left without an ending. -/
theorem filterMap_lines {α β : Type} {read : List Char → Option β}
    (congr : ∀ {text other}, Text.trimmed text = Text.trimmed other → read text = read other)
    (nothing : read [] = none) (form : α → Surrounded) (ended : List (α × Ending)) (last : α) :
    (Text.lines (ended.flatMap (fun line => (form line.1).text ++ line.2.text) ++
        (form last).text)).filterMap read =
      (ended.map (·.1) ++ [last]).filterMap fun line => read (form line).said := by
  induction ended with
  | nil =>
    have cut : Text.pieces (· == '\n') (form last).text = [(form last).text] :=
      Text.pieces_of_plain (Text.no_separator_of_notMem (form last).text_oneLine)
    rw [List.map_nil, List.nil_append, List.filterMap_cons, ← congr (form last).trimmed_text,
      List.flatMap_nil, List.nil_append, Text.lines, cut]
    cases (form last).text with
    | nil => simp [nothing]
    | cons first rest => rfl
  | cons line rest induction =>
    obtain ⟨cut, lines, same⟩ := (form line.1).lines_ended line.2
      (rest.flatMap (fun line => (form line.1).text ++ line.2.text) ++ (form last).text)
    rw [List.flatMap_cons, List.append_assoc, lines, List.map_cons, List.cons_append,
      List.filterMap_cons, List.filterMap_cons, congr same, induction]

end Listing

/-- A published checksum file: lines that are ended in either way, and a last one that is not. -/
structure Listing where
  ended : List (Listing.Line × Listing.Ending)
  last : Listing.Line

namespace Listing

open ChecksumEntry

def text (listing : Listing) : String :=
  String.ofList (listing.ended.flatMap (fun line => line.1.text ++ line.2.text) ++
    listing.last.text)

def contents (listing : Listing) : List Content :=
  listing.ended.map (·.1.content) ++ [listing.last.content]

def entries (listing : Listing) : List ChecksumEntry :=
  listing.contents.filterMap Content.entry

/-- The last entry that lists a file gives it this digest. -/
def LastListed (entries : List ChecksumEntry) (file digest : String) : Prop :=
  ∃ earlier later, entries = earlier ++ ⟨file, digest⟩ :: later ∧
    ∀ entry ∈ later, entry.file ≠ file

theorem Content.oneLine (content : Content) : '\n' ∉ content.text := by
  have plain {word : List Char} (oneWord : ∀ character ∈ word, Text.isBlank character = false) :
      '\n' ∉ word := fun member => absurd (oneWord '\n' member) (by decide)
  cases content with
  | tagged line =>
    have digits := plain line.digest.not_isBlank
    simp [text, TaggedLine.text, plain line.oneWord, line.oneLine, digits]
  | plain line =>
    have digits := plain line.digest.not_isBlank
    cases marked : line.binary <;>
      simp [text, PlainLine.text, marked, plain line.oneWord, digits]
  | comment remark oneLine => simpa [text] using oneLine
  | armour label oneLine => simpa [text] using oneLine
  | blank => exact List.not_mem_nil

def Line.surrounded (line : Line) : Surrounded :=
  ⟨line.before, line.content.text, line.content.oneLine, line.after⟩

theorem ofText_text (listing : Listing) : ofText listing.text = listing.entries := by
  have read := filterMap_lines ofLine_congr rfl Line.surrounded listing.ended listing.last
  rw [ofText, text, String.toList_ofList]
  refine read.trans ?_
  simp only [Line.surrounded, ofLine_content, entries, contents, List.filterMap_append,
    List.filterMap_map, List.filterMap_cons, List.filterMap_nil, Function.comp_def]

theorem digestOf_eq_some_iff {entries : List ChecksumEntry} {file digest : String} :
    digestOf entries file = some digest ↔ LastListed entries file digest := by
  rw [digestOf, Option.map_eq_some_iff]
  constructor
  · rintro ⟨⟨_, _⟩, found, rfl⟩
    obtain ⟨same, later, earlier, order, others⟩ := List.find?_eq_some_iff_append.mp found
    obtain rfl := eq_of_beq same
    refine ⟨earlier.reverse, later.reverse, ?_, by simpa using others⟩
    simpa using congrArg List.reverse order
  · rintro ⟨earlier, later, rfl, others⟩
    exact ⟨⟨file, digest⟩, List.find?_eq_some_iff_append.mpr ⟨beq_self_eq_true _, later.reverse,
      earlier.reverse, by simp, by simpa using others⟩, rfl⟩

theorem digestOf_eq_none_iff {entries : List ChecksumEntry} {file : String} :
    digestOf entries file = none ↔ ∀ entry ∈ entries, entry.file ≠ file := by
  simp [digestOf]

/-- Of a published file exactly the entries are read. So each file name has the digest of the last
entry that lists it, and no other name has one. -/
theorem published_entries_read_back (listing : Listing) :
    ofText listing.text = listing.entries ∧
      ∀ file, (∀ digest, digestOf (ofText listing.text) file = some digest ↔
          LastListed listing.entries file digest) ∧
        (digestOf (ofText listing.text) file = none ↔
          ∀ entry ∈ listing.entries, entry.file ≠ file) := by
  rw [listing.ofText_text]
  exact ⟨rfl, fun _ => ⟨fun _ => digestOf_eq_some_iff, digestOf_eq_none_iff⟩⟩

example : ofText "\t SHA256 (a.img) = AB09 \r\n  Cd0F *b.img\u0085\n" =
    [⟨"a.img", "ab09"⟩, ⟨"b.img", "cd0f"⟩] := by
  decide

end Listing

end VirtualLab
