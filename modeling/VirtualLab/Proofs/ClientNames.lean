import Mathlib.Data.List.DropRight
import VirtualLab.Hypervisor.Virsh
import VirtualLab.Proofs.Places

/-!
# Names in the client's output

The client prints names one on a line, with a blank line after the last. What is read from that is
each name without the blanks at its ends, so a name is read back exactly if it has none.
-/

namespace VirtualLab

namespace Text

/-! ## Trimming -/

variable {text : List Char}

theorem trimEnd_eq_rdropWhile (text : List Char) : trimEnd text = text.rdropWhile isBlank := rfl

theorem not_isBlank_of_trimStart {first : Char} {rest : List Char}
    (starts : trimStart text = first :: rest) : isBlank first = false := by
  induction text with
  | nil => cases starts
  | cons character others induction =>
    rw [trimStart] at starts
    by_cases blank : isBlank character = true
    · rw [List.dropWhile_cons_of_pos blank] at starts
      exact induction starts
    · rw [List.dropWhile_cons_of_neg blank] at starts
      obtain ⟨rfl, _⟩ := List.cons.inj starts
      exact Bool.eq_false_iff.mpr blank

theorem trimStart_of_not_isBlank {first : Char} {rest : List Char}
    (notBlank : isBlank first = false) : trimStart (first :: rest) = first :: rest :=
  List.dropWhile_cons_of_neg (by simp [notBlank])

theorem trimmed_eq_nil_iff : trimmed text = [] ↔ ∀ character ∈ text, isBlank character = true := by
  rw [trimmed, trimEnd_eq_rdropWhile, List.rdropWhile_eq_nil_iff]
  constructor
  · intro blank
    cases starts : trimStart text with
    | nil => exact List.dropWhile_eq_nil_iff.mp starts
    | cons first rest =>
      have firstBlank := blank first (by rw [starts]; exact List.mem_cons_self)
      rw [not_isBlank_of_trimStart starts] at firstBlank
      cases firstBlank
  · intro blank character member
    exact blank character ((List.dropWhile_suffix isBlank).subset member)

theorem trimmed_trimmed (text : List Char) : trimmed (trimmed text) = trimmed text := by
  have startKept : trimStart (trimmed text) = trimmed text := by
    cases shown : trimmed text with
    | nil => rfl
    | cons first rest =>
      -- The first character left at the end is the first one left at the start.
      obtain ⟨dropped, ends⟩ := List.rdropWhile_prefix isBlank (trimStart text)
      rw [← trimEnd_eq_rdropWhile, ← trimmed, shown, List.cons_append] at ends
      exact trimStart_of_not_isBlank (not_isBlank_of_trimStart ends.symm)
  rw [trimmed, startKept, trimEnd_eq_rdropWhile, trimmed, trimEnd_eq_rdropWhile]
  exact List.rdropWhile_idempotent isBlank _

theorem trimmed_append_blank {character : Char} (blank : isBlank character = true) :
    trimmed (text ++ [character]) = trimmed text := by
  rw [trimmed, trimmed, trimStart, List.dropWhile_append]
  split
  · rename_i empty
    rw [trimStart, List.isEmpty_iff.mp empty, List.dropWhile_cons_of_pos blank]
    rfl
  · exact List.rdropWhile_concat_pos isBlank _ character blank

theorem trimmed_dropEnding {ending : Char} (blank : isBlank ending = true) :
    trimmed (dropEnding ending text) = trimmed text := by
  unfold dropEnding
  split
  · rename_i ends
    obtain ⟨front, rfl⟩ := List.getLast?_eq_some_iff.mp ends
    rw [List.dropLast_concat, trimmed_append_blank blank]
  · rfl

theorem trim_trim (name : String) : trim (trim name) = trim name := by
  rw [trim, trim, String.toList_ofList, trimmed_trimmed]

theorem notMem_map_trim {name : String} (blanks : trim name ≠ name) (names : List String) :
    name ∉ names.map trim := by
  intro member
  obtain ⟨printed, _, rfl⟩ := List.mem_map.mp member
  exact blanks (trim_trim printed)

theorem map_trim_eq_self_iff {names : List String} :
    names.map trim = names ↔ ∀ name ∈ names, trim name = name := by
  conv_lhs => rhs; rw [← List.map_id names]
  exact List.map_inj_left

/-! ## Lines -/

theorem lines_of_line {line : List Char} (plain : '\n' ∉ line) (rest : List Char) :
    lines (line ++ '\n' :: rest) = dropEnding '\r' line :: lines rest := by
  have cut : pieces (· == '\n') (line ++ '\n' :: rest) = line :: pieces (· == '\n') rest := by
    rw [pieces_append_separator rfl, pieces_of_plain (no_separator_of_notMem plain)]
    rfl
  obtain ⟨first, others, more⟩ : ∃ first others, pieces (· == '\n') rest = first :: others :=
    List.exists_cons_of_ne_nil (pieces_ne_nil rest)
  rw [lines, lines, cut, more, List.dropLast_cons_of_ne_nil (List.cons_ne_nil first others),
    List.getLast?_cons_cons, List.map_cons]
  cases (first :: others).getLast? with
  | none => rfl
  | some last => cases last <;> rfl

theorem lines_flatMap {parts : List (List Char)} (plain : ∀ line ∈ parts, '\n' ∉ line)
    (rest : List Char) :
    lines (parts.flatMap (· ++ ['\n']) ++ rest) = parts.map (dropEnding '\r') ++ lines rest := by
  induction parts with
  | nil => rfl
  | cons first others induction =>
    obtain ⟨firstPlain, othersPlain⟩ := List.forall_mem_cons.mp plain
    rw [List.flatMap_cons, List.append_assoc, List.append_assoc, List.singleton_append,
      lines_of_line firstPlain, induction othersPlain, List.map_cons, List.cons_append]

end Text

namespace Hypervisor.Virsh

/-! ## Names that are printed and read -/

def printed : List String → String
  | [] => "\n"
  | name :: rest => name ++ "\n" ++ printed rest

/-- A name that can be told from the lines around it: it is on one line, and not blank. -/
structure Listable (name : String) : Prop where
  oneLine : '\n' ∉ name.toList
  notBlank : Text.isBlankText name = false

instance (name : String) : Decidable (Listable name) :=
  decidable_of_iff ('\n' ∉ name.toList ∧ Text.isBlankText name = false)
    ⟨fun ⟨oneLine, notBlank⟩ => ⟨oneLine, notBlank⟩,
      fun ⟨oneLine, notBlank⟩ => ⟨oneLine, notBlank⟩⟩

theorem trimmed_ne_nil {name : String} (listable : Listable name) :
    Text.trimmed name.toList ≠ [] := by
  intro blank
  have allBlank : Text.isBlankText name = true :=
    List.all_eq_true.mpr (Text.trimmed_eq_nil_iff.mp blank)
  rw [listable.notBlank] at allBlank
  cases allBlank

/-- Each printed name is read without the blanks at its ends. -/
theorem readNames_printed {names : List String} (listable : ∀ name ∈ names, Listable name) :
    readNames (printed names) = names.map Text.trim := by
  induction names with
  | nil => decide
  | cons name rest induction =>
    obtain ⟨first, others⟩ := List.forall_mem_cons.mp listable
    have content : (printed (name :: rest)).toList =
        name.toList ++ '\n' :: (printed rest).toList := by
      rw [printed, String.toList_append, String.toList_append, List.append_assoc]
      rfl
    have isCarriageBlank : Text.isBlank '\r' = true := by decide
    rw [List.map_cons, ← induction others, readNames, content,
      Text.lines_of_line first.oneLine, List.map_cons, Text.trimmed_dropEnding isCarriageBlank,
      List.filter_cons_of_pos, List.map_cons]
    · rfl
    · simpa using trimmed_ne_nil first

/-- Names are read as they were printed exactly if none has a blank at an end. -/
theorem readNames_printed_eq_self_iff {names : List String}
    (listable : ∀ name ∈ names, Listable name) :
    readNames (printed names) = names ↔ ∀ name ∈ names, Text.trim name = name := by
  rw [readNames_printed listable]
  exact Text.map_trim_eq_self_iff

end Hypervisor.Virsh

end VirtualLab
