import Mathlib.Data.List.Induction
import VirtualLab.Proofs.Places

/-!
# Parents

The parent of a path has all its names but the last and starts from the same place, so all that is
passed on the way to it is passed on the way to the path.
-/

namespace VirtualLab

namespace Path

/-! ## Segments and names -/

theorem plain_of_mem_segments {text part : List Char} (member : part ∈ segments text) :
    '/' ∉ part := by
  unfold segments at member
  induction text generalizing part with
  | nil =>
      rw [List.mem_singleton.mp member]
      exact List.not_mem_nil
  | cons character rest induction =>
      rw [Text.pieces] at member
      split at member
      · rcases List.mem_cons.mp member with rfl | later
        · exact List.not_mem_nil
        · exact induction later
      · rename_i other
        have differs : '/' ≠ character := fun same => other (by simp [← same])
        split at member
        · rw [List.mem_singleton.mp member]
          simpa using differs
        · rename_i first others equal
          rw [equal] at induction
          rcases List.mem_cons.mp member with rfl | later
          · simpa using ⟨differs, induction List.mem_cons_self⟩
          · exact induction (List.mem_cons_of_mem _ later)

theorem segments_joined {parts : List (List Char)} (nonempty : parts ≠ [])
    (plain : ∀ part ∈ parts, '/' ∉ part) :
    segments (['/'].intercalate parts) = parts := by
  induction parts with
  | nil => exact absurd rfl nonempty
  | cons part rest induction =>
      obtain ⟨first, others⟩ := List.forall_mem_cons.mp plain
      cases rest with
      | nil => simpa [List.intercalate] using segments_of_plain first
      | cons next more =>
          have joined : ['/'].intercalate (part :: next :: more) =
              part ++ '/' :: ['/'].intercalate (next :: more) := by
            simp [List.intercalate]
          rw [joined, segments_append_slash, segments_of_plain first,
            induction (by simp) others]
          rfl

def nontrivial (parts : List (List Char)) : List (List Char) :=
  parts.filter fun segment => !isTrivial segment

theorem nontrivial_joined {parts : List (List Char)} (plain : ∀ part ∈ parts, '/' ∉ part) :
    nontrivial (segments (['/'].intercalate parts)) = nontrivial parts := by
  cases parts with
  | nil => rfl
  | cons part rest => rw [segments_joined (by simp) plain]

@[simp] theorem nontrivial_nil_cons (parts : List (List Char)) :
    nontrivial ([] :: parts) = nontrivial parts := rfl

theorem names_eq_nontrivial (path : Path) :
    path.names = (nontrivial path.rootAndSegments.2).map String.ofList := by
  unfold names rootAndSegments
  split
  · rename_i rest text
    rw [text]
    rfl
  · rename_i text
    rw [text]
    rfl
  · rename_i rest text
    rw [text, show ('.' :: '/' :: rest) = ['.'] ++ '/' :: rest from rfl, segments_append_slash]
    rfl
  · rfl

/-! ## Dropping the last name -/

theorem dropTrivialEnd_eq (parts : List (List Char)) :
    dropTrivialEnd parts = [] ∧ nontrivial parts = [] ∨
      ∃ earlier last, dropTrivialEnd parts = earlier ++ [last] ∧ isTrivial last = false ∧
        nontrivial parts = nontrivial earlier ++ [last] ∧ earlier ++ [last] <+: parts := by
  induction parts using List.reverseRecOn with
  | nil => exact .inl ⟨rfl, rfl⟩
  | append_singleton parts last induction =>
      cases trivially : isTrivial last with
      | true =>
          have dropped : dropTrivialEnd (parts ++ [last]) = dropTrivialEnd parts := by
            simp [dropTrivialEnd, trivially]
          have kept : nontrivial (parts ++ [last]) = nontrivial parts := by
            simp [nontrivial, trivially]
          rw [dropped, kept]
          rcases induction with none | ⟨earlier, name, whole, named, names, within⟩
          · exact .inl none
          · exact .inr ⟨earlier, name, whole, named, names, within.trans (List.prefix_append _ _)⟩
      | false =>
          refine .inr ⟨parts, last, ?_, trivially, ?_, List.prefix_rfl⟩
          · simp [dropTrivialEnd, trivially]
          · simp [nontrivial, trivially]

theorem nontrivial_dropTrivialEnd (parts : List (List Char)) :
    nontrivial (dropTrivialEnd parts) = nontrivial parts := by
  rcases dropTrivialEnd_eq parts with ⟨none, names⟩ | ⟨earlier, last, whole, named, names, _⟩
  · rw [none, names]
    rfl
  · rw [whole, names]
    simp [nontrivial, named]

theorem toList_ofRootAndSegments (root : String) (parts : List (List Char)) :
    (ofRootAndSegments root parts).text.toList =
      root.toList ++ ['/'].intercalate parts := by
  simp [ofRootAndSegments, Text.joined, String.toList_append, String.toList_intercalate,
    Function.comp_def]

theorem nontrivial_cons_dot {parts : List (List Char)} (begins : parts.head? ≠ none →
    parts.head? = some []) (plain : ∀ part ∈ parts, '/' ∉ part) :
    nontrivial (segments ('.' :: ['/'].intercalate parts)) = nontrivial parts := by
  cases parts with
  | nil => rfl
  | cons first more =>
      cases Option.some_inj.mp (begins (by simp))
      cases more with
      | nil => rfl
      | cons next rest =>
          have joined : ['/'].intercalate ([] :: next :: rest) =
              '/' :: ['/'].intercalate (next :: rest) := by
            simp [List.intercalate]
          have others := (List.forall_mem_cons.mp plain).2
          rw [joined, show ∀ text : List Char, '.' :: '/' :: text = ['.'] ++ '/' :: text from
            fun _ => rfl, segments_append_slash, nontrivial_nil_cons,
            ← nontrivial_joined others]
          rfl

theorem names_ofRootAndSegments {path : Path} {parts : List (List Char)}
    (within : parts <+: path.rootAndSegments.2) :
    (ofRootAndSegments path.rootAndSegments.1 parts).names =
      (nontrivial parts).map String.ofList := by
  change (nontrivial (segments _)).map String.ofList = _
  rw [toList_ofRootAndSegments]
  congr 1
  unfold rootAndSegments at within ⊢
  split at within
  · have plain : ∀ part ∈ parts, '/' ∉ part := fun part member =>
      plain_of_mem_segments (within.subset member)
    dsimp only
    rw [show "/".toList = ['/'] by decide]
    exact nontrivial_joined plain
  · cases List.prefix_nil.mp within
    rfl
  · have plain : ∀ part ∈ parts, '/' ∉ part := fun part member =>
      plain_of_mem_segments (within.subset member)
    dsimp only
    rw [show ".".toList = ['.'] by decide]
    refine nontrivial_cons_dot (fun nonempty => ?_) plain
    cases parts with
    | nil => simp at nonempty
    | cons first more =>
        obtain ⟨rest, equal⟩ := within
        have head := congrArg List.head? equal
        simpa [segments, Text.pieces] using head
  · have plain : ∀ part ∈ parts, '/' ∉ part := fun part member =>
      plain_of_mem_segments (within.subset member)
    exact nontrivial_joined plain

theorem head?_of_segments_nil {text : List Char} {more : List (List Char)}
    (equal : segments text = [] :: more) : text = [] ∧ more = [] ∨ text.head? = some '/' := by
  cases text with
  | nil =>
      left
      simpa [segments, Text.pieces, eq_comm] using equal
  | cons character rest =>
      unfold segments at equal
      rw [Text.pieces] at equal
      split at equal
      · rename_i slash
        simpa using slash
      · split at equal <;> simp at equal

theorem isAbsolute_ofRootAndSegments {path : Path} {parts : List (List Char)}
    (within : parts <+: path.rootAndSegments.2) :
    (ofRootAndSegments path.rootAndSegments.1 parts).isAbsolute = path.isAbsolute := by
  unfold isAbsolute
  rw [toList_ofRootAndSegments]
  unfold rootAndSegments at within ⊢
  split at within
  · rename_i text
    simp [text]
  · rename_i text
    simp [text]
  · rename_i text
    simp [text]
  · rename_i notSlash _ _
    have relative : path.text.toList.head? ≠ some '/' := by
      intro slash
      obtain ⟨rest, equal⟩ := List.head?_eq_some_iff.mp slash
      exact notSlash rest equal
    have begins : (['/'].intercalate parts).head? ≠ some '/' := by
      cases parts with
      | nil => simp [List.intercalate]
      | cons first more =>
          cases first with
          | nil =>
              obtain ⟨rest, equal⟩ := within
              rcases head?_of_segments_nil equal.symm with ⟨_, none⟩ | slash
              · have alone : more = [] := (List.append_eq_nil_iff.mp none).1
                simp [alone, List.intercalate]
              · exact absurd slash relative
          | cons character others =>
              have plain := plain_of_mem_segments (within.subset List.mem_cons_self)
              have differs : character ≠ '/' := fun same => plain (by simp [same])
              cases more <;> simpa [List.intercalate] using differs
    simp only [String.toList_empty, List.nil_append]
    rw [Bool.eq_iff_iff]
    simp [begins, relative]

/-- A parent has all names but the last, and starts where the path does. -/
theorem parent_eq_some {path directory : Path} (above : path.parent = some directory) :
    directory.names = path.names.dropLast ∧ directory.isAbsolute = path.isAbsolute := by
  rw [names_eq_nontrivial path]
  unfold parent at above
  dsimp only at above
  rcases dropTrivialEnd_eq path.rootAndSegments.2 with
    ⟨none, names⟩ | ⟨earlier, last, whole, named, names, within⟩
  · rw [none] at above
    rw [names]
    simp only [List.reverse_nil] at above
    split at above
    · rename_i dot
      cases above
      refine ⟨rfl, ?_⟩
      unfold rootAndSegments at dot
      split at dot
      · simp at dot
      · rename_i text
        simp [isAbsolute, text]
      · rename_i text
        simp [isAbsolute, text]
      · simp at dot
    · cases above
  · rw [whole] at above
    simp only [List.reverse_append, List.reverse_cons, List.reverse_nil, List.nil_append,
      List.cons_append, List.reverse_reverse] at above
    cases above
    have start : dropTrivialEnd earlier <+: path.rootAndSegments.2 := by
      refine List.IsPrefix.trans ?_ ((List.prefix_append _ _).trans within)
      rw [dropTrivialEnd, ← List.reverse_suffix, List.reverse_reverse]
      exact List.dropWhile_suffix _
    rw [names_ofRootAndSegments start, isAbsolute_ofRootAndSegments start,
      nontrivial_dropTrivialEnd, names]
    simp

theorem exists_parent {path : Path} (named : path.names ≠ []) :
    ∃ directory, path.parent = some directory := by
  rw [names_eq_nontrivial] at named
  unfold parent
  rcases dropTrivialEnd_eq path.rootAndSegments.2 with ⟨_, none⟩ | ⟨earlier, last, whole, _⟩
  · rw [none] at named
    exact absurd rfl named
  · simp [whole]

/-! ## Places on the way -/

/-- The places on the way a path leads, with where it leads. -/
def stops (working : Location) (path : Path) : List Location :=
  path.passes working ++ [path.place working]

theorem place_mem_stops (working : Location) (path : Path) :
    path.place working ∈ path.stops working :=
  List.mem_append_right _ (List.mem_singleton.mpr rfl)

theorem mem_stops_of_mem_passes {working place : Location} {path : Path}
    (passed : place ∈ path.passes working) : place ∈ path.stops working :=
  List.mem_append_left _ passed

/-- The stops on the way to a parent are what is passed on the way to the path. -/
theorem stops_parent {path directory : Path} (above : path.parent = some directory)
    (named : path.names ≠ []) (working : Location) :
    directory.stops working = path.passes working := by
  obtain ⟨names, absolute⟩ := parent_eq_some above
  have whole : path.names = directory.names ++ [path.names.getLast named] := by
    rw [names, List.dropLast_append_getLast]
  rw [stops, passes, place, origin, absolute, passes, whole, passed_append]
  rfl

theorem stops_subset_of_parent {path directory : Path} (above : path.parent = some directory)
    (working : Location) : directory.stops working ⊆ path.stops working := by
  by_cases named : path.names = []
  · obtain ⟨names, absolute⟩ := parent_eq_some above
    rw [named] at names
    rw [stops, stops, passes, passes, place, place, origin, origin, absolute, names, named]
    exact List.Subset.refl _
  · rw [stops_parent above named]
    exact List.subset_append_left _ _

end Path

end VirtualLab
