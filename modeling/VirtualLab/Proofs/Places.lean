import Mathlib.Data.List.Basic
import Mathlib.Data.List.Infix
import VirtualLab.FileSystem
import VirtualLab.Text.Split

/-!
# Places

The place a path leads to by its text alone: names go down, two dots go up. A file system that
follows the path ends there or fails, so two paths with different places never meet in a file.
-/

namespace VirtualLab

/-! ## Texts of several parts -/

theorem mapM_map_eq_some_iff {α β : Type} {write : α → β} {read : β → Option α} {items : List α} :
    (items.map write).mapM read = some items ↔ ∀ item ∈ items, read (write item) = some item := by
  induction items with
  | nil => simp
  | cons item items induction =>
    rw [List.map_cons, List.mapM_cons, List.forall_mem_cons, ← induction]
    cases read (write item) <;> cases (items.map write).mapM read <;> simp

namespace Text

/-! ### Pieces -/

variable {isSeparator : Char → Bool}

theorem pieces_ne_nil (text : List Char) : pieces isSeparator text ≠ [] := by
  cases text with
  | nil => simp [pieces]
  | cons character rest =>
      simp only [pieces]
      split
      · simp
      · split <;> simp

theorem pieces_append_separator {separator : Char} (holds : isSeparator separator = true)
    (left right : List Char) :
    pieces isSeparator (left ++ separator :: right) =
      pieces isSeparator left ++ pieces isSeparator right := by
  induction left with
  | nil => simp [pieces, holds]
  | cons character rest induction =>
      by_cases separates : isSeparator character = true
      · simp [pieces, separates, induction]
      · simp only [List.cons_append, pieces, separates, induction]
        cases equal : pieces isSeparator rest with
        | nil => exact absurd equal (pieces_ne_nil rest)
        | cons first others => rfl

theorem pieces_append {right : List Char}
    (plain : ∀ character ∈ right, isSeparator character = false) (left : List Char) :
    pieces isSeparator (left ++ right) =
      (pieces isSeparator left).dropLast ++ [(pieces isSeparator left).getLastD [] ++ right] := by
  induction left with
  | nil =>
      induction right with
      | nil => rfl
      | cons character rest induction =>
          have parts := List.forall_mem_cons.mp plain
          have restPieces : pieces isSeparator rest = [rest] := by
            simpa [pieces] using induction parts.2
          simp [pieces, parts.1, restPieces]
  | cons character rest induction =>
      by_cases separates : isSeparator character = true
      · cases equal : pieces isSeparator rest with
        | nil => exact absurd equal (pieces_ne_nil rest)
        | cons first others =>
            rw [equal] at induction
            simp [pieces, separates, induction, equal]
      · cases equal : pieces isSeparator rest with
        | nil => exact absurd equal (pieces_ne_nil rest)
        | cons first others =>
            rw [equal] at induction
            cases others <;> simp [pieces, separates, induction, equal]

theorem no_separator_of_notMem {separator : Char} {text : List Char}
    (absent : separator ∉ text) : ∀ character ∈ text, (character == separator) = false := by
  intro character member
  exact beq_false_of_ne fun equal => absent (equal ▸ member)

theorem pieces_of_plain {text : List Char}
    (plain : ∀ character ∈ text, isSeparator character = false) :
    pieces isSeparator text = [text] := by
  simpa [pieces] using pieces_append plain []

/-! ### Marks in texts -/

section Marks

variable {first : Char} {mark text left right : List Char}

theorem splitFirst_of_not_infix (absent : ¬ first :: mark <:+: text) :
    splitFirst (first :: mark) text = none := by
  induction text with
  | nil => rfl
  | cons character rest induction =>
    obtain ⟨notHere, notLater⟩ := not_or.mp (List.infix_cons_iff.not.mp absent)
    have notPrefix : ¬ (first :: mark).isPrefixOf (character :: rest) :=
      fun starts => notHere (List.isPrefixOf_iff_prefix.mp starts)
    rw [splitFirst, if_neg notPrefix, induction notLater]
    rfl

theorem prefix_of_prefix_append (absent : first ∉ text) (starts : text <+: left ++ first :: right) :
    text <+: left := by
  rcases Nat.lt_or_ge left.length text.length with long | short
  · have beyond : left ++ [first] <+: left ++ first :: right :=
      (List.prefix_append_right_inj left).mpr (List.prefix_append [first] right)
    have begun : left ++ [first] <+: text :=
      List.prefix_of_prefix_length_le beyond starts (by rw [List.length_append]; exact long)
    exact absurd (begun.subset (List.mem_append_right _ List.mem_cons_self)) absent
  · exact List.prefix_of_prefix_length_le starts (List.prefix_append _ _) short

/-- A mark whose first character is not repeated is found after a text that does not hold it. -/
theorem splitFirst_at_mark (once : first ∉ mark) (absent : ¬ first :: mark <:+: left) :
    splitFirst (first :: mark) (left ++ first :: (mark ++ right)) = some (left, right) := by
  induction left with
  | nil =>
    have starts : (first :: mark).isPrefixOf (first :: (mark ++ right)) :=
      List.isPrefixOf_iff_prefix.mpr (List.prefix_append (first :: mark) right)
    rw [List.nil_append, splitFirst, if_pos starts]
    simp
  | cons character rest induction =>
    obtain ⟨notHere, notLater⟩ := not_or.mp (List.infix_cons_iff.not.mp absent)
    have notPrefix : ¬ (first :: mark).isPrefixOf
        (character :: (rest ++ first :: (mark ++ right))) := by
      intro starts
      obtain ⟨rfl, marked⟩ := List.cons_prefix_cons.mp (List.isPrefixOf_iff_prefix.mp starts)
      exact notHere (List.cons_prefix_cons.mpr ⟨rfl, prefix_of_prefix_append once marked⟩)
    rw [List.cons_append, splitFirst, if_neg notPrefix, induction notLater]
    rfl

theorem append_of_splitFirst (cut : splitFirst mark text = some (left, right)) :
    text = left ++ mark ++ right := by
  induction text generalizing left with
  | nil =>
    rw [splitFirst] at cut
    split at cut
    · rename_i empty
      cases cut
      rw [List.isEmpty_iff.mp empty]
      rfl
    · cases cut
  | cons character rest induction =>
    rw [splitFirst] at cut
    split at cut
    · rename_i starts
      cases cut
      exact (List.prefix_iff_eq_append.mp (List.isPrefixOf_iff_prefix.mp starts)).symm
    · obtain ⟨⟨earlier, later⟩, found, equal⟩ := Option.map_eq_some_iff.mp cut
      cases equal
      rw [induction found]
      rfl

/-- A mark cannot begin where its first character does not occur. -/
theorem not_infix_append (plain : first ∉ left) (absent : ¬ first :: mark <:+: right) :
    ¬ first :: mark <:+: left ++ right := by
  induction left with
  | nil => exact absent
  | cons character rest induction =>
    obtain ⟨different, plainRest⟩ := List.ne_and_not_mem_of_not_mem_cons plain
    rw [List.cons_append, List.infix_cons_iff, List.cons_prefix_cons]
    rintro (⟨equal, _⟩ | later)
    · exact different equal
    · exact induction plainRest later

end Marks

end Text

/-! ## Places -/

namespace Path

def step (here : Location) (name : String) : Location :=
  if name = ".." then here.dropLast else here ++ [name]

def walk (here : Location) (names : List String) : Location := names.foldl step here

def origin (working : Location) (path : Path) : Location :=
  if path.isAbsolute then [] else working

def place (working : Location) (path : Path) : Location := walk (path.origin working) path.names

@[simp] theorem walk_append (here : Location) (names more : List String) :
    walk here (names ++ more) = walk (walk here names) more :=
  List.foldl_append

theorem step_injective (here : Location) : Function.Injective (step here) := by
  have up_ne_down : ∀ name, here.dropLast ≠ here ++ [name] := fun name equal => by
    have lengths := congrArg List.length equal
    simp only [List.length_dropLast, List.length_append, List.length_singleton] at lengths
    omega
  intro first second equal
  by_cases firstUp : first = ".." <;> by_cases secondUp : second = ".."
  · rw [firstUp, secondUp]
  · simp only [step, firstUp, secondUp, if_true, if_false] at equal
    exact absurd equal (up_ne_down second)
  · simp only [step, firstUp, secondUp, if_true, if_false] at equal
    exact absurd equal.symm (up_ne_down first)
  · simp only [step, firstUp, secondUp, if_false] at equal
    simpa using equal

def passed (here : Location) : List String → List Location
  | [] => []
  | name :: rest => here :: passed (step here name) rest

def passes (working : Location) (path : Path) : List Location :=
  passed (path.origin working) path.names

theorem passed_append (here : Location) (names more : List String) :
    passed here (names ++ more) = passed here names ++ passed (walk here names) more := by
  induction names generalizing here with
  | nil => rfl
  | cons name rest induction => exact congrArg (here :: ·) (induction (step here name))

/-- Names without two dots only lead down. -/
theorem walk_of_descending {names : List String} (descending : ".." ∉ names) (here : Location) :
    walk here names = here ++ names := by
  induction names generalizing here with
  | nil => simp [walk]
  | cons name rest induction =>
      have parts := List.ne_and_not_mem_of_not_mem_cons descending
      change walk (step here name) rest = _
      rw [induction parts.2, step, if_neg (Ne.symm parts.1)]
      simp

theorem prefix_of_mem_passed {names : List String} (descending : ".." ∉ names)
    {here location : Location} (member : location ∈ passed here names) :
    location <+: walk here names := by
  induction names generalizing here with
  | nil => cases member
  | cons name rest induction =>
      have parts := List.ne_and_not_mem_of_not_mem_cons descending
      rcases List.mem_cons.mp member with rfl | later
      · rw [walk_of_descending descending]
        exact List.prefix_append _ _
      · exact induction parts.2 later

/-! ## The segments of joined and longer paths -/

theorem segments_append_slash (left right : List Char) :
    segments (left ++ '/' :: right) = segments left ++ segments right :=
  Text.pieces_append_separator rfl left right

theorem segments_append {right : List Char} (plain : '/' ∉ right) (left : List Char) :
    segments (left ++ right) =
      (segments left).dropLast ++ [(segments left).getLastD [] ++ right] :=
  Text.pieces_append (Text.no_separator_of_notMem plain) left

theorem segments_of_plain {text : List Char} (plain : '/' ∉ text) : segments text = [text] :=
  Text.pieces_of_plain (Text.no_separator_of_notMem plain)

theorem relative_of_plain {part : String} (plain : '/' ∉ part.toList) :
    part.toList.head? ≠ some '/' :=
  fun first => plain (List.mem_of_head? first)

/-- The text of a path joined with a relative part: the part alone, or the part after a slash. The
slash may be the last character of the base. -/
theorem join_text (base : Path) {part : String} (relative : part.toList.head? ≠ some '/') :
    (base.text.toList = [] ∧ (base.join part).text.toList = part.toList) ∨
      ∃ front, (base.text.toList = front ∨ base.text.toList = front ++ ['/']) ∧
        base.text.toList ≠ [] ∧ (base.join part).text.toList = front ++ '/' :: part.toList := by
  unfold join
  rw [if_neg relative]
  cases content : base.text.toList with
  | nil => exact .inl ⟨rfl, by simp [String.toList_append, content]⟩
  | cons first rest =>
      right
      by_cases ends : (first :: rest).getLast? = some '/'
      · obtain ⟨front, equal⟩ := List.getLast?_eq_some_iff.mp ends
        exact ⟨front, .inr equal, by simp, by simp [String.toList_append, content, equal]⟩
      · exact ⟨first :: rest, .inl rfl, by simp, by simp [ends, String.toList_append, content]⟩

theorem isAbsolute_join {base : Path} {part : String} (relative : part.toList.head? ≠ some '/') :
    (base.join part).isAbsolute = base.isAbsolute := by
  rcases join_text base relative with ⟨empty, joined⟩ | ⟨front, form, nonempty, joined⟩
  · simp [isAbsolute, empty, joined, relative]
  · rcases form with form | form <;> rw [form] at nonempty <;>
      cases front <;> simp_all [isAbsolute]

theorem names_of_front {path : Path} {front : List Char}
    (form : path.text.toList = front ∨ path.text.toList = front ++ ['/']) :
    path.names = names ⟨String.ofList front⟩ := by
  rcases form with form | form
  · simp [names, form]
  · rw [names, form, segments_append_slash]
    simp [names, segments, Text.pieces, isTrivial]

theorem names_join {base : Path} {part : String} (relative : part.toList.head? ≠ some '/') :
    (base.join part).names = base.names ++ names ⟨part⟩ := by
  rcases join_text base relative with ⟨empty, joined⟩ | ⟨front, form, _, joined⟩
  · simp [names, empty, joined, segments, Text.pieces, isTrivial]
  · rw [names_of_front form, names, joined, segments_append_slash]
    simp [names]

/-- A relative part leads on from where its base leads. -/
theorem place_join (working : Location) {base : Path} {part : String}
    (relative : part.toList.head? ≠ some '/') :
    (base.join part).place working = walk (base.place working) (names ⟨part⟩) := by
  simp [place, origin, isAbsolute_join relative, names_join relative]

def IsName (text : String) : Prop := text ≠ "" ∧ text ≠ "." ∧ text ≠ ".." ∧ '/' ∉ text.toList

theorem names_of_isName {text : String} (isName : IsName text) : names ⟨text⟩ = [text] := by
  obtain ⟨nonempty, notDot, _, plain⟩ := isName
  have notTrivial : isTrivial text.toList = false := by
    have notEmptyList : text.toList ≠ [] := fun equal =>
      nonempty (String.toList_eq_nil_iff.mp equal)
    have notDotList : text.toList ≠ ['.'] := fun equal =>
      notDot (String.toList_injective (equal.trans rfl))
    simp [isTrivial, notEmptyList, notDotList]
  simp [names, segments_of_plain plain, notTrivial]

theorem place_join_of_isName (working : Location) (base : Path) {text : String}
    (isName : IsName text) : (base.join text).place working = base.place working ++ [text] := by
  rw [place_join working (relative_of_plain isName.2.2.2), names_of_isName isName]
  simp [walk, step, isName.2.2.1]

theorem passes_join_of_isName (working : Location) (base : Path) {text : String}
    (isName : IsName text) :
    (base.join text).passes working = base.passes working ++ [base.place working] := by
  have relative := relative_of_plain isName.2.2.2
  rw [passes, names_join relative, names_of_isName isName, passed_append, origin,
    isAbsolute_join relative]
  rfl

theorem join_inj_of_relative {base : Path} {first second : String}
    (relative : first.toList.head? ≠ some '/') (otherRelative : second.toList.head? ≠ some '/')
    (equal : base.join first = base.join second) : first = second := by
  unfold join at equal
  rw [if_neg relative, if_neg otherRelative] at equal
  split at equal
  · exact (String.append_right_inj _).mp (congrArg text equal)
  · exact (String.append_right_inj _).mp (congrArg text equal)

theorem join_inj_of_isName {base : Path} {first second : String} (isName : IsName first)
    (otherIsName : IsName second) (equal : base.join first = base.join second) :
    first = second :=
  join_inj_of_relative (relative_of_plain isName.2.2.2) (relative_of_plain otherIsName.2.2.2) equal

def lastName (path : Path) : String := String.ofList ((segments path.text.toList).getLastD [])

def earlierNames (path : Path) : List String :=
  ((segments path.text.toList).dropLast.filter fun segment => !isTrivial segment).map String.ofList

private theorem segments_eq (text : List Char) :
    segments text = (segments text).dropLast ++ [(segments text).getLastD []] := by
  have nonempty : segments text ≠ [] := Text.pieces_ne_nil text
  rw [List.getLastD_eq_getLast?, List.getLast?_eq_some_getLast nonempty]
  exact (List.dropLast_append_getLast nonempty).symm

/-- A path that may mean a file has its last segment as its last name. -/
theorem names_eq {path : Path} (file : FileSystem.meansDirectory path = false) :
    path.names = path.earlierNames ++ [path.lastName] := by
  have nontrivialLast : isTrivial ((segments path.text.toList).getLastD []) = false := by
    rw [FileSystem.meansDirectory, segments_eq path.text.toList] at file
    simpa using file
  rw [names, segments_eq path.text.toList, List.filter_append]
  simp only [List.filter_cons, nontrivialLast, Bool.not_false, if_true, List.filter_nil,
    List.map_append]
  rfl

theorem lastName_withSuffix {path : Path} {suffix : String} (plain : '/' ∉ suffix.toList) :
    (path.withSuffix suffix).lastName = path.lastName ++ suffix := by
  simp [lastName, withSuffix, String.toList_append, segments_append plain]

theorem earlierNames_withSuffix {path : Path} {suffix : String} (plain : '/' ∉ suffix.toList) :
    (path.withSuffix suffix).earlierNames = path.earlierNames := by
  simp [earlierNames, withSuffix, String.toList_append, segments_append plain]

end Path

/-! ## Following paths -/

namespace FileSystem

theorem follow_eq_walk {files : FileSystem} {here location : Location} {names : List String}
    (followed : files.follow here names = .ok location) : location = Path.walk here names := by
  fun_induction follow files here names with
  | case1 here =>
      cases followed
      rfl
  | case2 => cases followed
  | case3 => cases followed
  | case4 here rest _ induction => exact induction followed
  | case5 => cases followed
  | case6 here name rest _ notUp _ induction =>
      rw [induction followed]
      simp [Path.walk, Path.step, notUp]

theorem locate_eq_place {files : FileSystem} {path : Path} {location : Location}
    (located : files.locate path = .ok location) :
    location = path.place files.workingDirectory := by
  unfold locate at located
  split at located
  · cases located
  · split at located
    · cases located
    · split at located
      · cases located
      · exact follow_eq_walk located

/-- The location of the file that a path means, whether or not it is there; none for a path that
cannot be followed or can only mean a directory. -/
def fileLocation? (files : FileSystem) (path : Path) : Option Location :=
  if meansDirectory path then none else (files.locate path).toOption

theorem fileLocation?_eq_some {files : FileSystem} {path : Path} {location : Location} :
    files.fileLocation? path = some location ↔
      meansDirectory path = false ∧ files.locate path = .ok location := by
  unfold fileLocation?
  cases meansDirectory path <;> cases files.locate path <;> simp [Except.toOption]

theorem eq_step_of_fileLocation? {files : FileSystem} {path : Path} {location : Location}
    (found : files.fileLocation? path = some location) :
    location = Path.step
      (Path.walk (path.origin files.workingDirectory) path.earlierNames) path.lastName := by
  obtain ⟨file, located⟩ := fileLocation?_eq_some.mp found
  rw [locate_eq_place located, Path.place, Path.names_eq file]
  simp [Path.walk]

end FileSystem

namespace Path

def Apart (first second : Path) : Prop :=
  ∀ (files : FileSystem) (location : Location),
    files.fileLocation? first = some location → files.fileLocation? second ≠ some location

theorem Apart.symm {first second : Path} (apart : first.Apart second) : second.Apart first :=
  fun files location found other => apart files location other found

/-- Paths whose last names differ are apart, unless a last name is two dots. -/
theorem apart_of_lastName_ne {first second : Path} (firstPlain : first.lastName ≠ "..")
    (secondPlain : second.lastName ≠ "..") (different : first.lastName ≠ second.lastName) :
    first.Apart second := by
  intro files location found other
  have equal := (FileSystem.eq_step_of_fileLocation? found).symm.trans
    (FileSystem.eq_step_of_fileLocation? other)
  simp only [step, firstPlain, secondPlain, if_false] at equal
  exact different (List.append_inj_right' equal rfl |> List.singleton_inj.mp)

/-- Paths that differ in their last names only are apart, whatever these are. -/
theorem apart_of_siblings {first second : Path} (absolute : first.isAbsolute = second.isAbsolute)
    (earlier : first.earlierNames = second.earlierNames)
    (different : first.lastName ≠ second.lastName) : first.Apart second := by
  intro files location found other
  have equal := (FileSystem.eq_step_of_fileLocation? found).symm.trans
    (FileSystem.eq_step_of_fileLocation? other)
  rw [origin, origin, absolute, earlier] at equal
  exact different (step_injective _ equal)

theorem apart_withSuffix (path : Path) {suffix : String} (plain : '/' ∉ suffix.toList)
    (nonempty : suffix ≠ "") : path.Apart (path.withSuffix suffix) := by
  refine apart_of_siblings ?_ (earlierNames_withSuffix plain).symm ?_
  · have relative := relative_of_plain plain
    cases equal : path.text.toList <;>
      simp [isAbsolute, withSuffix, String.toList_append, equal, relative]
  · rw [lastName_withSuffix plain]
    intro equal
    have lengths := congrArg String.length equal
    rw [String.length_append] at lengths
    have empty : suffix.length = 0 := by omega
    exact nonempty (String.length_eq_zero_iff.mp empty)

theorem lastName_join {base : Path} {part : String} (plain : '/' ∉ part.toList) :
    (base.join part).lastName = part ∧ (base.join part).earlierNames = base.names := by
  rcases join_text base (relative_of_plain plain) with ⟨empty, joined⟩ | ⟨front, form, _, joined⟩
  · have whole : segments part.toList = [part.toList] := segments_of_plain plain
    simp [lastName, earlierNames, names, empty, joined, whole, segments_of_plain, isTrivial]
  · have parts : segments (front ++ '/' :: part.toList) = segments front ++ [part.toList] := by
      rw [segments_append_slash, segments_of_plain plain]
    rw [names_of_front form]
    simp [lastName, earlierNames, names, joined, parts]

/-- Two plain names in one directory mean two files. -/
theorem join_apart_join (base : Path) {first second : String} (plain : '/' ∉ first.toList)
    (otherPlain : '/' ∉ second.toList) (different : first ≠ second) :
    (base.join first).Apart (base.join second) := by
  refine apart_of_siblings ?_ ?_ ?_
  · rw [isAbsolute_join (relative_of_plain plain), isAbsolute_join (relative_of_plain otherPlain)]
  · rw [(lastName_join plain).2, (lastName_join otherPlain).2]
  · rwa [(lastName_join plain).1, (lastName_join otherPlain).1]

theorem join_withSuffix (base : Path) (part : String) {suffix : String}
    (plain : '/' ∉ suffix.toList) :
    (base.join part).withSuffix suffix = base.join (part ++ suffix) := by
  have absolute : (part ++ suffix).toList.head? = some '/' ↔ part.toList.head? = some '/' := by
    rw [String.toList_append, List.head?_append]
    cases part.toList.head? with
    | none => simpa using relative_of_plain plain
    | some first => simp
  unfold join
  simp only [absolute]
  split
  · rfl
  · split <;> simp [withSuffix, String.append_assoc]

end Path

end VirtualLab
