import Mathlib.Data.Nat.Find
import VirtualLab.Proofs.FileNames
import VirtualLab.Proofs.SignedChecksum

/-!
# Checksum files by release

A Debian image's file name carries its release: `debian-`, in any letter case, with digits right
behind it. Only the first place where that mark stands is looked at. So a name in which digits
follow a later mark, but not the first, gives its checksum file no release, and two such images of
different releases share one.
-/

namespace VirtualLab

/-! ## The first place of a mark -/

namespace Text

variable {mark text : List Char} {place : Nat}

theorem splitFirst_of_first (here : mark <+: text.drop place)
    (first : ∀ earlier < place, ¬ mark <+: text.drop earlier) :
    splitFirst mark text = some (text.take place, text.drop (place + mark.length)) := by
  induction text generalizing place with
  | nil =>
    rw [List.drop_nil] at here
    have empty : mark = [] := List.prefix_nil.mp here
    rw [splitFirst, empty, if_pos List.isEmpty_nil, List.take_nil, List.drop_nil]
  | cons character rest induction =>
    cases place with
    | zero =>
      have starts : mark.isPrefixOf (character :: rest) := List.isPrefixOf_iff_prefix.mpr here
      rw [splitFirst, if_pos starts, Nat.zero_add]
      rfl
    | succ place =>
      have notHere : ¬ mark.isPrefixOf (character :: rest) := fun starts =>
        first 0 (Nat.zero_lt_succ place) (List.isPrefixOf_iff_prefix.mp starts)
      have later := induction here fun earlier before =>
        first (earlier + 1) (Nat.succ_lt_succ before)
      rw [splitFirst, if_neg notHere, later, Nat.succ_add_eq_add_succ]
      rfl

theorem prefix_drop_of_splitFirst {left right : List Char}
    (cut : splitFirst mark text = some (left, right)) : mark <+: text.drop left.length := by
  rw [append_of_splitFirst cut, List.append_assoc, List.drop_left]
  exact List.prefix_append mark right

theorem lower_drop (text : List Char) (place : Nat) :
    lower (text.drop place) = (lower text).drop place :=
  List.map_drop

theorem isDigit_toLower (character : Char) : character.toLower.isDigit = character.isDigit := by
  unfold Char.toLower
  split
  · rename_i upper
    obtain ⟨least, greatest⟩ := upper
    rw [Bool.eq_iff_iff, Char.isDigit_iff_toNat, Char.isDigit_iff_toNat]
    simp only [Char.toNat, UInt32.le_iff_toNat_le, ge_iff_le, UInt32.toNat_add,
      show 'A'.val.toNat = 65 from rfl, show 'Z'.val.toNat = 90 from rfl,
      show '0'.val.toNat = 48 from rfl, show '9'.val.toNat = 57 from rfl,
      show ('a'.val - 'A'.val).toNat = 32 from rfl] at least greatest ⊢
    omega
  · rfl

theorem toLower_of_isDigit {character : Char} (isDigit : character.isDigit = true) :
    character.toLower = character := by
  refine dif_neg fun upper => ?_
  obtain ⟨_, greatest⟩ := Char.isDigit_iff_toNat.mp isDigit
  have least := UInt32.le_iff_toNat_le.mp upper.1
  simp only [Char.toNat, show 'A'.val.toNat = 65 from rfl, show '9'.val.toNat = 57 from rfl]
    at least greatest
  omega

theorem takeWhile_isDigit_lower (text : List Char) :
    (lower text).takeWhile Char.isDigit = text.takeWhile Char.isDigit := by
  have same : Char.isDigit ∘ Char.toLower = Char.isDigit := funext isDigit_toLower
  rw [lower, List.takeWhile_map, same]
  exact (List.map_congr_left fun _ member =>
    toLower_of_isDigit (List.mem_takeWhile_imp member)).trans (List.map_id _)

end Text

/-! ## Releases in file names

The mark may stand at several places of a name. Digits right behind it are a release.
-/

namespace Release

def mark : List Char := "debian-".toList

def IsMarked (file : String) (place : Nat) : Prop := mark <+: Text.lower (file.toList.drop place)

def digitsAt (file : String) (place : Nat) : List Char :=
  (file.toList.drop (place + mark.length)).takeWhile Char.isDigit

structure Carries (file : String) (place : Nat) (release : String) : Prop where
  marked : IsMarked file place
  digits : digitsAt file place = release.toList
  nonempty : release ≠ ""

structure IsFirstMark (file : String) (place : Nat) : Prop where
  marked : IsMarked file place
  first : ∀ earlier < place, ¬ IsMarked file earlier

/-- The release at the leftmost place that carries one. -/
def Leftmost (file release : String) : Prop :=
  ∃ place, Carries file place release ∧ ∀ earlier < place, ∀ other, ¬ Carries file earlier other

/-- The release at the leftmost place that has the mark, if it carries one. -/
def AtFirstMark (file release : String) : Prop :=
  ∃ place, IsFirstMark file place ∧ Carries file place release

/-- A release stands behind a later mark only: no digit follows the first. -/
def Overlooked (file : String) : Prop :=
  (∃ place, IsFirstMark file place ∧ digitsAt file place = []) ∧
    ∃ place release, Carries file place release

variable {file release other : String} {place : Nat}

instance : Decidable (IsMarked file place) := inferInstanceAs (Decidable (_ <+: _))

theorem exists_carries_iff :
    (∃ release, Carries file place release) ↔ IsMarked file place ∧ digitsAt file place ≠ [] := by
  constructor
  · rintro ⟨release, carries⟩
    refine ⟨carries.marked, fun none => carries.nonempty ?_⟩
    exact String.toList_eq_nil_iff.mp (carries.digits.symm.trans none)
  · rintro ⟨marked, some⟩
    refine ⟨String.ofList (digitsAt file place), marked, String.toList_ofList.symm, ?_⟩
    simpa using some

instance : Decidable (Carries file place release) :=
  decidable_of_iff (IsMarked file place ∧ digitsAt file place = release.toList ∧ release ≠ "")
    ⟨fun ⟨marked, digits, nonempty⟩ => ⟨marked, digits, nonempty⟩,
      fun ⟨marked, digits, nonempty⟩ => ⟨marked, digits, nonempty⟩⟩

/-- A release is the leftmost one if no digit follows a mark before it. -/
theorem Carries.leftmost (carries : Carries file place release)
    (none : ∀ earlier < place, IsMarked file earlier → digitsAt file earlier = []) :
    Leftmost file release := by
  refine ⟨place, carries, fun earlier before other others => ?_⟩
  obtain ⟨marked, some⟩ := exists_carries_iff.mp ⟨other, others⟩
  exact some (none earlier before marked)

theorem Carries.unique (carries : Carries file place release) (others : Carries file place other) :
    release = other :=
  String.toList_injective (carries.digits.symm.trans others.digits)

theorem IsFirstMark.unique {second : Nat} (first : IsFirstMark file place)
    (again : IsFirstMark file second) : place = second := by
  rcases Nat.lt_trichotomy place second with before | equal | after
  · exact absurd first.marked (again.first place before)
  · exact equal
  · exact absurd again.marked (first.first second after)

theorem Leftmost.unique (leftmost : Leftmost file release) (again : Leftmost file other) :
    release = other := by
  obtain ⟨place, carries, none⟩ := leftmost
  obtain ⟨second, carriesSecond, noneSecond⟩ := again
  rcases Nat.lt_trichotomy place second with before | rfl | after
  · exact absurd carries (noneSecond place before release)
  · exact carries.unique carriesSecond
  · exact absurd carriesSecond (none second after other)

theorem exists_isFirstMark (marked : IsMarked file place) : ∃ first, IsFirstMark file first :=
  have somewhere : ∃ place, IsMarked file place := ⟨place, marked⟩
  ⟨Nat.find somewhere, Nat.find_spec somewhere, fun _ before => Nat.find_min somewhere before⟩

/-! ## The release that is found -/

theorem isMarked_iff_lower :
    IsMarked file place ↔ mark <+: (Text.lower file.toList).drop place := by
  rw [IsMarked, Text.lower_drop]

theorem debianRelease_eq (file : String) :
    debianRelease file = (Text.splitFirst mark (Text.lower file.toList)).bind fun parts =>
      if (parts.2.takeWhile Char.isDigit).isEmpty then none
      else some (String.ofList (parts.2.takeWhile Char.isDigit)) :=
  rfl

theorem debianRelease_of_isFirstMark (first : IsFirstMark file place) :
    debianRelease file =
      if (digitsAt file place).isEmpty then none
      else some (String.ofList (digitsAt file place)) := by
  have cut := Text.splitFirst_of_first (isMarked_iff_lower.mp first.marked)
    fun earlier before marked => first.first earlier before (isMarked_iff_lower.mpr marked)
  have digits : ((Text.lower file.toList).drop (place + mark.length)).takeWhile Char.isDigit =
      digitsAt file place := by
    rw [← Text.lower_drop, Text.takeWhile_isDigit_lower, digitsAt]
  rw [debianRelease_eq, cut, Option.bind_some, digits]

theorem debianRelease_of_unmarked (unmarked : ∀ place, ¬ IsMarked file place) :
    debianRelease file = none := by
  cases cut : Text.splitFirst mark (Text.lower file.toList) with
  | none =>
    rw [debianRelease_eq, cut, Option.bind_none]
  | some parts =>
    exact absurd (isMarked_iff_lower.mpr (Text.prefix_drop_of_splitFirst cut)) (unmarked _)

/-- Exactly the release behind the first mark is found. -/
theorem debianRelease_eq_some_iff :
    debianRelease file = some release ↔ AtFirstMark file release := by
  constructor
  · intro found
    have marked : ∃ place, IsMarked file place := by
      by_contra none
      rw [debianRelease_of_unmarked fun place marked => none ⟨place, marked⟩] at found
      cases found
    obtain ⟨_, marked⟩ := marked
    obtain ⟨place, first⟩ := exists_isFirstMark marked
    rw [debianRelease_of_isFirstMark first] at found
    split at found
    · cases found
    · rename_i some
      cases found
      refine ⟨place, first, first.marked, String.toList_ofList.symm, ?_⟩
      simpa using some
  · rintro ⟨place, first, carries⟩
    have some : digitsAt file place ≠ [] := (exists_carries_iff.mp ⟨release, carries⟩).2
    rw [debianRelease_of_isFirstMark first, if_neg (by simpa using some), carries.digits,
      String.ofList_toList]

theorem debianRelease_eq_none_iff :
    debianRelease file = none ↔ ∀ release, ¬ AtFirstMark file release := by
  simp only [← debianRelease_eq_some_iff]
  exact Option.eq_none_iff_forall_ne_some

theorem AtFirstMark.leftmost (found : AtFirstMark file release) : Leftmost file release := by
  obtain ⟨place, first, carries⟩ := found
  exact ⟨place, carries, fun earlier before _ others =>
    first.first earlier before others.marked⟩

/-- A release is overlooked exactly if there is a leftmost one and none behind the first mark. -/
theorem overlooked_iff :
    Overlooked file ↔ (∃ release, Leftmost file release) ∧ debianRelease file = none := by
  constructor
  · rintro ⟨⟨place, first, noDigit⟩, carried⟩
    have leftmost : ∃ place, ∃ release, Carries file place release := carried
    classical
    obtain ⟨release, carries⟩ := Nat.find_spec leftmost
    refine ⟨⟨release, Nat.find leftmost, carries, fun earlier before other others =>
      Nat.find_min leftmost before ⟨other, others⟩⟩, ?_⟩
    rw [debianRelease_of_isFirstMark first, noDigit, if_pos List.isEmpty_nil]
  · rintro ⟨⟨release, place, carries, _⟩, notFound⟩
    obtain ⟨firstPlace, first⟩ := exists_isFirstMark carries.marked
    refine ⟨⟨firstPlace, first, ?_⟩, place, release, carries⟩
    rw [debianRelease_of_isFirstMark first] at notFound
    split at notFound
    · rename_i none
      exact List.isEmpty_iff.mp none
    · cases notFound

theorem overlooked_iff_of_leftmost (leftmost : Leftmost file release) :
    Overlooked file ↔ debianRelease file = none := by
  rw [overlooked_iff, and_iff_right ⟨release, leftmost⟩]

theorem leftmost_iff_of_not_overlooked (seen : ¬ Overlooked file) :
    Leftmost file release ↔ AtFirstMark file release := by
  refine ⟨fun leftmost => ?_, AtFirstMark.leftmost⟩
  cases found : debianRelease file with
  | none => exact absurd ((overlooked_iff_of_leftmost leftmost).mpr found) seen
  | some other =>
    have atFirst := debianRelease_eq_some_iff.mp found
    rwa [leftmost.unique atFirst.leftmost]

end Release

/-! ## Where checksum files are kept -/

namespace CloudImage

open Release

variable {directory : Path} {declaration other : ImageDeclaration} {image otherImage : CloudImage}
  {file otherFile base release otherRelease : String}

theorem exists_append_checksumFileName (file base : String) :
    ∃ rest, checksumFileName file base = base ++ rest := by
  unfold checksumFileName
  cases debianRelease file with
  | none => exact ⟨"", String.append_empty.symm⟩
  | some release => exact ⟨".debian" ++ release, String.append_assoc⟩

theorem append_release_ne (base release : String) : base ++ ".debian" ++ release ≠ base := by
  intro equal
  have lengths := congrArg String.length equal
  simp only [String.length_append, show ".debian".length = 7 from rfl] at lengths
  omega

theorem checksumFileName_eq_append_iff :
    checksumFileName file base = base ++ ".debian" ++ release ↔
      debianRelease file = some release := by
  unfold checksumFileName
  cases found : debianRelease file with
  | none => exact iff_of_false (append_release_ne base release).symm (by simp)
  | some found => simp [String.append_right_inj]

theorem checksumFileName_eq_self_iff :
    checksumFileName file base = base ↔ debianRelease file = none := by
  unfold checksumFileName
  cases found : debianRelease file with
  | none => simp
  | some release => exact iff_of_false (append_release_ne base release) (by simp)

theorem checksumFileName_inj_iff :
    checksumFileName file base = checksumFileName otherFile base ↔
      debianRelease file = debianRelease otherFile := by
  cases found : debianRelease otherFile with
  | none => rw [checksumFileName_eq_self_iff.mpr found, checksumFileName_eq_self_iff]
  | some release => rw [checksumFileName_eq_append_iff.mpr found, checksumFileName_eq_append_iff]

/-- An accepted image with its own file name and the name under which its checksum file is
published. -/
structure HasListing (directory : Path) (declaration : ImageDeclaration) (image : CloudImage)
    (file base : String) : Prop where
  resolved : resolveIn directory declaration = .ok image
  named : fileNameOfUrl declaration.imageUrl = some file
  published : declaration.checksumUrl.bind fileNameOfUrl = some base

namespace HasListing

variable (has : HasListing directory declaration image file base)
include has

theorem checksumPath_eq :
    image.checksumPath = some (directory.join (checksumFileName file base)) := by
  obtain ⟨imageFile, named, _, placed, _⟩ := exists_file_of_resolveIn has.resolved
  obtain rfl := Option.some.inj (has.named.symm.trans named)
  rw [placed, has.published, Option.map_some]

theorem relative_append (rest : String) : (base ++ rest).toList.head? ≠ some '/' := by
  obtain ⟨url, _, named⟩ := Option.bind_eq_some_iff.mp has.published
  obtain ⟨nonempty, plain, _⟩ := isUrlPart_of_fileNameOfUrl named
  have notNil : base.toList ≠ [] := fun equal => nonempty (String.toList_eq_nil_iff.mp equal)
  rw [String.toList_append, List.head?_append_of_ne_nil _ notNil]
  exact Path.relative_of_plain plain

theorem checksumPath_eq_iff (rest : String) :
    image.checksumPath = some (directory.join (base ++ rest)) ↔
      checksumFileName file base = base ++ rest := by
  have relative : (checksumFileName file base).toList.head? ≠ some '/' := by
    obtain ⟨longer, equal⟩ := exists_append_checksumFileName file base
    rw [equal]
    exact has.relative_append longer
  rw [has.checksumPath_eq, Option.some_inj]
  exact ⟨Path.join_inj_of_relative relative (has.relative_append rest), congrArg directory.join⟩

theorem checksumPath_eq_release_iff :
    image.checksumPath = some (directory.join (base ++ ".debian" ++ release)) ↔
      AtFirstMark file release := by
  rw [String.append_assoc, has.checksumPath_eq_iff, ← String.append_assoc,
    checksumFileName_eq_append_iff, debianRelease_eq_some_iff]

theorem checksumPath_eq_published_iff :
    image.checksumPath = some (directory.join base) ↔ ∀ release, ¬ AtFirstMark file release := by
  have plain := has.checksumPath_eq_iff ""
  rw [String.append_empty] at plain
  rw [plain, checksumFileName_eq_self_iff, debianRelease_eq_none_iff]

theorem checksumPath_inj_iff (otherHas : HasListing directory other otherImage otherFile base) :
    image.checksumPath = otherImage.checksumPath ↔
      debianRelease file = debianRelease otherFile := by
  obtain ⟨rest, equal⟩ := exists_append_checksumFileName otherFile base
  rw [otherHas.checksumPath_eq, equal, has.checksumPath_eq_iff, ← equal, checksumFileName_inj_iff]

end HasListing

/-- The name of a checksum file is made longer by the release behind the first mark in its image's
file name, and only by that. So it is made longer by the leftmost release exactly if that is not
overlooked, and images of different releases whose checksum files are published under one name
share the file exactly if both releases are overlooked. -/
theorem listings_by_release (has : HasListing directory declaration image file base) :
    (∀ release, image.checksumPath = some (directory.join (base ++ ".debian" ++ release)) ↔
      AtFirstMark file release) ∧
    (image.checksumPath = some (directory.join base) ↔ ∀ release, ¬ AtFirstMark file release) ∧
    ((∀ release, image.checksumPath = some (directory.join (base ++ ".debian" ++ release)) ↔
      Leftmost file release) ↔ ¬ Overlooked file) ∧
    ∀ {other otherImage otherFile},
      HasListing directory other otherImage otherFile base →
      ∀ {release otherRelease}, Leftmost file release → Leftmost otherFile otherRelease →
        release ≠ otherRelease →
        (image.checksumPath = otherImage.checksumPath ↔
          Overlooked file ∧ Overlooked otherFile) := by
  refine ⟨fun release => has.checksumPath_eq_release_iff, has.checksumPath_eq_published_iff, ?_, ?_⟩
  · simp only [has.checksumPath_eq_release_iff]
    refine ⟨fun agrees overlooked => ?_, fun seen release =>
      (leftmost_iff_of_not_overlooked seen).symm⟩
    obtain ⟨⟨release, leftmost⟩, notFound⟩ := overlooked_iff.mp overlooked
    exact debianRelease_eq_none_iff.mp notFound release ((agrees release).mpr leftmost)
  · intro other otherImage otherFile otherHas release otherRelease leftmost otherLeftmost different
    rw [has.checksumPath_inj_iff otherHas, overlooked_iff_of_leftmost leftmost,
      overlooked_iff_of_leftmost otherLeftmost]
    constructor
    · intro equal
      cases found : debianRelease file with
      | none => exact ⟨rfl, equal.symm.trans found⟩
      | some seen =>
        have ofFile := (debianRelease_eq_some_iff.mp found).leftmost
        have ofOther := (debianRelease_eq_some_iff.mp (equal.symm.trans found)).leftmost
        exact absurd ((leftmost.unique ofFile).trans (otherLeftmost.unique ofOther).symm) different
    · rintro ⟨notFound, otherNotFound⟩
      rw [notFound, otherNotFound]

def debianImage (file : String) : ImageDeclaration where
  name := "debian"
  imageUrl := "https://example.org/" ++ file
  checksumUrl := some "https://example.org/SHA512SUMS"
  checksumType := some "sha512"

theorem hasListing_debianImage (file : String)
    (named : fileNameOfUrl ("https://example.org/" ++ file) = some file) :
    ∃ image, HasListing ⟨"/images"⟩ (debianImage file) image file "SHA512SUMS" := by
  have published : fileNameOfUrl "https://example.org/SHA512SUMS" = some "SHA512SUMS" := by decide
  have accepted : ∃ image, resolveIn ⟨"/images"⟩ (debianImage file) = .ok image := by
    simp only [resolveIn, debianImage, named, checksumPathIn, published]
    exact ⟨_, rfl⟩
  obtain ⟨image, resolved⟩ := accepted
  exact ⟨image, resolved, named, published⟩

theorem old_and_new_listed_apart :
    ∃ image otherImage,
      HasListing ⟨"/images"⟩ (debianImage "Debian-11.qcow2") image "Debian-11.qcow2" "SHA512SUMS" ∧
      HasListing ⟨"/images"⟩ (debianImage "a-debian-12.raw") otherImage "a-debian-12.raw"
        "SHA512SUMS" ∧
      image.checksumPath = some ⟨"/images/SHA512SUMS.debian11"⟩ ∧
      image.checksumPath ≠ otherImage.checksumPath := by
  obtain ⟨image, has⟩ := hasListing_debianImage "Debian-11.qcow2" (by decide)
  obtain ⟨otherImage, otherHas⟩ := hasListing_debianImage "a-debian-12.raw" (by decide)
  have carries : Carries "Debian-11.qcow2" 0 "11" := by decide
  have otherCarries : Carries "a-debian-12.raw" 2 "12" := by decide
  have first : AtFirstMark "Debian-11.qcow2" "11" := ⟨0, ⟨carries.marked, by decide⟩, carries⟩
  obtain ⟨release, _, _, apart⟩ := listings_by_release has
  refine ⟨image, otherImage, has, otherHas, (release "11").mpr first, fun same => ?_⟩
  obtain ⟨overlooked, _⟩ := (apart otherHas first.leftmost (otherCarries.leftmost (by decide))
    (by decide)).mp same
  obtain ⟨_, notFound⟩ := overlooked_iff.mp overlooked
  exact debianRelease_eq_none_iff.mp notFound "11" first

/-- Two releases behind the second mark in a name: neither makes the name of the checksum file
longer, and the images share it. -/
theorem later_releases_overlooked :
    ∃ image otherImage,
      HasListing ⟨"/images"⟩ (debianImage "debian-cd-debian-11.raw") image
        "debian-cd-debian-11.raw" "SHA512SUMS" ∧
      HasListing ⟨"/images"⟩ (debianImage "debian-cd-debian-12.raw") otherImage
        "debian-cd-debian-12.raw" "SHA512SUMS" ∧
      Leftmost "debian-cd-debian-11.raw" "11" ∧ Leftmost "debian-cd-debian-12.raw" "12" ∧
      image.checksumPath = some ⟨"/images/SHA512SUMS"⟩ ∧
      otherImage.checksumPath = some ⟨"/images/SHA512SUMS"⟩ := by
  obtain ⟨image, has⟩ := hasListing_debianImage "debian-cd-debian-11.raw" (by decide)
  obtain ⟨otherImage, otherHas⟩ :=
    hasListing_debianImage "debian-cd-debian-12.raw" (by decide)
  have carries : Carries "debian-cd-debian-11.raw" 10 "11" := by decide
  have otherCarries : Carries "debian-cd-debian-12.raw" 10 "12" := by decide
  have notFound : debianRelease "debian-cd-debian-11.raw" = none := by decide
  have otherNotFound : debianRelease "debian-cd-debian-12.raw" = none := by decide
  exact ⟨image, otherImage, has, otherHas, carries.leftmost (by decide),
    otherCarries.leftmost (by decide),
    has.checksumPath_eq_published_iff.mpr (debianRelease_eq_none_iff.mp notFound),
    otherHas.checksumPath_eq_published_iff.mpr (debianRelease_eq_none_iff.mp otherNotFound)⟩

end CloudImage

end VirtualLab
