import Mathlib.Data.List.TakeWhile
import VirtualLab.Image.Basic
import VirtualLab.Proofs.Places

/-!
# File names in URLs

The local name of a file is the last part of its URL's path. The marks between the parts of a URL
may occur again in a later part, so they are looked for in the order in which the parts end: what
follows a hash is cut off first, then what follows a question mark, then the scheme.
-/

namespace VirtualLab

namespace Text

variable {mark : Char} {text left right : List Char}

theorem before_of_notMem (absent : mark ∉ text) : before mark text = text :=
  List.takeWhile_eq_self_iff.mpr fun character member => by
    rw [bne, no_separator_of_notMem absent character member, Bool.not_false]

theorem before_append_mark (absent : mark ∉ left) :
    before mark (left ++ mark :: right) = left := by
  have kept : before mark left = left := before_of_notMem absent
  rw [before, List.takeWhile_append_of_pos (List.takeWhile_eq_self_iff.mp kept),
    List.takeWhile_cons_of_neg (by simp), List.append_nil]

theorem notMem_before (mark : Char) (text : List Char) : mark ∉ before mark text :=
  fun member => by simpa using List.mem_takeWhile_imp member

theorem afterLast_of_notMem (absent : mark ∉ text) : afterLast mark text = none :=
  if_neg absent

theorem afterLast_append_mark (absent : mark ∉ right) :
    afterLast mark (left ++ mark :: right) = some right := by
  have backwards : (left ++ mark :: right).reverse = right.reverse ++ mark :: left.reverse := by
    simp
  have taken : before mark (right.reverse ++ mark :: left.reverse) = right.reverse :=
    before_append_mark (by simpa using absent)
  rw [afterLast, if_pos (by simp), backwards, ← before, taken, List.reverse_reverse]

theorem afterLast_eq_some (found : afterLast mark text = some right) :
    mark ∉ right ∧ right ⊆ text := by
  unfold afterLast at found
  split at found
  · cases found
    refine ⟨fun member => notMem_before mark text.reverse (List.mem_reverse.mp member), ?_⟩
    intro character member
    exact List.mem_reverse.mp (List.takeWhile_subset _ (List.mem_reverse.mp member))
  · cases found

end Text

/-! ## URLs in their parts -/

/-- None of the marks that begin the path of a URL, a part of the path, the query and the
fragment. -/
def IsUrlPart (text : List Char) : Prop := '/' ∉ text ∧ '?' ∉ text ∧ '#' ∉ text

instance (text : List Char) : Decidable (IsUrlPart text) :=
  inferInstanceAs (Decidable (_ ∧ _ ∧ _))

/-- What is found in a URL, or in any other text, is a part of it that names something. -/
theorem isUrlPart_of_fileNameOfUrl {text file : String} (named : fileNameOfUrl text = some file) :
    file ≠ "" ∧ IsUrlPart file.toList := by
  rw [fileNameOfUrl] at named
  obtain ⟨part, found, rfl⟩ := Option.map_eq_some_iff.mp named
  obtain ⟨found, nonempty⟩ := Option.filter_eq_some_iff.mp found
  obtain ⟨plain, within⟩ := Text.afterLast_eq_some found
  -- Nothing before the query holds a question mark or a hash, and the name is cut from that.
  have fromPath : part ⊆ Text.before '?' (Text.before '#' text.toList) := by
    cases cut : Text.splitFirst "://".toList (Text.before '?' (Text.before '#' text.toList)) with
    | none => rwa [cut] at within
    | some parts =>
      rw [cut, Option.map_some, Option.getD_some] at within
      rw [Text.append_of_splitFirst cut]
      exact List.Subset.trans within (List.subset_append_right _ _)
  have noQuery : '?' ∉ part := fun member => Text.notMem_before '?' _ (fromPath member)
  have noFragment : '#' ∉ part := fun member =>
    Text.notMem_before '#' _ (List.takeWhile_subset _ (fromPath member))
  rw [String.toList_ofList]
  refine ⟨?_, plain, noQuery, noFragment⟩
  simpa using nonempty

theorem plain_of_fileNameOfUrl {url file : String} (named : fileNameOfUrl url = some file) :
    '/' ∉ file.toList :=
  (isUrlPart_of_fileNameOfUrl named).2.1

/-- A URL in its parts, none of which holds a mark that would end it. A fragment may hold any. -/
structure Url where
  scheme : List Char
  authority : List Char
  path : List (List Char)
  query : Option (List Char)
  fragment : Option (List Char)
  schemePlain : ':' ∉ scheme ∧ IsUrlPart scheme
  authorityPlain : IsUrlPart authority
  pathPlain : ∀ part ∈ path, IsUrlPart part
  queryPlain : ∀ text ∈ query, '#' ∉ text

namespace Url

def marked (mark : Char) : Option (List Char) → List Char
  | none => []
  | some text => mark :: text

def located (url : Url) : List Char := url.authority ++ url.path.flatMap ('/' :: ·)

def text (url : Url) : String :=
  String.ofList (url.scheme ++ "://".toList ++ url.located ++ marked '?' url.query ++
    marked '#' url.fragment)

variable (url : Url)

theorem before_marked {mark : Char} {left : List Char} (absent : mark ∉ left)
    (part : Option (List Char)) : Text.before mark (left ++ marked mark part) = left := by
  cases part with
  | none => rw [marked, List.append_nil, Text.before_of_notMem absent]
  | some text => exact Text.before_append_mark absent

theorem notMem_located {mark : Char} (different : mark ≠ '/')
    (absent : ∀ {part}, IsUrlPart part → mark ∉ part) : mark ∉ url.located := by
  have inPath : mark ∉ url.path.flatMap ('/' :: ·) := by
    intro member
    obtain ⟨part, isPart, within⟩ := List.mem_flatMap.mp member
    rcases List.mem_cons.mp within with slash | within
    · exact different slash
    · exact absent (url.pathPlain part isPart) within
  rw [located, List.mem_append, not_or]
  exact ⟨absent url.authorityPlain, inPath⟩

theorem before_fragment :
    Text.before '#' url.text.toList =
      url.scheme ++ "://".toList ++ url.located ++ marked '?' url.query := by
  have inQuery : '#' ∉ marked '?' url.query := by
    have plain := url.queryPlain
    cases given : url.query with
    | none => exact List.not_mem_nil
    | some text => simpa [marked] using plain text given
  have inLocated : '#' ∉ url.located := url.notMem_located (by decide) fun plain => plain.2.2
  have absent :
      '#' ∉ url.scheme ++ "://".toList ++ url.located ++ marked '?' url.query := by
    simp [url.schemePlain.2.2.2, inLocated, inQuery]
  rw [text, String.toList_ofList, before_marked absent]

theorem before_query :
    Text.before '?' (Text.before '#' url.text.toList) =
      url.scheme ++ "://".toList ++ url.located := by
  have inLocated : '?' ∉ url.located := url.notMem_located (by decide) fun plain => plain.2.1
  have absent : '?' ∉ url.scheme ++ "://".toList ++ url.located := by
    simp [url.schemePlain.2.2.1, inLocated]
  rw [before_fragment, before_marked absent]

theorem splitFirst_scheme :
    Text.splitFirst "://".toList (url.scheme ++ "://".toList ++ url.located) =
      some (url.scheme, url.located) := by
  rw [List.append_assoc]
  exact Text.splitFirst_at_mark (by decide) fun within =>
    url.schemePlain.1 (within.subset List.mem_cons_self)

theorem afterLast_located : Text.afterLast '/' url.located = url.path.getLast? := by
  have parts := url.pathPlain
  rw [located]
  cases order : url.path using List.reverseRecOn with
  | nil =>
    rw [List.flatMap_nil, List.append_nil, Text.afterLast_of_notMem url.authorityPlain.1]
    rfl
  | append_singleton earlier last =>
    have plain : '/' ∉ last := (parts last (by simp [order])).1
    rw [List.getLast?_concat, List.flatMap_append, List.flatMap_singleton, ← List.append_assoc]
    exact Text.afterLast_append_mark plain

theorem fileNameOfUrl_text :
    fileNameOfUrl url.text =
      (url.path.getLast?.filter fun part => !part.isEmpty).map String.ofList := by
  rw [fileNameOfUrl, before_query, splitFirst_scheme, Option.map_some, Option.getD_some,
    afterLast_located]

/-- The name that a URL gives is the last part of its path, unless that is empty or there is none.
Of any text at all, a name that is given is not empty and holds no slash, question mark or hash. -/
theorem names_last_part :
    (∀ (url : Url) (file : String), fileNameOfUrl url.text = some file ↔
      file ≠ "" ∧ url.path.getLast? = some file.toList) ∧
    ∀ text file : String, fileNameOfUrl text = some file → file ≠ "" ∧ IsUrlPart file.toList := by
  refine ⟨fun url file => ?_, fun _ _ => isUrlPart_of_fileNameOfUrl⟩
  rw [fileNameOfUrl_text, Option.map_eq_some_iff]
  constructor
  · rintro ⟨part, found, rfl⟩
    obtain ⟨last, nonempty⟩ := Option.filter_eq_some_iff.mp found
    exact ⟨by simpa using nonempty, by rw [last, String.toList_ofList]⟩
  · rintro ⟨nonempty, last⟩
    refine ⟨file.toList, Option.filter_eq_some_iff.mpr ⟨last, ?_⟩, String.ofList_toList⟩
    simpa using nonempty

/-- A URL in which every part holds marks that belong to the parts before it. -/
def crowdedUrl : Url where
  scheme := "https".toList
  authority := "example.org:8443".toList
  path := ["a:b".toList, [], "image.qcow2".toList]
  query := some "from=ftp://x/y?z".toList
  fragment := some "top/#?://".toList
  schemePlain := by decide
  authorityPlain := by decide
  pathPlain := by decide
  queryPlain := by decide

theorem crowded_url_names_image :
    crowdedUrl.text = "https://example.org:8443/a:b//image.qcow2?from=ftp://x/y?z#top/#?://" ∧
      fileNameOfUrl crowdedUrl.text = some "image.qcow2" ∧
      "image.qcow2" ≠ "" ∧ IsUrlPart "image.qcow2".toList := by
  have named := (names_last_part.1 crowdedUrl "image.qcow2").mpr ⟨by decide, by decide⟩
  exact ⟨by decide, named, names_last_part.2 _ _ named⟩

end Url

end VirtualLab
