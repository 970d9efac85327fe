import VirtualLab.Proofs.Acquisition
import VirtualLab.Proofs.Listings

/-!
# The digest an image is compared with

A published checksum file may list an image under several algorithms. The image is digested with the
algorithm that is configured for it, but compared with whichever entry lists it last: the entries
are told apart by file name only. So the line of the configured algorithm decides exactly if no
later line gives the image another digest.
-/

namespace VirtualLab

/-! ## Text as bytes -/

namespace Bytes

theorem toList_loop_eq (array : ByteArray) (index : Nat) (taken : List UInt8) :
    ByteArray.toList.loop array index taken = taken.reverse ++ array.data.toList.drop index := by
  have length : array.data.toList.length = array.size := rfl
  induction index, taken using ByteArray.toList.loop.induct array with
  | case1 index taken within induction =>
    have byte : array.get! index = array.data.toList[index] :=
      getElem!_pos array.data index within
    rw [ByteArray.toList.loop.eq_def, if_pos within, induction,
      List.drop_eq_getElem_cons within, byte, List.reverse_cons, List.append_assoc]
    rfl
  | case2 index taken beyond =>
    rw [ByteArray.toList.loop.eq_def, if_neg beyond, List.drop_eq_nil_of_le (by omega),
      List.append_nil]

theorem toText?_ofText (text : String) : toText? (ofText text) = some text := by
  have bytes : ofText text = text.toUTF8.data.toList := toList_loop_eq text.toUTF8 0 []
  rw [toText?, bytes, Array.toArray_toList, String.fromUTF8?]
  exact dif_pos text.isValidUTF8

end Bytes

/-! ## Lines of an algorithm -/

def ChecksumAlgorithm.word : ChecksumAlgorithm → String
  | sha256 => "SHA256"
  | sha512 => "SHA512"

theorem ChecksumAlgorithm.word_plain (algorithm : ChecksumAlgorithm) :
    ∀ character ∈ algorithm.word.toList, Text.isBlank character = false := by
  have plain : (algorithm.word.toList.all fun character => !Text.isBlank character) = true := by
    cases algorithm <;> decide
  simpa using plain

namespace Listing

open ChecksumEntry

structure TaggedLine.Lists (line : TaggedLine) (algorithm : ChecksumAlgorithm) (file : String) :
    Prop where
  ofAlgorithm : line.algorithm = algorithm.word.toList
  ofFile : String.ofList line.name = file

theorem TaggedLine.Lists.entry {line : TaggedLine} {algorithm : ChecksumAlgorithm} {file : String}
    (lists : line.Lists algorithm file) :
    (Content.tagged line).entry = some ⟨file, line.digest.lowered⟩ := by
  have listed : "SHA".toList.isPrefixOf line.algorithm = true := by
    rw [lists.ofAlgorithm]
    cases algorithm <;> decide
  rw [Content.entry, if_pos listed, lists.ofFile]

/-- Of some lines the last that lists a file gives it another digest. -/
def Displaced (file digest : String) (lines : List Content) : Prop :=
  ∃ other, LastListed (lines.filterMap Content.entry) file other ∧ other ≠ digest

theorem digestOf_append (earlier later : List ChecksumEntry) (file : String) :
    digestOf (earlier ++ later) file = (digestOf later file).or (digestOf earlier file) := by
  rw [digestOf, List.reverse_append, List.find?_append]
  cases found : later.reverse.find? (·.file == file) <;> simp [digestOf, found]

/-- Some line lists the file, and the last to do so gives it the digest of this line or displaces
that digest. -/
theorem exists_lastListed {listing : Listing} {earlier later : List Content} {line : TaggedLine}
    {algorithm : ChecksumAlgorithm} {file : String}
    (contents : listing.contents = earlier ++ .tagged line :: later)
    (lists : line.Lists algorithm file) :
    ∃ compared, LastListed listing.entries file compared ∧
      (compared = line.digest.lowered ↔ ¬ Displaced file line.digest.lowered later) := by
  have order : listing.entries = earlier.filterMap Content.entry ++
      ⟨file, line.digest.lowered⟩ :: later.filterMap Content.entry := by
    rw [entries, contents, List.filterMap_append, List.filterMap_cons, lists.entry]
  cases found : digestOf (later.filterMap Content.entry) file with
  | none =>
    refine ⟨line.digest.lowered, ⟨_, _, order, digestOf_eq_none_iff.mp found⟩, ?_⟩
    refine iff_of_true rfl ?_
    rintro ⟨other, last, _⟩
    rw [digestOf_eq_some_iff.mpr last] at found
    cases found
  | some other =>
    have last := digestOf_eq_some_iff.mp found
    refine ⟨other, digestOf_eq_some_iff.mp ?_, ?_⟩
    · rw [order, ← List.singleton_append, ← List.append_assoc, digestOf_append, found]
      rfl
    · constructor
      · rintro equal ⟨another, lastToo, different⟩
        have same := (digestOf_eq_some_iff.mpr lastToo).symm.trans found
        exact different ((Option.some.inj same).trans equal)
      · intro notDisplaced
        by_contra different
        exact notDisplaced ⟨other, last, different⟩

end Listing

/-! ## The comparison -/

namespace CloudImage

open FileSystem

variable {tool : SignatureToolConduct} {image : CloudImage} {before after : FileSystem}
  {events : List (Event FileSystem)}

inductive Judged (image : CloudImage) (before : FileSystem) (expected actual : String) :
    Except LabError Unit → FileSystem → Prop
  | accepted {after : FileSystem} (equal : actual = expected)
      (written : before.write image.markerPath (Bytes.ofText (actual ++ "\n")) = .ok after) :
      Judged image before expected actual (.ok ()) after
  /-- The digests are equal, but the marker cannot be written. -/
  | unmarked {cause : FileError} (equal : actual = expected)
      (unwritten : before.write image.markerPath (Bytes.ofText (actual ++ "\n")) = .error cause) :
      Judged image before expected actual (.error (.file cause)) before
  | refused {after : FileSystem} (different : actual ≠ expected)
      (unmarked : after.isFile image.markerPath = false) :
      Judged image before expected actual
        (.error (.image image.name (.digestMismatch expected actual))) after

theorem expectedDigest_of_listed {source : Path} {text digest : String}
    (read : before.read source = .ok (Bytes.ofText text))
    (listed : ChecksumEntry.digestOf (ChecksumEntry.ofText text) image.fileName = some digest)
    {outcome : Except LabError String}
    (run : (image.expectedDigest source).run.Runs (conduct tool) before events outcome after) :
    outcome = .ok digest ∧ after = before := by
  rw [expectedDigest, Attempt.runs_lift_bind] at run
  obtain ⟨found, _, _, _, reading, rest, rfl⟩ := run
  obtain ⟨rfl, rfl, rfl⟩ := readText_runs reading
  rw [read] at rest
  simp only [Except.bind, Bytes.toText?_ofText] at rest
  rcases Attempt.runs_orFail_bind.mp rest with ⟨_, impossible, _⟩ | ⟨_, equal, looking⟩
  · cases impossible
  · cases equal
    rw [listed] at looking
    obtain ⟨rfl, rfl, rfl⟩ := Attempt.runs_pure.mp looking
    exact ⟨rfl, rfl⟩

/-- Where all files are read and the image is listed, the comparison is with the listed digest. -/
theorem judged_of_verifyChecksum {checksum : Path} {algorithm : ChecksumAlgorithm}
    {bytes : Bytes} {text expected : String} {outcome : Except LabError Unit}
    (hasChecksum : image.checksumPath = some checksum)
    (algorithmKnown : image.algorithm = .ok algorithm)
    (read : before.read (if before.isFile (checksum.withSuffix verifiedSuffix) then
      checksum.withSuffix verifiedSuffix else checksum) = .ok (Bytes.ofText text))
    (listed : ChecksumEntry.digestOf (ChecksumEntry.ofText text) image.fileName = some expected)
    (imageRead : before.read image.imagePath = .ok bytes)
    (run : image.verifyChecksum.run.Runs (conduct tool) before events outcome after) :
    image.Judged before expected (algorithm.digest bytes) outcome after := by
  simp only [verifyChecksum, hasChecksum, algorithmKnown] at run
  rcases Attempt.runs_orFail_bind.mp run with ⟨_, impossible, _⟩ | ⟨_, equal, choosing⟩
  · cases impossible
  cases equal
  obtain ⟨source, _, _, _, chosen, looking, rfl⟩ := Attempt.runs_lift_bind.mp choosing
  obtain ⟨rfl, rfl, rfl⟩ := checksumSource_runs chosen
  rcases Attempt.runs_bind.mp looking with ⟨failure, listing, rfl⟩ |
    ⟨found, _, _, _, listing, comparing, rfl⟩
  · cases (expectedDigest_of_listed read listed listing).1
  obtain ⟨equal, rfl⟩ := expectedDigest_of_listed read listed listing
  cases equal
  rcases Attempt.runs_bind.mp comparing with ⟨failure, digesting, rfl⟩ |
    ⟨actual, _, _, _, digesting, judging, rfl⟩
  · obtain ⟨_, _, impossible⟩ := fileDigest_runs digesting
    rw [imageRead] at impossible
    cases impossible
  obtain ⟨rfl, rfl, equal⟩ := fileDigest_runs digesting
  rw [imageRead] at equal
  cases equal
  split at judging
  · rename_i different
    obtain ⟨rfl, unmarked⟩ := unmarking_runs judging
    exact .refused different unmarked
  · rename_i same
    have equal := Decidable.not_not.mp same
    rcases marking_runs judging with ⟨_, rfl, unwritten, rfl⟩ | ⟨rfl, written, _⟩
    · exact .unmarked equal unwritten
    · exact .accepted equal written

/-- The image is compared with the digest of the last entry that lists it, and this is the digest of
the line of its algorithm exactly if no later line displaces that. -/
theorem compared_with_line_iff {checksum : Path} {algorithm : ChecksumAlgorithm}
    {listing : Listing} {earlier later : List Listing.Content} {line : Listing.TaggedLine}
    {bytes : Bytes} {outcome : Except LabError Unit}
    (hasChecksum : image.checksumPath = some checksum)
    (algorithmKnown : image.algorithm = .ok algorithm)
    (contents : listing.contents = earlier ++ .tagged line :: later)
    (lists : line.Lists algorithm image.fileName)
    (read : before.read (if before.isFile (checksum.withSuffix verifiedSuffix) then
      checksum.withSuffix verifiedSuffix else checksum) = .ok (Bytes.ofText listing.text))
    (imageRead : before.read image.imagePath = .ok bytes)
    (run : image.verifyChecksum.run.Runs (conduct tool) before events outcome after) :
    ∃ compared, Listing.LastListed listing.entries image.fileName compared ∧
      image.Judged before compared (algorithm.digest bytes) outcome after ∧
      (compared = line.digest.lowered ↔
        ¬ Listing.Displaced image.fileName line.digest.lowered later) := by
  obtain ⟨compared, last, exactly⟩ := Listing.exists_lastListed contents lists
  refine ⟨compared, last, judged_of_verifyChecksum hasChecksum algorithmKnown read ?_ imageRead
    run, exactly⟩
  rw [listing.ofText_text]
  exact Listing.digestOf_eq_some_iff.mpr last

/-! ## Two algorithms for one image

Three letters are the image, and its checksum file has a line for each algorithm.
-/

def shortDigest : Listing.HexText where
  digits := "BA7816BF8F01CFEA414140DE5DAE2223B00361A396177A9CB410FF61F20015AD".toList
  nonempty := by decide
  areDigits := List.all_eq_true.mp (by decide +kernel)

def longDigest : Listing.HexText where
  digits := ("ddaf35a193617abacc417349ae20413112e6fa4e89a97ea20a9eeee64b55d39a" ++
    "2192992a274fc1a836ba3c23a3feebbd454d4423643ce80e2a9ac94fa54ca49f").toList
  nonempty := by decide +kernel
  areDigits := List.all_eq_true.mp (by decide +kernel)

def lineOf (algorithm : ChecksumAlgorithm) (digest : Listing.HexText) : Listing.TaggedLine where
  algorithm := algorithm.word.toList
  name := "a.img".toList
  digest := digest
  nonempty := by cases algorithm <;> decide
  oneWord := algorithm.word_plain
  oneLine := by decide
  unmarked := by decide

def publishedLines (first second : Listing.TaggedLine) : Listing where
  ended := [(bare (.tagged first), .lineFeed), (bare (.tagged second), .lineFeed)]
  last := bare .blank
where
  bare (content : Listing.Content) : Listing.Line :=
    let none : Listing.Blanks := ⟨[], List.forall_mem_nil _, List.not_mem_nil⟩
    ⟨none, content, none⟩

def listedImage : CloudImage where
  name := "listed"
  imageUrl := "https://host/a.img"
  checksumUrl := some "https://host/SUMS"
  checksumType := some "sha256"
  keyUrl := none
  networkVersion := 1
  osVariant := "listed"
  directory := ⟨"/images"⟩
  imagePath := ⟨"/images/a.img"⟩
  checksumPath := some ⟨"/images/SUMS"⟩
  keyPath := none

def listedShelf (listing : Listing) : FileSystem where
  entries := [(["images"], .directory), (["images", "a.img"], .file (Bytes.ofText "abc")),
    (["images", "SUMS"], .file (Bytes.ofText listing.text))]

theorem noCopy_listedShelf (listing : Listing) :
    (listedShelf listing).isFile ((⟨"/images/SUMS"⟩ : Path).withSuffix verifiedSuffix) = false := by
  rfl

theorem read_listedShelf (listing : Listing) :
    (listedShelf listing).read
      (if (listedShelf listing).isFile ((⟨"/images/SUMS"⟩ : Path).withSuffix verifiedSuffix) then
        (⟨"/images/SUMS"⟩ : Path).withSuffix verifiedSuffix else ⟨"/images/SUMS"⟩) =
      .ok (Bytes.ofText listing.text) := by
  rw [noCopy_listedShelf, if_neg Bool.false_ne_true]
  rfl

theorem imageRead_listedShelf (listing : Listing) :
    (listedShelf listing).read listedImage.imagePath = .ok (Bytes.ofText "abc") := rfl

theorem digest_letters :
    ChecksumAlgorithm.sha256.digest (Bytes.ofText "abc") = shortDigest.lowered := by
  decide +kernel

def anyTool : SignatureToolConduct := fun _ _ _ _ => True

theorem exists_comparison (files : FileSystem) :
    ∃ events outcome after,
      listedImage.verifyChecksum.run.Runs (conduct anyTool) files events outcome after := by
  have allowed : ∀ arguments files, anyTool arguments files (copySigned arguments files).1
      (copySigned arguments files).2 := fun _ _ => trivial
  obtain ⟨events, run⟩ := runs_respond allowed (fun url => .error url) _ files
  exact ⟨events, _, _, run⟩

theorem writable_listedShelf (listing : Listing) (content : Bytes) {cause : FileError} :
    (listedShelf listing).write listedImage.markerPath content ≠ .error cause := by
  have written : ((listedShelf listing).write listedImage.markerPath content).isOk = true := rfl
  intro unwritten
  rw [unwritten] at written
  cases written

/-- The line of the algorithm comes last: the image is compared with its digest and accepted. -/
theorem last_line_compared :
    let line := lineOf .sha256 shortDigest
    let listing := publishedLines (lineOf .sha512 longDigest) line
    line.Lists .sha256 listedImage.fileName ∧
      ¬ Listing.Displaced listedImage.fileName line.digest.lowered [.blank] ∧
      ∃ events after, listedImage.verifyChecksum.run.Runs (conduct anyTool)
        (listedShelf listing) events (.ok ()) after ∧
        listedImage.Judged (listedShelf listing) line.digest.lowered
          (ChecksumAlgorithm.sha256.digest (Bytes.ofText "abc")) (.ok ()) after := by
  intro line listing
  have known : listedImage.algorithm = .ok .sha256 := by decide +kernel
  have lists : line.Lists .sha256 listedImage.fileName := ⟨rfl, by decide +kernel⟩
  have contents : listing.contents = [.tagged (lineOf .sha512 longDigest)] ++
      .tagged line :: [.blank] := rfl
  have notDisplaced :
      ¬ Listing.Displaced listedImage.fileName line.digest.lowered [.blank] := by
    rintro ⟨_, ⟨earlier, later, order, _⟩, _⟩
    have noEntry : [Listing.Content.blank].filterMap Listing.Content.entry = [] := rfl
    rw [noEntry] at order
    exact absurd order.symm (by simp)
  obtain ⟨events, outcome, after, run⟩ := exists_comparison (listedShelf listing)
  obtain ⟨compared, _, judged, exactly⟩ := compared_with_line_iff rfl known contents lists
    (read_listedShelf listing) (imageRead_listedShelf listing) run
  obtain rfl := exactly.mpr notDisplaced
  obtain rfl : outcome = .ok () := by
    cases judged with
    | accepted => rfl
    | unmarked _ unwritten => exact absurd unwritten (writable_listedShelf _ _)
    | refused different => exact absurd digest_letters different
  exact ⟨lists, notDisplaced, events, after, run, judged⟩

/-- The line of the algorithm is followed by one of another: the image has its digest and is refused
all the same. -/
theorem later_line_compared :
    let line := lineOf .sha256 shortDigest
    let other := lineOf .sha512 longDigest
    let listing := publishedLines line other
    listedImage.algorithm = .ok .sha256 ∧ line.Lists .sha256 listedImage.fileName ∧
      other.Lists .sha512 listedImage.fileName ∧
      listing.contents = [.tagged line, .tagged other, .blank] ∧
      ChecksumAlgorithm.sha256.digest (Bytes.ofText "abc") = line.digest.lowered ∧
      ∃ events after, listedImage.verifyChecksum.run.Runs (conduct anyTool) (listedShelf listing)
        events (.error (.image "listed"
          (.digestMismatch other.digest.lowered line.digest.lowered))) after := by
  intro line other listing
  have known : listedImage.algorithm = .ok .sha256 := by decide +kernel
  have lists : line.Lists .sha256 listedImage.fileName := ⟨rfl, by decide +kernel⟩
  have otherLists : other.Lists .sha512 listedImage.fileName := ⟨rfl, by decide +kernel⟩
  have different : shortDigest.lowered ≠ longDigest.lowered := by decide +kernel
  have listed : ChecksumEntry.digestOf (ChecksumEntry.ofText listing.text) listedImage.fileName =
      some other.digest.lowered := by
    have entries : listing.entries = [⟨listedImage.fileName, line.digest.lowered⟩] ++
        [⟨listedImage.fileName, other.digest.lowered⟩] := by
      have contents : listing.contents = [.tagged line, .tagged other, .blank] := rfl
      rw [Listing.entries, contents, List.filterMap_cons, lists.entry, List.filterMap_cons,
        otherLists.entry]
      rfl
    rw [listing.ofText_text, entries, Listing.digestOf_append]
    simp [ChecksumEntry.digestOf]
  obtain ⟨events, outcome, after, run⟩ := exists_comparison (listedShelf listing)
  have judged := judged_of_verifyChecksum rfl known (read_listedShelf listing) listed
    (imageRead_listedShelf listing) run
  rw [digest_letters] at judged
  cases judged with
  | accepted equal => exact absurd equal different
  | unmarked equal => exact absurd equal different
  | refused => exact ⟨known, lists, otherLists, rfl, digest_letters, events, after, run⟩

end CloudImage

end VirtualLab
