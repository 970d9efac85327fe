import VirtualLab.Proofs.ComparedDigests
import VirtualLab.Proofs.Directories
import VirtualLab.Proofs.Origins
import VirtualLab.Proofs.SignedChecksum

/-!
# When an image passes its checksum

Comparing an image with its checksum succeeds exactly if its listing can be read and lists the
digest that the image has, in whatever letter case, and its marker can be written: the surroundings
let it, and its name, which is longer than the image's, is possible. Every way to fail says what
becomes of the marker.
-/

namespace VirtualLab

/-! ## Letter case -/

theorem toLower_toLower (character : Char) : character.toLower.toLower = character.toLower := by
  unfold Char.toLower
  split
  · rename_i upper
    have above : ¬ character.val + ('a'.val - 'A'.val) ≤ 'Z'.val := by
      obtain ⟨least, greatest⟩ := upper
      simp only [UInt32.le_iff_toNat_le, ge_iff_le, UInt32.toNat_add,
        show 'A'.val.toNat = 65 from rfl, show 'Z'.val.toNat = 90 from rfl,
        show ('a'.val - 'A'.val).toNat = 32 from rfl] at least greatest ⊢
      omega
    exact dif_neg fun inside => above inside.2
  · rfl

namespace Text

theorem lower_lower (text : List Char) : lower (lower text) = lower text := by
  rw [lower, lower, List.map_map]
  exact List.map_congr_left fun character _ => toLower_toLower character

end Text

def IsLower (text : String) : Prop := Text.lower text.toList = text.toList

theorem isLower_ofList_lower (text : List Char) : IsLower (String.ofList (Text.lower text)) := by
  rw [IsLower, String.toList_ofList, Text.lower_lower]

theorem IsLower.eq_iff {first second : String} (isLower : IsLower first)
    (otherIsLower : IsLower second) :
    first = second ↔ Text.lower first.toList = Text.lower second.toList := by
  rw [isLower, otherIsLower, String.toList_inj]

theorem Bytes.isLower_toHex (bytes : Bytes) : IsLower bytes.toHex := by
  have digits : ∀ value < 16, (Nat.digitChar value).toLower = Nat.digitChar value := by decide
  rw [IsLower, toHex, String.toList_ofList, Text.lower]
  refine (List.map_congr_left fun character member => ?_).trans (List.map_id _)
  obtain ⟨byte, _, isDigit⟩ := List.mem_flatMap.mp member
  have small : byte.toNat < 256 := byte.toNat_lt
  simp only [List.mem_cons, List.not_mem_nil, or_false] at isDigit
  rcases isDigit with rfl | rfl
  · exact digits _ (by omega)
  · exact digits _ (by omega)

theorem ChecksumAlgorithm.isLower_digest (algorithm : ChecksumAlgorithm) (content : Bytes) :
    IsLower (algorithm.digest content) := by
  cases algorithm <;> exact Bytes.isLower_toHex _

namespace ChecksumEntry

theorem isLower_ofLine {line : List Char} {entry : ChecksumEntry} (read : ofLine line = some entry) :
    IsLower entry.digest := by
  have tagged : ∀ {line}, ofTagged line = some entry → IsLower entry.digest := by
    intro line read
    obtain ⟨⟨head, digest⟩, _, rest⟩ := Option.bind_eq_some_iff.mp read
    obtain ⟨⟨algorithm, file⟩, _, named⟩ := Option.bind_eq_some_iff.mp rest
    dsimp only at named
    split at named
    · cases named
      exact isLower_ofList_lower _
    · cases named
  have words : ∀ {line}, ofWords line = some entry → IsLower entry.digest := by
    intro line read
    unfold ofWords at read
    split at read
    · split at read
      · cases read
        exact isLower_ofList_lower _
      · cases read
    · cases read
  simp only [ofLine] at read
  split at read
  · cases read
  · rcases Option.or_eq_some_iff.mp read with isTagged | ⟨_, isWords⟩
    · exact tagged isTagged
    · exact words isWords

theorem isLower_digestOf {content file digest : String}
    (listed : digestOf (ofText content) file = some digest) : IsLower digest := by
  obtain ⟨entry, found, rfl⟩ := Option.map_eq_some_iff.mp listed
  have member := List.mem_reverse.mp (List.mem_of_find?_eq_some found)
  obtain ⟨line, _, read⟩ := List.mem_filterMap.mp member
  exact isLower_ofLine read

end ChecksumEntry

/-! ## A longer name beside a file -/

namespace Path

structure Fits (path : Path) : Prop where
  name : path.lastName.utf8ByteSize ≤ FileSystem.nameLimit
  whole : path.text.utf8ByteSize ≤ FileSystem.pathLimit

variable {path : Path} {suffix : String}

instance (text : String) : Decidable (IsName text) :=
  inferInstanceAs (Decidable (text ≠ "" ∧ text ≠ "." ∧ text ≠ ".." ∧ '/' ∉ text.toList))

theorem isTrivial_of_isName {text : String} (isName : IsName text) :
    isTrivial text.toList = false := by
  obtain ⟨nonempty, notDot, _, _⟩ := isName
  rw [isTrivial, Bool.or_eq_false_iff, List.isEmpty_eq_false_iff, beq_eq_false_iff_ne]
  exact ⟨fun equal => nonempty (String.toList_eq_nil_iff.mp equal),
    fun equal => notDot (String.toList_injective (equal.trans rfl))⟩

theorem meansDirectory_withSuffix (path : Path) (plain : '/' ∉ suffix.toList)
    (long : 1 < suffix.length) : FileSystem.meansDirectory (path.withSuffix suffix) = false := by
  have length : 1 < suffix.toList.length := long
  rw [FileSystem.meansDirectory, withSuffix, String.toList_append, segments_append plain,
    List.getLast?_concat, Option.any_some, isTrivial, Bool.or_eq_false_iff]
  constructor
  · rw [List.isEmpty_eq_false_iff]
    intro empty
    rw [(List.append_eq_nil_iff.mp empty).2] at length
    cases length
  · rw [beq_eq_false_iff_ne]
    intro dot
    have sum := congrArg List.length dot
    rw [List.length_append, List.length_singleton] at sum
    omega

theorem passes_eq (working : Location) (file : FileSystem.meansDirectory path = false) :
    path.passes working = passed (path.origin working) path.earlierNames ++
      [walk (path.origin working) path.earlierNames] := by
  rw [passes, names_eq file, passed_append]
  rfl

theorem passes_withSuffix (working : Location) (plain : '/' ∉ suffix.toList)
    (long : 1 < suffix.length) (file : FileSystem.meansDirectory path = false) :
    (path.withSuffix suffix).passes working = path.passes working := by
  rw [passes_eq working (meansDirectory_withSuffix path plain long), passes_eq working file,
    earlierNames_withSuffix plain, origin, origin,
    isAbsolute_withSuffix path (relative_of_plain plain)]

end Path

namespace FileSystem

variable {files : FileSystem} {path : Path} {suffix : String} {location : Location}

/-- There is a place beside a file for a longer name if that is not too long. -/
theorem exists_place_withSuffix_iff (plain : '/' ∉ suffix.toList) (noNul : '\x00' ∉ suffix.toList)
    (long : 2 < suffix.length) (found : files.fileLocation? path = some location) :
    (∃ place, files.fileLocation? (path.withSuffix suffix) = some place) ↔
      (path.withSuffix suffix).Fits := by
  obtain ⟨file, located⟩ := fileLocation?_eq_some.mp found
  obtain ⟨followable, passed, _⟩ := locate_eq_ok.mp located
  have longFile := Path.meansDirectory_withSuffix path plain (Nat.lt_of_succ_lt long)
  have notUp : (path.withSuffix suffix).lastName ≠ ".." := by
    rw [Path.lastName_withSuffix plain]
    intro up
    have sum := congrArg String.length up
    rw [String.length_append] at sum
    have two : "..".length = 2 := rfl
    omega
  have names := Path.names_eq longFile
  constructor
  · rintro ⟨place, placed⟩
    obtain ⟨longFollowable, _⟩ := locate_eq_ok.mp (fileLocation?_eq_some.mp placed).2
    refine ⟨?_, longFollowable.short⟩
    refine (longFollowable.names _ ?_).resolve_left notUp
    rw [names]
    exact List.mem_append_right _ List.mem_cons_self
  · intro fits
    refine ⟨_, fileLocation?_eq_some.mpr ⟨longFile, locate_eq_ok.mpr ⟨⟨?_, ?_, fits.whole, ?_⟩, ?_,
      rfl⟩⟩⟩
    · rw [Bool.eq_false_iff, Ne, String.isEmpty_iff]
      intro empty
      have sum := congrArg String.length empty
      rw [Path.withSuffix, String.length_append] at sum
      have none : "".length = 0 := rfl
      omega
    · have without := followable.noNul
      rw [List.contains_eq_mem, decide_eq_false_iff_not] at without ⊢
      rw [Path.withSuffix, String.toList_append, List.mem_append]
      exact not_or.mpr ⟨without, noNul⟩
    · rw [names, Path.earlierNames_withSuffix plain]
      refine List.forall_mem_append.mpr ⟨fun name member => followable.names name ?_, ?_⟩
      · rw [Path.names_eq file]
        exact List.mem_append_left _ member
      · simpa using .inr fits.name
    · rwa [Path.passes_withSuffix _ plain (Nat.lt_of_succ_lt long) file]

/-- Where there is no directory, a file can be written if there is a place for it. -/
theorem exists_write_iff {content : Bytes} (free : files.isDirectory path = false) :
    (∃ after, files.write path content = .ok after) ↔
      ∃ location, files.fileLocation? path = some location := by
  constructor
  · rintro ⟨after, written⟩
    obtain ⟨location, _, found, _⟩ := modifyFile_eq_ok written
    exact ⟨location, found⟩
  · rintro ⟨location, found⟩
    obtain ⟨file, located⟩ := fileLocation?_eq_some.mp found
    have noDirectory : files.get? location ≠ some .directory := fun directory => by
      rw [isDirectory_iff.mpr ⟨location, located, directory⟩] at free
      cases free
    rw [write, modifyFile, located]
    simp only [bind, Except.bind, file]
    split
    · contradiction
    · exact ⟨_, rfl⟩
    · exact ⟨_, rfl⟩

/-! ## Files that refuse

A guard says at which paths files cannot be read, written or removed, and why. A write that is
refused changes nothing; one that breaks off leaves a beginning of what was to be written.
-/

inductive Hindrance
  /-- The file cannot be opened, and nothing changes. -/
  | refused (cause : FileError)
  /-- The file is opened, but not all of the content gets into it. -/
  | brokenOff (cause : FileError)

structure Guard where
  reading : Path → Option FileError
  writing : Path → Option Hindrance
  removing : Path → Option FileError

variable {guard : Guard} {before after : FileSystem}

def guardedRead (guard : Guard) (files : FileSystem) (path : Path) : Except FileError Bytes :=
  match guard.reading path with
  | some cause => .error cause
  | none => files.read path

theorem read_of_guarded {content : Bytes} (read : files.guardedRead guard path = .ok content) :
    files.read path = .ok content := by
  unfold guardedRead at read
  split at read
  · cases read
  · exact read

/-- What writing a file comes to. A write that breaks off leaves a beginning of the content. -/
def GuardedWrite (before : FileSystem) (path : Path) (content : Bytes) :
    Option Hindrance → Except FileError Unit → FileSystem → Prop
  | none, answer, after => before.Applies (before.write path content) answer after
  | some (.refused cause), answer, after => answer = .error cause ∧ after = before
  | some (.brokenOff cause), answer, after =>
      ∃ part opened, part <+: content ∧ before.Applies (before.write path part) opened after ∧
        answer = opened.bind fun _ => .error cause

def GuardedRemoval (before : FileSystem) (path : Path) :
    Option FileError → Except FileError Unit → FileSystem → Prop
  | none, answer, after => before.Applies (before.removeFile path) answer after
  | some cause, answer, after => answer = .error cause ∧ after = before

def guardedConduct (guard : Guard) : Conduct FileSystem
  | .readFile path, before, answer, after =>
      answer = before.guardedRead guard path ∧ after = before
  | .writeFile path content, before, answer, after =>
      before.GuardedWrite path content (guard.writing path) answer after
  | .removeFile path, before, answer, after =>
      before.GuardedRemoval path (guard.removing path) answer after
  | request, before, answer, after => conduct CloudImage.anyTool request before answer after

def guardedRespond (guard : Guard) : Script.Responder FileSystem
  | .readFile path, files => (files.guardedRead guard path, files)
  | .writeFile path content, files =>
      match guard.writing path with
      | none => respond.attempted files (files.write path content)
      | some (.refused cause) => (.error cause, files)
      | some (.brokenOff cause) =>
          let opened := respond.attempted files (files.write path [])
          (opened.1.bind fun _ => .error cause, opened.2)
  | .removeFile path, files =>
      match guard.removing path with
      | none => respond.attempted files (files.removeFile path)
      | some cause => (.error cause, files)
  | request, files => respond CloudImage.copySigned (fun url => .error url) request files

theorem guardedConduct_respond (guard : Guard) (request : Request) (files : FileSystem) :
    guardedConduct guard request files (guardedRespond guard request files).1
      (guardedRespond guard request files).2 := by
  have allowed : ∀ arguments files, CloudImage.anyTool arguments files
      (CloudImage.copySigned arguments files).1 (CloudImage.copySigned arguments files).2 :=
    fun _ _ => trivial
  have answered : conduct CloudImage.anyTool request files
      (respond CloudImage.copySigned (fun url => .error url) request files).1
      (respond CloudImage.copySigned (fun url => .error url) request files).2 :=
    conduct_respond allowed request files
  cases request with
  | readFile => exact ⟨rfl, rfl⟩
  | writeFile path content =>
      simp only [guardedConduct, guardedRespond]
      cases guard.writing path with
      | none => exact applies_attempted _ _
      | some hindrance =>
          cases hindrance with
          | refused => exact ⟨rfl, rfl⟩
          | brokenOff =>
              exact ⟨[], _, List.nil_prefix, applies_attempted _ _, rfl⟩
  | removeFile path =>
      simp only [guardedConduct, guardedRespond]
      cases guard.removing path with
      | none => exact applies_attempted _ _
      | some => exact ⟨rfl, rfl⟩
  | _ => exact answered

end FileSystem

def Request.LeavesContent : Request → Prop
  | .readFile _ => False
  | .writeFile _ _ => False
  | .removeFile _ => False
  | _ => True

namespace CloudImage

open FileSystem

variable {guard : Guard} {start before after final : FileSystem} {image : CloudImage}
  {checksum : Path} {bytes : Bytes} {events : List (Event FileSystem)}
  {outcome : Except LabError Unit} {algorithm : ChecksumAlgorithm} {digest : String}

theorem conduct_of_guarded {request : Request} {answer : request.Answer}
    (leavesContent : request.LeavesContent)
    (conducted : guardedConduct guard request before answer after) :
    conduct anyTool request before answer after := by
  cases request with
  | readFile => exact leavesContent.elim
  | writeFile => exact leavesContent.elim
  | removeFile => exact leavesContent.elim
  | _ => exact conducted

/-- The listing of the image: the verified copy of the checksum file if there is one. -/
def listingPath (files : FileSystem) (checksum : Path) : Path :=
  if files.isFile (checksum.withSuffix verifiedSuffix) then checksum.withSuffix verifiedSuffix
  else checksum

def Lists (image : CloudImage) (guard : Guard) (files : FileSystem)
    (checksum : Path) (digest : String) : Prop :=
  ∃ listing text, files.guardedRead guard (listingPath files checksum) = .ok listing ∧
    Bytes.toText? listing = some text ∧
      ChecksumEntry.digestOf (ChecksumEntry.ofText text) image.fileName = some digest

theorem Lists.unique {other : String} (lists : image.Lists guard start checksum digest)
    (otherLists : image.Lists guard start checksum other) : other = digest := by
  obtain ⟨listing, text, read, decoded, listed⟩ := lists
  obtain ⟨_, _, otherRead, otherDecoded, otherListed⟩ := otherLists
  cases read.symm.trans otherRead
  cases decoded.symm.trans otherDecoded
  exact Option.some.inj (otherListed.symm.trans listed)

theorem Lists.isLower (lists : image.Lists guard start checksum digest) : IsLower digest := by
  obtain ⟨_, _, _, _, listed⟩ := lists
  exact ChecksumEntry.isLower_digestOf listed

theorem runs_checksumSource {source : Path}
    (run : (checksumSource checksum).Runs (guardedConduct guard) start events source final) :
    source = listingPath start checksum ∧ final = start := by
  have confined : (checksumSource checksum).Confined Request.LeavesContent fun _ => True :=
    ⟨trivial, fun verified => by cases verified <;> trivial⟩
  obtain ⟨kept, chosen, _⟩ := checksumSource_runs (run.mono_of_confined confined conduct_of_guarded)
  exact ⟨chosen, kept⟩

theorem decoded_of_read {read : Except FileError Bytes} {text : String}
    (found : (read.bind fun bytes =>
      match Bytes.toText? bytes with
      | some text => .ok text
      | none => .error .notUtf8) = .ok text) :
    ∃ listing, read = .ok listing ∧ Bytes.toText? listing = some text := by
  cases read with
  | error cause => cases found
  | ok listing =>
      cases decoded : Bytes.toText? listing with
      | none => simp [decoded, Except.bind] at found
      | some other =>
          simp only [decoded, Except.bind, Except.ok.injEq] at found
          exact ⟨listing, rfl, by rw [decoded, found]⟩

/-- The digest that is found is the one listed, and without one no mismatch is reported. -/
theorem runs_expectedDigest {outcome : Except LabError String}
    (run : (image.expectedDigest (listingPath start checksum)).run.Runs (guardedConduct guard)
      start events outcome final) :
    final = start ∧
      ((∃ digest, outcome = .ok digest ∧ image.Lists guard start checksum digest) ∨
        ∃ failure, outcome = .error failure ∧ image.IsOther failure ∧
          ∀ digest, ¬ image.Lists guard start checksum digest) := by
  rw [expectedDigest, Attempt.runs_lift_bind] at run
  obtain ⟨content, early, middle, late, reading, rest, rfl⟩ := run
  obtain ⟨answer, _, _, ⟨rfl, rfl⟩, ended, rfl⟩ := Script.runs_ask.mp reading
  obtain ⟨rfl, rfl, rfl⟩ := Script.runs_pure.mp ended
  rcases Attempt.runs_orFail_bind.mp rest with ⟨cause, unread, rfl, rfl, rfl⟩ | ⟨text, found, looking⟩
  · refine ⟨rfl, .inr ⟨_, rfl, by simp [IsOther], ?_⟩⟩
    rintro digest ⟨listing, text, read, decoded, _⟩
    simp [read, decoded, Except.bind] at unread
  obtain ⟨listing, read, decoded⟩ := decoded_of_read found
  split at looking
  · rename_i digest listed
    obtain ⟨rfl, rfl, rfl⟩ := Attempt.runs_pure.mp looking
    exact ⟨rfl, .inl ⟨digest, rfl, listing, text, read, decoded, listed⟩⟩
  · rename_i unlisted
    obtain ⟨rfl, rfl, rfl⟩ := Attempt.runs_throw.mp looking
    refine ⟨rfl, .inr ⟨_, rfl, by simp [IsOther], ?_⟩⟩
    rintro digest ⟨_, _, otherRead, otherDecoded, listed⟩
    cases read.symm.trans otherRead
    cases decoded.symm.trans otherDecoded
    rw [unlisted] at listed
    cases listed

theorem runs_fileDigest {outcome : Except LabError String}
    (read : start.guardedRead guard image.imagePath = .ok bytes)
    (run : (fileDigest image.imagePath algorithm).run.Runs (guardedConduct guard) start events
      outcome final) :
    outcome = .ok (algorithm.digest bytes) ∧ final = start := by
  rw [fileDigest, Attempt.runs_ask_bind] at run
  obtain ⟨answer, middle, rest, ⟨rfl, rfl⟩, reading, rfl⟩ := run
  rw [read] at reading
  obtain ⟨_, rfl, rfl⟩ := Attempt.runs_pure.mp reading
  exact ⟨rfl, rfl⟩

/-! ## The comparison

Either no algorithm is configured that is known, or no digest is found for the image; or there are
two digests to compare, which decide between writing the marker and removing it.
-/

inductive Comparison (image : CloudImage) (guard : Guard) (checksum : Path)
    (bytes : Bytes) (start : FileSystem) : Except LabError Unit → FileSystem → Prop
  | unsupported {failure : LabError} (unknown : image.algorithm = .error failure) :
      Comparison image guard checksum bytes start (.error failure) start
  | unlisted {failure : LabError} (other : image.IsOther failure)
      (none : ∀ digest, ¬ image.Lists guard start checksum digest) :
      Comparison image guard checksum bytes start (.error failure) start
  | different {algorithm : ChecksumAlgorithm} {expected : String} {answer : Except FileError Unit}
      {final : FileSystem} (known : image.algorithm = .ok algorithm)
      (lists : image.Lists guard start checksum expected)
      (differ : algorithm.digest bytes ≠ expected)
      (removed : start.GuardedRemoval image.markerPath (guard.removing image.markerPath) answer
        final) :
      Comparison image guard checksum bytes start
        (.error (.image image.name (.digestMismatch expected (algorithm.digest bytes)))) final
  | equal {algorithm : ChecksumAlgorithm} {answer : Except FileError Unit} {final : FileSystem}
      (known : image.algorithm = .ok algorithm)
      (lists : image.Lists guard start checksum (algorithm.digest bytes))
      (written : start.GuardedWrite image.markerPath
        (Bytes.ofText (algorithm.digest bytes ++ "\n")) (guard.writing image.markerPath) answer
        final) :
      Comparison image guard checksum bytes start (answer.mapError .file) final

theorem comparison_of_verifyChecksum (hasChecksum : image.checksumPath = some checksum)
    (imageRead : start.guardedRead guard image.imagePath = .ok bytes)
    (run : image.verifyChecksum.run.Runs (guardedConduct guard) start events outcome final) :
    image.Comparison guard checksum bytes start outcome final := by
  simp only [verifyChecksum, hasChecksum] at run
  rcases Attempt.runs_orFail_bind.mp run with ⟨failure, unknown, rfl, rfl, rfl⟩ |
    ⟨algorithm, known, choosing⟩
  · exact .unsupported unknown
  obtain ⟨source, _, _, _, chosen, looking, rfl⟩ := Attempt.runs_lift_bind.mp choosing
  obtain ⟨rfl, rfl⟩ := runs_checksumSource chosen
  rcases Attempt.runs_bind.mp looking with ⟨failure, listing, rfl⟩ |
    ⟨expected, _, _, _, listing, comparing, rfl⟩
  · obtain ⟨rfl, ⟨_, impossible, _⟩ | ⟨_, equal, other, none⟩⟩ := runs_expectedDigest listing
    · cases impossible
    · cases equal
      exact .unlisted other none
  obtain ⟨rfl, ⟨_, equal, lists⟩ | ⟨_, impossible, _⟩⟩ := runs_expectedDigest listing
  · cases equal
    rcases Attempt.runs_bind.mp comparing with ⟨failure, digesting, rfl⟩ |
      ⟨actual, _, _, _, digesting, judging, rfl⟩
    · cases (runs_fileDigest imageRead digesting).1
    obtain ⟨equal, rfl⟩ := runs_fileDigest imageRead digesting
    cases equal
    split at judging
    · rename_i differ
      obtain ⟨answer, _, _, removed, ended, rfl⟩ := Attempt.runs_ask_bind.mp judging
      obtain ⟨_, rfl, rfl⟩ := Attempt.runs_throw.mp ended
      exact .different known lists differ removed
    · rename_i same
      rw [← Decidable.not_not.mp same] at lists
      obtain ⟨answer, _, _, written, ended, rfl⟩ := Attempt.runs_ask_bind.mp judging
      obtain ⟨_, rfl, rfl⟩ := Attempt.runs_orFail.mp ended
      exact .equal known lists written
  · cases impossible

/-! ## The verdict -/

/-- The algorithm of the image is supported, and its listing can be read and lists for it the digest
that it has under this algorithm, in whatever letter case. -/
def Passes (image : CloudImage) (guard : Guard) (files : FileSystem)
    (checksum : Path) (bytes : Bytes) : Prop :=
  ∃ algorithm digest, image.algorithm = .ok algorithm ∧
    image.Lists guard files checksum digest ∧
      Text.lower digest.toList = Text.lower (algorithm.digest bytes).toList

theorem passes_iff (known : image.algorithm = .ok algorithm)
    (lists : image.Lists guard start checksum digest) :
    image.Passes guard start checksum bytes ↔ algorithm.digest bytes = digest := by
  constructor
  · rintro ⟨other, listed, otherKnown, otherLists, same⟩
    cases known.symm.trans otherKnown
    rw [(algorithm.isLower_digest bytes).eq_iff lists.isLower, ← same, lists.unique otherLists]
  · rintro rfl
    exact ⟨algorithm, _, known, lists, rfl⟩

structure Verified (image : CloudImage) (guard : Guard) (checksum : Path) (bytes : Bytes)
    (start : FileSystem) (outcome : Except LabError Unit) (final : FileSystem) : Prop where
  /-- The comparison succeeds exactly if the image passes and the marker can be written: nothing
  hinders that, and its path is not too long. -/
  succeeds : outcome = .ok () ↔ image.Passes guard start checksum bytes ∧
    guard.writing image.markerPath = none ∧ image.markerPath.Fits
  /-- Then the marker holds the digest and the end of its line. -/
  marked : outcome = .ok () → ∃ algorithm, image.algorithm = .ok algorithm ∧
    final.read image.markerPath = .ok (Bytes.ofText (algorithm.digest bytes ++ "\n"))
  /-- That an image passes but cannot be marked is a failure of the file operation. -/
  unrecorded : image.Passes guard start checksum bytes → ∀ failure, outcome = .error failure →
    ∃ cause, failure = .file cause
  /-- A mismatch leaves no marker. -/
  unmarked : ∀ expected actual,
    outcome = .error (.image image.name (.digestMismatch expected actual)) →
      final.pathExists image.markerPath = false
  /-- Any other failure leaves all as it was, unless the write of the marker was broken off. -/
  kept : ∀ failure, outcome = .error failure → image.IsOther failure → final = start ∨
    image.Passes guard start checksum bytes ∧ image.markerPath.Fits ∧
      ∃ cause, guard.writing image.markerPath = some (.brokenOff cause)
  /-- Such a write leaves a marker with a beginning of the line. -/
  begun : ∀ cause, image.Passes guard start checksum bytes → image.markerPath.Fits →
    guard.writing image.markerPath = some (.brokenOff cause) →
      outcome = .error (.file cause) ∧ ∃ algorithm part, image.algorithm = .ok algorithm ∧
        part <+: Bytes.ofText (algorithm.digest bytes ++ "\n") ∧
          final.read image.markerPath = .ok part
  /-- No file but the marker is changed. -/
  elsewhere : DiffersOnlyAt [image.markerPath] start final

theorem exists_marker_iff (content : Bytes) (imageRead : start.read image.imagePath = .ok bytes)
    (free : start.isDirectory image.markerPath = false) :
    (∃ after, start.write image.markerPath content = .ok after) ↔ image.markerPath.Fits := by
  obtain ⟨location, found, _⟩ := read_eq_ok.mp imageRead
  rw [exists_write_iff free]
  exact exists_place_withSuffix_iff (by decide) (by decide) (by decide) found

theorem isDirectory_of_marker {files : FileSystem} {path : Path}
    (marker : files.pathExists path = false ∨ files.isFile path = true) :
    files.isDirectory path = false := by
  rcases marker with absent | file
  · rw [pathExists_eq, Bool.or_eq_false_iff] at absent
    exact absent.2
  · by_contra directory
    rw [not_isFile_of_isDirectory (by simpa using directory)] at file
    cases file

/-- A comparison that comes to nothing fails and changes nothing. An image that passes comes to
nothing if the marker cannot be opened. -/
theorem verified_of_undecided {failure : LabError} (other : image.IsOther failure)
    (unopened : image.Passes guard start checksum bytes → ∃ cause, failure = .file cause ∧
      (image.markerPath.Fits → guard.writing image.markerPath = some (.refused cause))) :
    image.Verified guard checksum bytes start (.error failure) start where
  succeeds := by
    refine iff_of_false nofun fun ⟨passes, free, fits⟩ => ?_
    obtain ⟨_, _, refused⟩ := unopened passes
    rw [free] at refused
    cases refused fits
  marked := nofun
  unrecorded passes _ failed := by
    obtain ⟨cause, rfl, _⟩ := unopened passes
    exact ⟨cause, (Except.error.inj failed).symm⟩
  unmarked _ _ mismatch := absurd (Except.error.inj mismatch) (other _ _)
  kept _ _ _ := .inl rfl
  begun _ passes fits broken := by
    obtain ⟨_, _, refused⟩ := unopened passes
    rw [broken] at refused
    cases refused fits
  elsewhere := .refl _ _

theorem removed_or_absent {answer : Except FileError Unit}
    (marker : start.pathExists image.markerPath = false ∨
      start.isFile image.markerPath = true ∧ guard.removing image.markerPath = none)
    (removed : start.GuardedRemoval image.markerPath (guard.removing image.markerPath) answer
      final) :
    final.isFile image.markerPath = false ∧ DiffersOnlyAt [image.markerPath] start final := by
  cases refusal : guard.removing image.markerPath with
  | some cause =>
      rw [refusal] at marker removed
      obtain ⟨_, rfl⟩ := removed
      obtain absent := marker.resolve_right fun ⟨_, allowed⟩ => nomatch allowed
      rw [pathExists_eq, Bool.or_eq_false_iff] at absent
      exact ⟨absent.1, .refl _ _⟩
  | none =>
      rw [refusal] at removed
      exact ⟨Applies.not_isFile removed,
        Applies.differs removed fun _ removal => removeFile_differs removal List.mem_cons_self⟩

theorem verified_of_different {answer : Except FileError Unit}
    (marker : start.pathExists image.markerPath = false ∨
      start.isFile image.markerPath = true ∧ guard.removing image.markerPath = none)
    (known : image.algorithm = .ok algorithm)
    (lists : image.Lists guard start checksum digest) (differ : algorithm.digest bytes ≠ digest)
    (removed : start.GuardedRemoval image.markerPath (guard.removing image.markerPath) answer
      final) :
    image.Verified guard checksum bytes start
      (.error (.image image.name (.digestMismatch digest (algorithm.digest bytes)))) final := by
  obtain ⟨gone, differs⟩ := removed_or_absent marker removed
  have fails : ¬ image.Passes guard start checksum bytes :=
    fun passes => differ ((passes_iff known lists).mp passes)
  refine ⟨iff_of_false nofun fun ⟨passes, _⟩ => fails passes, nofun,
    fun passes => absurd passes fails, fun _ _ _ => ?_, fun failure equal other => ?_,
    fun _ passes => absurd passes fails, differs⟩
  · rw [pathExists_eq, gone, differs.toSameDirectories.isDirectory,
      isDirectory_of_marker (marker.imp_right And.left)]
    rfl
  · cases equal
    exact absurd rfl (other _ _)

theorem verified_of_written (written : start.write image.markerPath
      (Bytes.ofText (algorithm.digest bytes ++ "\n")) = .ok final)
    (free : guard.writing image.markerPath = none) (fits : image.markerPath.Fits)
    (passes : image.Passes guard start checksum bytes) (known : image.algorithm = .ok algorithm) :
    image.Verified guard checksum bytes start (.ok ()) final where
  succeeds := iff_of_true rfl ⟨passes, free, fits⟩
  marked _ := ⟨algorithm, known, read_of_write written⟩
  unrecorded _ := nofun
  unmarked := nofun
  kept := nofun
  begun _ _ _ broken := by
    rw [free] at broken
    cases broken
  elsewhere := modifyFile_differs written List.mem_cons_self

theorem verified_of_brokenOff {part : Bytes} {cause : FileError}
    (written : start.write image.markerPath part = .ok final)
    (beginning : part <+: Bytes.ofText (algorithm.digest bytes ++ "\n"))
    (broken : guard.writing image.markerPath = some (.brokenOff cause))
    (fits : image.markerPath.Fits) (passes : image.Passes guard start checksum bytes)
    (known : image.algorithm = .ok algorithm) :
    image.Verified guard checksum bytes start (.error (.file cause)) final where
  succeeds := by
    refine iff_of_false nofun fun ⟨_, free, _⟩ => ?_
    rw [broken] at free
    cases free
  marked := nofun
  unrecorded _ _ failed := ⟨cause, (Except.error.inj failed).symm⟩
  unmarked _ _ mismatch := nomatch Except.error.inj mismatch
  kept _ _ _ := .inr ⟨passes, fits, cause, broken⟩
  begun _ _ _ otherBroken := by
    cases broken.symm.trans otherBroken
    exact ⟨rfl, algorithm, part, known, beginning, read_of_write written⟩
  elsewhere := modifyFile_differs written List.mem_cons_self

theorem verified_of_equal {answer : Except FileError Unit}
    (imageRead : start.read image.imagePath = .ok bytes)
    (free : start.isDirectory image.markerPath = false) (known : image.algorithm = .ok algorithm)
    (lists : image.Lists guard start checksum (algorithm.digest bytes))
    (written : start.GuardedWrite image.markerPath
      (Bytes.ofText (algorithm.digest bytes ++ "\n")) (guard.writing image.markerPath) answer
      final) :
    image.Verified guard checksum bytes start (answer.mapError .file) final := by
  have passes : image.Passes guard start checksum bytes := (passes_iff known lists).mpr rfl
  have fits_of_write : ∀ {content changed}, start.write image.markerPath content = .ok changed →
      image.markerPath.Fits :=
    fun written => (exists_marker_iff _ imageRead free).mp ⟨_, written⟩
  -- A write that fails though nothing hinders it has a path that is too long.
  have unwritten : ∀ {content cause}, start.write image.markerPath content = .error cause →
      image.Verified guard checksum bytes start (.error (.file cause)) start := by
    intro content cause unwritten
    refine verified_of_undecided (by simp [IsOther]) fun _ => ⟨cause, rfl, fun fits => ?_⟩
    obtain ⟨_, possible⟩ := (exists_marker_iff content imageRead free).mpr fits
    rw [unwritten] at possible
    cases possible
  cases hindrance : guard.writing image.markerPath with
  | none =>
      rw [hindrance] at written
      obtain ⟨recorded, rfl⟩ | ⟨_, failed, rfl, rfl⟩ := Applies.changed_or_failed written
      · exact verified_of_written recorded hindrance (fits_of_write recorded) passes known
      · exact unwritten failed
  | some obstacle =>
      rw [hindrance] at written
      cases obstacle with
      | refused cause =>
          obtain ⟨rfl, rfl⟩ := written
          exact verified_of_undecided (by simp [IsOther]) fun _ => ⟨cause, rfl, fun _ => hindrance⟩
      | brokenOff cause =>
          obtain ⟨part, opened, beginning, applied, rfl⟩ := written
          obtain ⟨begun, rfl⟩ | ⟨_, failed, rfl, rfl⟩ := Applies.changed_or_failed applied
          · exact verified_of_brokenOff begun beginning hindrance (fits_of_write begun) passes known
          · exact unwritten failed

theorem verified_of_comparison (imageRead : start.read image.imagePath = .ok bytes)
    (marker : start.pathExists image.markerPath = false ∨
      start.isFile image.markerPath = true ∧ guard.removing image.markerPath = none)
    (comparison : image.Comparison guard checksum bytes start outcome final) :
    image.Verified guard checksum bytes start outcome final := by
  cases comparison with
  | unsupported unknown =>
      refine verified_of_undecided (isOther_of_algorithm unknown) ?_
      rintro ⟨_, _, known, _⟩
      rw [unknown] at known
      cases known
  | unlisted other none =>
      refine verified_of_undecided other ?_
      rintro ⟨_, _, _, lists, _⟩
      exact absurd lists (none _)
  | different known lists differ removed =>
      exact verified_of_different marker known lists differ removed
  | equal known lists written =>
      exact verified_of_equal imageRead (isDirectory_of_marker (marker.imp_right And.left)) known
        lists written

/-- An image that can be read, beside which there is nothing or a file that may be removed, passes
its checksum exactly as its listing says and as its marker can be written, whichever other files
refuse to be read, written or removed. -/
theorem verifyChecksum_verified {directory : Path} {declaration : ImageDeclaration}
    (resolved : resolveIn directory declaration = .ok image)
    (configured : declaration.checksumUrl.isSome = true)
    (imageRead : start.guardedRead guard image.imagePath = .ok bytes)
    (marker : start.pathExists image.markerPath = false ∨
      start.isFile image.markerPath = true ∧ guard.removing image.markerPath = none) :
    ∃ checksum, image.checksumPath = some checksum ∧
      (∃ events outcome final,
        image.verifyChecksum.run.Runs (guardedConduct guard) start events outcome final) ∧
      ∀ {events outcome final},
        image.verifyChecksum.run.Runs (guardedConduct guard) start events outcome final →
          image.Verified guard checksum bytes start outcome final := by
  have isSome : image.checksumPath.isSome = true :=
    (declared_of_resolveIn resolved).checksumPath_isSome.trans configured
  obtain ⟨checksum, hasChecksum⟩ := Option.isSome_iff_exists.mp isSome
  obtain ⟨events, run⟩ := Script.runs_run (guardedConduct_respond guard)
    image.verifyChecksum.run start
  refine ⟨checksum, hasChecksum, ⟨events, _, _, run⟩, fun run => ?_⟩
  exact verified_of_comparison (read_of_guarded imageRead) marker
    (comparison_of_verifyChecksum hasChecksum imageRead run)

/-! ## Names that leave room for a marker, and one that does not

Three letters are the image, and its checksum file is one line.
-/

def shelf : Path := ⟨"/images"⟩

def namedDeclaration (file : String) : ImageDeclaration where
  name := "named"
  imageUrl := "https://host/" ++ file
  checksumUrl := some "https://host/SUMS"
  checksumType := some "sha256"

def namedImage (file : String) : CloudImage where
  name := "named"
  imageUrl := "https://host/" ++ file
  checksumUrl := some "https://host/SUMS"
  checksumType := some "sha256"
  keyUrl := none
  networkVersion := 1
  osVariant := "named"
  directory := shelf
  imagePath := shelf.join file
  checksumPath := some (shelf.join "SUMS")
  keyPath := none

def lineAlone (line : Listing.PlainLine) : Listing where
  ended := [(publishedLines.bare (.plain line), .lineFeed)]
  last := publishedLines.bare .blank

theorem digestOf_lineAlone (line : Listing.PlainLine) :
    ChecksumEntry.digestOf (ChecksumEntry.ofText (lineAlone line).text) (String.ofList line.name) =
      some line.digest.lowered := by
  have entries : (lineAlone line).entries = [⟨String.ofList line.name, line.digest.lowered⟩] := rfl
  rw [Listing.ofText_text, entries]
  simp [ChecksumEntry.digestOf]

def namedShelf (line : Listing.PlainLine) : FileSystem where
  entries := [(["images"], .directory),
    (["images", String.ofList line.name], .file (Bytes.ofText "abc")),
    (["images", "SUMS"], .file (Bytes.ofText (lineAlone line).text))]

def unguarded : Guard where
  reading _ := none
  writing _ := none
  removing _ := none

def fullDevice : Guard where
  reading _ := none
  writing _ := some (.brokenOff (.other "No space left on device (os error 28)"))
  removing _ := none

structure NamesFile (text : String) : Prop where
  isName : Path.IsName text
  noNul : '\x00' ∉ text.toList
  short : text.utf8ByteSize ≤ nameLimit

section Shelf

variable {line : Listing.PlainLine} {file text : String}

theorem text_join_shelf (isName : Path.IsName text) :
    (shelf.join text).text = shelf.text ++ "/" ++ text := by
  have ends : ¬ (shelf.text.toList.isEmpty || shelf.text.toList.getLast? = some '/') = true := by
    decide
  rw [Path.join, if_neg (Path.relative_of_plain isName.2.2.2), if_neg ends]

theorem toList_join_shelf (isName : Path.IsName text) :
    (shelf.join text).text.toList = '/' :: ("images".toList ++ '/' :: text.toList) := by
  have start : (shelf.text ++ "/").toList = '/' :: ("images".toList ++ ['/']) := by decide
  rw [text_join_shelf isName, String.toList_append, start, List.cons_append, List.append_assoc]
  rfl

theorem segments_shelf (isName : Path.IsName text) :
    Path.segments ("images".toList ++ '/' :: text.toList) = ["images".toList, text.toList] := by
  have plain : '/' ∉ "images".toList := by decide
  rw [Path.segments_append_slash, Path.segments_of_plain plain,
    Path.segments_of_plain isName.2.2.2]
  rfl

theorem place_shelf (isName : Path.IsName text) :
    (shelf.join text).place [] = ["images", text] := by
  have place : shelf.place [] = ["images"] := by decide
  rw [Path.place_join_of_isName [] shelf isName, place]
  rfl

theorem fileName_namedImage (isName : Path.IsName file) : (namedImage file).fileName = file := by
  have root : (shelf.join file).rootAndSegments = ("/", ["images".toList, file.toList]) := by
    rw [Path.rootAndSegments, toList_join_shelf isName]
    exact congrArg ("/", ·) (segments_shelf isName)
  have notUp : file.toList ≠ ['.', '.'] := fun up =>
    isName.2.2.1 (String.toList_injective (up.trans (by decide)))
  have last : Path.dropTrivialEnd ["images".toList, file.toList] =
      ["images".toList, file.toList] := by
    simp [Path.dropTrivialEnd, Path.isTrivial_of_isName isName]
  rw [CloudImage.fileName, namedImage, Path.fileName, root, last]
  simp [notUp]

theorem fileLocation?_namedShelf (names : NamesFile text) :
    (namedShelf line).fileLocation? (shelf.join text) = some ["images", text] := by
  obtain ⟨isName, noNul, short⟩ := names
  have whole := toList_join_shelf isName
  have bytes : (shelf.join text).text.utf8ByteSize = 8 + text.utf8ByteSize := by
    have start : (shelf.text ++ "/").utf8ByteSize = 8 := by decide
    rw [text_join_shelf isName, String.utf8ByteSize_append, start]
  have named : (shelf.join text).names = ["images", text] := by
    rw [Path.names_join (Path.relative_of_plain isName.2.2.2), Path.names_of_isName isName,
      show shelf.names = ["images"] by decide]
    rfl
  have passed : (shelf.join text).passes [] = [[], ["images"]] := by
    rw [Path.passes_join_of_isName [] shelf isName]
    decide
  refine fileLocation?_eq_some.mpr ⟨?_, locate_eq_ok.mpr ⟨⟨?_, ?_, ?_, ?_⟩, ?_, ?_⟩⟩
  · rw [meansDirectory, whole]
    have segments : Path.segments ('/' :: ("images".toList ++ '/' :: text.toList)) =
        [] :: ["images".toList, text.toList] := by
      rw [← segments_shelf isName]
      rfl
    rw [segments]
    exact Path.isTrivial_of_isName isName
  · rw [Bool.eq_false_iff, Ne, String.isEmpty_iff, ← String.toList_eq_nil_iff, whole]
    exact List.cons_ne_nil _ _
  · rw [whole, List.contains_eq_mem, decide_eq_false_iff_not]
    simp [noNul]
  · rw [bytes]
    simp only [nameLimit, pathLimit] at short ⊢
    omega
  · rw [named]
    have first : "images".utf8ByteSize ≤ nameLimit := by decide
    simp [first, short]
  · rw [show (namedShelf line).workingDirectory = [] from rfl, passed]
    simp [get?, namedShelf, List.lookup_cons]
  · exact (place_shelf isName).symm

theorem pathExists_namedShelf (isName : Path.IsName text) (image : text ≠ String.ofList line.name)
    (listing : text ≠ "SUMS") : (namedShelf line).pathExists (shelf.join text) = false := by
  rw [Bool.eq_false_iff]
  intro found
  obtain ⟨_, entry, located, held, _⟩ := FileSystem.pathExists_iff.mp found
  rw [FileSystem.locate_eq_place located, show (namedShelf line).workingDirectory = [] from rfl,
    place_shelf isName] at held
  simp [get?, namedShelf, List.lookup_cons, beq_false_of_ne image, beq_false_of_ne listing] at held

theorem markerPath_namedImage (file : String) :
    (namedImage file).markerPath = shelf.join (file ++ verifiedSuffix) :=
  Path.join_withSuffix shelf file (by decide)

theorem utf8ByteSize_marker (file : String) :
    (file ++ verifiedSuffix).utf8ByteSize = file.utf8ByteSize + 9 := by
  have suffix : verifiedSuffix.utf8ByteSize = 9 := by decide
  rw [String.utf8ByteSize_append, suffix]

theorem marker_ne_of_short (file : String) (short : text.utf8ByteSize < 9) :
    file ++ verifiedSuffix ≠ text := by
  rintro rfl
  rw [utf8ByteSize_marker] at short
  omega

theorem isName_marker (isName : Path.IsName file) : Path.IsName (file ++ verifiedSuffix) := by
  refine ⟨marker_ne_of_short file (by decide), marker_ne_of_short file (by decide),
    marker_ne_of_short file (by decide), ?_⟩
  rw [String.toList_append, List.mem_append, not_or]
  exact ⟨isName.2.2.2, by decide⟩

theorem unmarked_namedShelf (named : String.ofList line.name = file) (isName : Path.IsName file) :
    (namedShelf line).pathExists (namedImage file).markerPath = false := by
  rw [markerPath_namedImage]
  refine pathExists_namedShelf (isName_marker isName) (fun same => ?_)
    (marker_ne_of_short file (by decide))
  have longer := utf8ByteSize_marker file
  rw [same, named] at longer
  omega

theorem markerPath_ne_listings (isName : Path.IsName file) (listing : file ≠ "SUMS") :
    (namedImage file).markerPath ≠ shelf.join "SUMS" ∧
      (namedImage file).markerPath ≠ (shelf.join "SUMS").withSuffix verifiedSuffix := by
  have sums : Path.IsName "SUMS" := by decide
  rw [markerPath_namedImage, Path.join_withSuffix shelf _ (by decide)]
  refine ⟨fun same => ?_, fun same => ?_⟩
  · exact marker_ne_of_short file (by decide)
      (Path.join_inj_of_isName (isName_marker isName) sums same)
  · have copies := Path.join_inj_of_isName (isName_marker isName) (isName_marker sums) same
    rw [String.append_left_inj] at copies
    exact listing copies

/-- A name of more than 246 bytes leaves no room for what a marker's name has more. -/
theorem not_fits_markerPath (isName : Path.IsName file) (long : 246 < file.utf8ByteSize) :
    ¬ (namedImage file).markerPath.Fits := by
  intro fits
  have short := fits.name
  rw [markerPath_namedImage, (Path.lastName_join (isName_marker isName).2.2.2).1,
    utf8ByteSize_marker, nameLimit] at short
  omega

theorem resolveIn_namedDeclaration (named : fileNameOfUrl ("https://host/" ++ file) = some file)
    (undated : debianRelease file = none) :
    resolveIn shelf (namedDeclaration file) = .ok (namedImage file) := by
  have listing : fileNameOfUrl "https://host/SUMS" = some "SUMS" := by decide
  simp only [resolveIn, namedDeclaration, named, checksumPathIn, listing, checksumFileName, undated]
  rfl

theorem read_image_namedShelf (readable : ∀ path, guard.reading path = none)
    (named : String.ofList line.name = file) (names : NamesFile file) :
    (namedShelf line).guardedRead guard (namedImage file).imagePath = .ok (Bytes.ofText "abc") := by
  have held : (namedShelf line).get? ["images", file] = some (.file (Bytes.ofText "abc")) := by
    simp [get?, namedShelf, List.lookup_cons, named]
  rw [guardedRead, readable]
  exact read_eq_ok.mpr ⟨_, fileLocation?_namedShelf names, held⟩

theorem read_listing_namedShelf (readable : ∀ path, guard.reading path = none)
    (named : String.ofList line.name = file) (listing : file ≠ "SUMS")
    (copy : file ≠ "SUMS.verified") :
    (namedShelf line).guardedRead guard
      (listingPath (namedShelf line) (shelf.join "SUMS")) =
        .ok (Bytes.ofText (lineAlone line).text) := by
  subst named
  have suffixed : (shelf.join "SUMS").withSuffix verifiedSuffix = shelf.join "SUMS.verified" := by
    decide
  have noCopy : ¬ (namedShelf line).isFile (shelf.join "SUMS.verified") = true := by
    intro isFile
    have found := pathExists_of_isFile isFile
    rw [pathExists_namedShelf (by decide) copy.symm (by decide)] at found
    cases found
  have sums : NamesFile "SUMS" := ⟨by decide, by decide, by decide⟩
  have held : (namedShelf line).get? ["images", "SUMS"] =
      some (.file (Bytes.ofText (lineAlone line).text)) := by
    simp [get?, namedShelf, List.lookup_cons, beq_false_of_ne listing.symm]
  rw [listingPath, suffixed, if_neg noCopy, guardedRead, readable]
  exact read_eq_ok.mpr ⟨_, fileLocation?_namedShelf sums, held⟩

theorem passes_namedImage (readable : ∀ path, guard.reading path = none)
    (named : String.ofList line.name = file) (isName : Path.IsName file)
    (listing : file ≠ "SUMS") (copy : file ≠ "SUMS.verified") (digest : line.digest = shortDigest) :
    (namedImage file).Passes guard (namedShelf line) (shelf.join "SUMS")
      (Bytes.ofText "abc") := by
  have known : (namedImage file).algorithm = .ok .sha256 := by
    change ChecksumAlgorithm.parse "sha256" = .ok .sha256
    decide
  have read := read_listing_namedShelf readable named listing copy
  have listed := digestOf_lineAlone line
  rw [digest, named, ← fileName_namedImage isName] at listed
  refine ⟨.sha256, shortDigest.lowered, known, ⟨_, _, read, Bytes.toText?_ofText _, listed⟩, ?_⟩
  rw [digest_letters]

structure PassesUnmarked (guard : Guard) (line : Listing.PlainLine) (file : String) : Prop where
  resolved : resolveIn shelf (namedDeclaration file) = .ok (namedImage file)
  notListing : (namedImage file).markerPath ≠ shelf.join "SUMS"
  notCopy : (namedImage file).markerPath ≠ (shelf.join "SUMS").withSuffix verifiedSuffix
  imageRead : (namedShelf line).guardedRead guard (namedImage file).imagePath =
    .ok (Bytes.ofText "abc")
  unmarked : (namedShelf line).pathExists (namedImage file).markerPath = false
  passes : (namedImage file).Passes guard (namedShelf line) (shelf.join "SUMS") (Bytes.ofText "abc")

theorem passesUnmarked (resolved : resolveIn shelf (namedDeclaration file) = .ok (namedImage file))
    (readable : ∀ path, guard.reading path = none) (named : String.ofList line.name = file)
    (names : NamesFile file) (listing : file ≠ "SUMS") (copy : file ≠ "SUMS.verified")
    (digest : line.digest = shortDigest) : PassesUnmarked guard line file where
  resolved := resolved
  notListing := (markerPath_ne_listings names.isName listing).1
  notCopy := (markerPath_ne_listings names.isName listing).2
  imageRead := read_image_namedShelf readable named names
  unmarked := unmarked_namedShelf named names.isName
  passes := passes_namedImage readable named names.isName listing copy digest

theorem PassesUnmarked.verified (passing : PassesUnmarked guard line file)
    (run : (namedImage file).verifyChecksum.run.Runs (guardedConduct guard) (namedShelf line) events
      outcome final) :
    (namedImage file).Verified guard (shelf.join "SUMS") (Bytes.ofText "abc") (namedShelf line)
      outcome final :=
  verified_of_comparison (read_of_guarded passing.imageRead) (.inl passing.unmarked)
    (comparison_of_verifyChecksum rfl passing.imageRead run)

end Shelf

theorem oneWord_of_all {name : List Char}
    (plain : (name.all fun character => !Text.isBlank character) = true) :
    ∀ character ∈ name, Text.isBlank character = false :=
  fun character member => by simpa using List.all_eq_true.mp plain character member

def capitalLine : Listing.PlainLine where
  digest := shortDigest
  binary := false
  name := "a.img".toList
  nonempty := by decide
  oneWord := oneWord_of_all (by decide)
  unstarred := by decide

theorem markerPath_capital : (namedImage "a.img").markerPath = shelf.join "a.img.verified" := by
  decide

theorem passesUnmarked_capital (readable : ∀ path, guard.reading path = none) :
    PassesUnmarked guard capitalLine "a.img" :=
  passesUnmarked (resolveIn_namedDeclaration (by decide) (by decide)) readable String.ofList_toList
    ⟨by decide, by decide, by decide⟩ (by decide) (by decide) rfl

theorem fits_capital : (namedImage "a.img").markerPath.Fits := ⟨by decide, by decide⟩

/-- An image passes with a digest in capital letters and is marked with the digest that it has. -/
theorem capital_digest_passes : ∃ events final,
    (namedImage "a.img").verifyChecksum.run.Runs (guardedConduct unguarded)
      (namedShelf capitalLine) events (.ok ()) final ∧
    final.read (shelf.join "a.img.verified") =
      .ok (Bytes.ofText (ChecksumAlgorithm.sha256.digest (Bytes.ofText "abc") ++ "\n")) := by
  have passing : PassesUnmarked unguarded capitalLine "a.img" :=
    passesUnmarked_capital fun _ => rfl
  obtain ⟨checksum, hasChecksum, ⟨events, outcome, final, run⟩, verified⟩ :=
    verifyChecksum_verified passing.resolved rfl passing.imageRead (.inl passing.unmarked)
  obtain rfl : shelf.join "SUMS" = checksum := Option.some.inj hasChecksum
  obtain rfl := (verified run).succeeds.mpr ⟨passing.passes, rfl, fits_capital⟩
  obtain ⟨algorithm, known, marked⟩ := (verified run).marked rfl
  obtain rfl : ChecksumAlgorithm.sha256 = algorithm := by
    refine Except.ok.inj (ε := LabError) (Eq.trans ?_ known)
    decide
  rw [markerPath_capital] at marked
  exact ⟨events, final, run, marked⟩

def longLine : Listing.PlainLine where
  digest := shortDigest
  binary := false
  name := List.replicate 250 'a'
  nonempty := by decide
  oneWord := by
    intro character member
    rw [List.eq_of_mem_replicate member]
    decide
  unstarred := by decide

theorem namesFile_of_letters {file : String} (letters : file.toList = List.replicate 250 'a') :
    NamesFile file ∧ file.utf8ByteSize = 250 := by
  obtain rfl : String.ofList (List.replicate 250 'a') = file := by
    rw [← letters, String.ofList_toList]
  have size : (String.ofList (List.replicate 250 'a')).utf8ByteSize = 250 := by decide +kernel
  have differs : ∀ {text : String}, text.utf8ByteSize ≠ 250 →
      String.ofList (List.replicate 250 'a') ≠ text :=
    fun other same => other (same ▸ size)
  have without : ∀ {character : Char}, character ≠ 'a' →
      character ∉ (String.ofList (List.replicate 250 'a')).toList := by
    intro character other member
    rw [letters] at member
    exact other (List.eq_of_mem_replicate member)
  exact ⟨⟨⟨differs (by decide), differs (by decide), differs (by decide),
    without (by decide)⟩, without (by decide), size.trans_le (by decide)⟩, size⟩

theorem resolveIn_of_letters {file : String} (letters : file.toList = List.replicate 250 'a') :
    resolveIn shelf (namedDeclaration file) = .ok (namedImage file) := by
  have spelled : file = String.ofList (List.replicate 250 'a') := by
    rw [← letters, String.ofList_toList]
  have undated : Text.splitFirst "debian-".toList (Text.lower (List.replicate 250 'a')) = none := by
    decide +kernel
  refine resolveIn_namedDeclaration ?_ ?_
  · rw [fileNameOfUrl, String.toList_append, letters, spelled]
    refine (congrArg (Option.map String.ofList) (?_ : _ = some (List.replicate 250 'a'))).trans rfl
    decide +kernel
  · rw [debianRelease, letters, undated]
    rfl

theorem passesUnmarked_long {file : String} (named : String.ofList longLine.name = file)
    (letters : file.toList = List.replicate 250 'a') : PassesUnmarked unguarded longLine file := by
  obtain ⟨names, size⟩ := namesFile_of_letters letters
  have differs : ∀ {text : String}, text.utf8ByteSize ≠ 250 → file ≠ text :=
    fun other same => other (same ▸ size)
  exact passesUnmarked (resolveIn_of_letters letters) (fun _ => rfl) named names
    (differs (by decide)) (differs (by decide)) rfl

/-- Images that pass where that cannot be recorded: a name leaves no room for that of a marker, or
the device has no room for what is in it, and then the failed run leaves a marker. -/
theorem passing_unrecorded :
    (PassesUnmarked unguarded longLine (String.ofList longLine.name) ∧
      ∀ {events outcome final},
        (namedImage (String.ofList longLine.name)).verifyChecksum.run.Runs
          (guardedConduct unguarded) (namedShelf longLine) events outcome final →
        outcome ≠ .ok ()) ∧
    PassesUnmarked fullDevice capitalLine "a.img" ∧
      ∀ {events outcome final},
        (namedImage "a.img").verifyChecksum.run.Runs (guardedConduct fullDevice)
          (namedShelf capitalLine) events outcome final →
        outcome ≠ .ok () ∧ final.pathExists (shelf.join "a.img.verified") = true := by
  constructor
  · have letters : (String.ofList longLine.name).toList = List.replicate 250 'a' :=
      String.toList_ofList
    -- The letters are not to be looked at again.
    generalize named : String.ofList longLine.name = file at letters ⊢
    have passing := passesUnmarked_long named letters
    obtain ⟨names, size⟩ := namesFile_of_letters letters
    refine ⟨passing, fun run succeeded => ?_⟩
    exact not_fits_markerPath names.isName (size.ge.trans_lt' (by decide))
      ((passing.verified run).succeeds.mp succeeded).2.2
  · have passing : PassesUnmarked fullDevice capitalLine "a.img" :=
      passesUnmarked_capital fun _ => rfl
    refine ⟨passing, fun run => ?_⟩
    obtain ⟨rfl, _, _, _, _, held⟩ :=
      (passing.verified run).begun _ passing.passes fits_capital rfl
    rw [← markerPath_capital, pathExists_of_isFile (isFile_iff.mpr ⟨_, held⟩)]
    exact ⟨nofun, rfl⟩

end CloudImage

end VirtualLab
