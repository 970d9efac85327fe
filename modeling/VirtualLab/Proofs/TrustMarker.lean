import VirtualLab.Proofs.Acquisition

/-!
# The marker of a verified image

Whoever finds an image with its marker takes the image for verified. Acquiring an image keeps this
sound, except where it downloads an image beside the marker of an earlier one and then fails
before the new image is compared with its checksum.
-/

namespace VirtualLab

namespace CloudImage

open FileSystem

def Attests (image : CloudImage) (marker content : Bytes) : Prop :=
  ∃ algorithm, image.algorithm = .ok algorithm ∧
    marker = Bytes.ofText (algorithm.digest content ++ "\n")

/-- If the image and its marker are both there, the marker is about the image. -/
def Vouched (image : CloudImage) (files : FileSystem) : Prop :=
  ∀ content marker, files.read image.imagePath = .ok content →
    files.read image.markerPath = .ok marker → image.Attests marker content

def Undecided (image : CloudImage) (outcome : Except LabError AcquireReport) : Prop :=
  ∃ failure, outcome = .error failure ∧ image.IsOther failure

/-- A new image lies beside the marker of an earlier one, and was not compared with its checksum. -/
def LeftStale (image : CloudImage) (start : FileSystem) (outcome : Except LabError AcquireReport)
    (after : FileSystem) : Prop :=
  start.isFile image.imagePath = false ∧ image.Undecided outcome ∧
    ∃ content marker, after.read image.imagePath = .ok content ∧
      start.read image.markerPath = .ok marker ∧ ¬ image.Attests marker content

def anyOutputs : SignatureToolConduct :=
  fun arguments before _ after => KeepsToOutputs arguments before after

variable {image : CloudImage} {start ready before after : FileSystem}
  {events : List (Event FileSystem)}

theorem vouched_of_unmarked (unmarked : after.isFile image.markerPath = false) :
    image.Vouched after := by
  intro content marker _ marked
  have isMarked := isFile_iff.mpr ⟨marker, marked⟩
  rw [unmarked] at isMarked
  cases isMarked

theorem vouched_of_verdict {verdict : Except LabError Unit}
    (judged : image.Verdict before events verdict after)
    (decided : ∀ failure, verdict = .error failure → ¬ image.IsOther failure) :
    image.Vouched after := by
  cases judged with
  | undecided other => exact absurd other (decided _ rfl)
  | mismatched unmarked => exact vouched_of_unmarked unmarked
  | matched _ _ known _ _ imageRead _ written =>
      intro content marker imageHeld markerHeld
      have differs := modifyFile_differs written (List.mem_singleton.mpr rfl)
      have sameImage := (differs.read fun other member => by
        rw [List.mem_singleton.mp member]
        exact image.image_apart_marker.symm).mp imageHeld
      cases sameImage.symm.trans imageRead
      cases markerHeld.symm.trans (read_of_write written)
      exact ⟨_, known, rfl⟩

theorem vouched_of_inView (imageInView : start.InView image.directory image.imagePath)
    (markerInView : start.InView image.directory image.markerPath) (vouched : image.Vouched start) :
    image.Vouched (start.createDirectories image.directory).2 := by
  intro content marker imageHeld markerHeld
  exact vouched content marker (imageInView.read.mp imageHeld) (markerInView.read.mp markerHeld)

/-- A run with a decision leaves a marker that is about the image. -/
theorem vouched_of_decided {tool : SignatureToolConduct} {checksum : Path}
    {outcome : Except LabError AcquireReport} (hasUrl : image.checksumUrl.isSome = true)
    (hasChecksum : image.checksumPath = some checksum)
    (vouched : image.Vouched (start.createDirectories image.directory).2)
    (course : image.Course tool start events outcome after)
    (decided : ¬ image.Undecided outcome) : image.Vouched after := by
  cases course with
  | unmade making => exact absurd ⟨_, rfl, by simp [IsOther]⟩ decided
  | incomplete making downloading =>
      exact absurd ⟨_, rfl, isOther_of_downloadMissing downloading⟩ decided
  | unchecked making downloading noChecksum => simp [noChecksum] at hasUrl
  | known making downloading marked =>
      rw [making] at vouched
      exact eq_of_downloadMissing_nil downloading ▸ vouched
  | unsigned making downloading verifying =>
      exact absurd ⟨_, rfl, isOther_of_verifySignature verifying⟩ decided
  | judged making downloading verifying judging =>
      refine vouched_of_verdict (verdict_of_verifyChecksum hasChecksum judging) ?_
      intro failure equal other
      subst equal
      exact decided ⟨failure, rfl, other⟩

theorem unjudged_of_undecided {tool : SignatureToolConduct} {checksum : Path}
    {outcome : Except LabError AcquireReport}
    (frame : ∀ {arguments before answer after}, tool arguments before answer after →
      KeepsToOutputs arguments before after)
    (hasChecksum : image.checksumPath = some checksum) (separate : image.Separate)
    (course : image.Course tool start events outcome after)
    (undecided : image.Undecided outcome) :
    image.Unjudged (start.createDirectories image.directory).2 after := by
  cases course with
  | unmade making =>
      rw [making]
      exact .refl image after
  | incomplete making downloading =>
      rw [making]
      exact unjudged_of_downloadMissing separate downloading
  | unchecked making downloading noChecksum =>
      obtain ⟨_, impossible, _⟩ := undecided
      cases impossible
  | known making downloading marked =>
      obtain ⟨_, impossible, _⟩ := undecided
      cases impossible
  | unsigned making downloading verifying =>
      rw [making]
      exact (unjudged_of_downloadMissing separate downloading).trans
        (unjudged_of_differs separate (verifySignature_differs frame verifying))
  | judged making downloading verifying judging =>
      rw [making]
      refine (unjudged_of_downloadMissing separate downloading).trans ?_
      refine (unjudged_of_differs separate (verifySignature_differs frame verifying)).trans ?_
      cases verdict_of_verifyChecksum hasChecksum judging with
      | undecided => exact .refl image after
      | mismatched =>
          obtain ⟨_, equal, other⟩ := undecided
          cases equal
          exact absurd rfl (other _ _)
      | matched =>
          obtain ⟨_, impossible, _⟩ := undecided
          cases impossible

theorem requireTrusted_runs {tool : SignatureToolConduct} (hasUrl : image.checksumUrl.isSome = true)
    (present : start.isFile image.imagePath = true)
    (marked : start.isFile image.markerPath = true) :
    ∃ events, image.requireTrusted.run.Runs (conduct tool) start events
      (.ok image.imagePath) start := by
  have noUrl : image.checksumUrl.isNone = false := by simpa using hasUrl
  let seen : List (Event FileSystem) := [⟨start, .isFile image.imagePath, true, start⟩]
  let known : List (Event FileSystem) :=
    [⟨start, .isFile image.imagePath, true, start⟩, ⟨start, .isFile image.markerPath, true, start⟩]
  have trusted : image.isTrusted.Runs (conduct tool) start known true start := by
    refine .ask ⟨present.symm, rfl⟩ ?_
    simp only [noUrl]
    exact .ask ⟨marked.symm, rfl⟩ (.done _ _)
  refine ⟨seen ++ (known ++ []), ?_⟩
  rw [requireTrusted, Attempt.runs_ask_bind]
  refine ⟨true, start, known ++ [], ⟨present.symm, rfl⟩, ?_, rfl⟩
  exact Attempt.runs_lift_bind.mpr
    ⟨true, known, start, [], trusted, Attempt.runs_pure.mpr ⟨rfl, rfl, rfl⟩, rfl⟩

theorem LeftStale.reads {outcome : Except LabError AcquireReport}
    (stale : image.LeftStale start outcome after)
    (markerInView : start.InView image.directory image.markerPath)
    (unjudged : image.Unjudged (start.createDirectories image.directory).2 after) :
    ∃ content marker, after.read image.imagePath = .ok content ∧
      after.read image.markerPath = .ok marker ∧ ¬ image.Attests marker content := by
  obtain ⟨_, _, content, marker, imageHeld, markerHeld, notAttests⟩ := stale
  refine ⟨content, marker, imageHeld, ?_, notAttests⟩
  exact unjudged.marker.mpr (markerInView.read.mpr markerHeld)

/-- What was vouched for and is not any more was left stale. -/
theorem leftStale_of_unjudged {outcome : Except LabError AcquireReport}
    (imageInView : start.InView image.directory image.imagePath)
    (markerInView : start.InView image.directory image.markerPath) (vouched : image.Vouched start)
    (undecided : image.Undecided outcome)
    (unjudged : image.Unjudged (start.createDirectories image.directory).2 after)
    (unvouched : ¬ image.Vouched after) : image.LeftStale start outcome after := by
  simp only [Vouched, not_forall] at unvouched
  obtain ⟨content, marker, imageHeld, markerHeld, notAttests⟩ := unvouched
  have markerBefore : start.read image.markerPath = .ok marker :=
    markerInView.read.mp (unjudged.marker.mp markerHeld)
  refine ⟨?_, undecided, content, marker, imageHeld, markerBefore, notAttests⟩
  rw [Bool.eq_false_iff]
  intro present
  have ready : (start.createDirectories image.directory).2.isFile image.imagePath = true := by
    obtain ⟨earlier, held⟩ := isFile_iff.mp present
    exact isFile_iff.mpr ⟨earlier, (createDirectories_adds start image.directory).read held⟩
  have imageBefore : start.read image.imagePath = .ok content :=
    imageInView.read.mp ((unjudged.content ready).mp imageHeld)
  exact notAttests (vouched content marker imageBefore markerBefore)

/-- A run that ends with a decision leaves the image vouched for. If the image and its marker are
files of their own, then so does every run, except where a new image was left with an old marker;
and that image is handed out. -/
theorem vouched_after_acquire {outcome : Except LabError AcquireReport}
    (hasUrl : image.checksumUrl.isSome = true) (hasPath : image.checksumPath.isSome = true)
    (imageInView : start.InView image.directory image.imagePath)
    (markerInView : start.InView image.directory image.markerPath) (vouched : image.Vouched start)
    (run : image.acquire.run.Runs (conduct anyOutputs) start events outcome after) :
    (¬ image.Undecided outcome → image.Vouched after) ∧
      (image.Separate →
        (image.Vouched after ↔ ¬ image.LeftStale start outcome after) ∧
        (image.LeftStale start outcome after →
          ∃ later, image.requireTrusted.run.Runs (conduct anyOutputs) after later
            (.ok image.imagePath) after)) := by
  obtain ⟨checksum, hasChecksum⟩ := Option.isSome_iff_exists.mp hasPath
  have course := course_of_acquire run
  have decision := vouched_of_decided hasUrl hasChecksum
    (vouched_of_inView imageInView markerInView vouched) course
  refine ⟨decision, fun separate => ?_⟩
  have unjudged : image.Undecided outcome →
      image.Unjudged (start.createDirectories image.directory).2 after :=
    unjudged_of_undecided id hasChecksum separate course
  refine ⟨⟨fun vouchedAfter stale => ?_, fun notStale => ?_⟩, fun stale => ?_⟩
  · obtain ⟨content, marker, imageHeld, markerHeld, notAttests⟩ :=
      stale.reads markerInView (unjudged stale.2.1)
    exact notAttests (vouchedAfter content marker imageHeld markerHeld)
  · by_contra unvouched
    have undecided : image.Undecided outcome := by
      by_contra decided
      exact unvouched (decision decided)
    exact notStale (leftStale_of_unjudged imageInView markerInView vouched undecided
      (unjudged undecided) unvouched)
  · obtain ⟨content, marker, imageHeld, markerHeld, _⟩ :=
      stale.reads markerInView (unjudged stale.2.1)
    exact requireTrusted_runs hasUrl (isFile_iff.mpr ⟨content, imageHeld⟩)
      (isFile_iff.mpr ⟨marker, markerHeld⟩)

/-! ## Markers that are not about the image -/

theorem anyOutputs_copySigned (arguments : List String) (files : FileSystem) :
    anyOutputs arguments files (copySigned arguments files).1 (copySigned arguments files).2 :=
  copySigned_keepsToOutputs arguments files

def unlistedImage : CloudImage where
  name := "unlisted"
  imageUrl := "https://host/new.img"
  checksumUrl := some "https://host/sums"
  checksumType := some "sha256"
  keyUrl := none
  networkVersion := 1
  osVariant := "unlisted"
  directory := ⟨"/images"⟩
  imagePath := ⟨"/images/new.img"⟩
  checksumPath := some ⟨"/images/sums"⟩
  keyPath := none

def markedShelf : FileSystem where
  entries := [(["images"], .directory), (["images", "sums"], .file []),
    (["images", "new.img.verified"], .file (Bytes.ofText "old"))]

theorem separate_unlistedImage : unlistedImage.Separate := by
  have others : ∀ path ∈ unlistedImage.sidePaths, path.lastName ≠ ".." ∧
      path.lastName ≠ unlistedImage.imagePath.lastName ∧
      path.lastName ≠ unlistedImage.markerPath.lastName := by decide +kernel
  intro path member
  obtain ⟨notUp, notImage, notMarker⟩ := others path member
  exact ⟨Path.apart_of_lastName_ne notUp (by decide +kernel) notImage,
    Path.apart_of_lastName_ne notUp (by decide +kernel) notMarker⟩

/-- An image of one byte comes from the server and is handed out with the marker of the old one. -/
theorem stale_marker_kept :
    markedShelf.InView unlistedImage.directory unlistedImage.imagePath ∧
      markedShelf.InView unlistedImage.directory unlistedImage.markerPath ∧
      unlistedImage.Vouched markedShelf ∧
      unlistedImage.Separate ∧
      ∃ events failure after,
        unlistedImage.acquire.run.Runs (conduct anyOutputs) markedShelf events (.error failure) after ∧
        unlistedImage.LeftStale markedShelf (.error failure) after ∧
        ¬ unlistedImage.Vouched after ∧
        ∃ later, unlistedImage.requireTrusted.run.Runs (conduct anyOutputs) after later
          (.ok unlistedImage.imagePath) after := by
  have imageInView : markedShelf.InView unlistedImage.directory unlistedImage.imagePath := by
    unfold FileSystem.InView
    decide +kernel
  have markerInView : markedShelf.InView unlistedImage.directory unlistedImage.markerPath := by
    unfold FileSystem.InView
    decide +kernel
  have absent : markedShelf.isFile unlistedImage.imagePath = false := by decide +kernel
  have vouched : unlistedImage.Vouched markedShelf := by
    intro content marker imageHeld _
    rw [isFile_iff.mpr ⟨content, imageHeld⟩] at absent
    cases absent
  have known : unlistedImage.algorithm = .ok .sha256 := by decide +kernel
  have notAttests : ¬ unlistedImage.Attests (Bytes.ofText "old") [0x61] := by
    rintro ⟨algorithm, parsed, equal⟩
    cases known.symm.trans parsed
    exact absurd equal (by decide +kernel)
  obtain ⟨events, run⟩ := runs_respond anyOutputs_copySigned
    (fun _ => .ok ⟨200, none, [[0x61]], none⟩) unlistedImage.acquire.run markedShelf
  rw [show unlistedImage.acquire.run.run _ markedShelf =
    (.error (.image "unlisted" (.notListed ⟨"/images/sums"⟩ "new.img")),
      markedShelf.put ["images", "new.img"] (.file [0x61])) by decide +kernel] at run
  have stale : unlistedImage.LeftStale markedShelf
      (.error (.image "unlisted" (.notListed ⟨"/images/sums"⟩ "new.img")))
      (markedShelf.put ["images", "new.img"] (.file [0x61])) :=
    ⟨absent, ⟨_, rfl, by simp [IsOther]⟩, _, _, by decide +kernel, by decide +kernel, notAttests⟩
  obtain ⟨_, kept⟩ := vouched_after_acquire (by decide) (by decide) imageInView
    markerInView vouched run
  obtain ⟨vouched_iff, handedOut⟩ := kept separate_unlistedImage
  exact ⟨imageInView, markerInView, vouched, separate_unlistedImage, events, _, _, run, stale,
    fun vouchedAfter => vouched_iff.mp vouchedAfter stale, handedOut stale⟩

def twinDeclaration : ImageDeclaration where
  name := "twin"
  imageUrl := "https://host/a.img"
  checksumUrl := some "https://host/sums/a.img"
  checksumType := some "sha256"
  keyUrl := some "https://host/key.gpg"

def twinImage : CloudImage where
  name := "twin"
  imageUrl := "https://host/a.img"
  checksumUrl := some "https://host/sums/a.img"
  checksumType := some "sha256"
  keyUrl := some "https://host/key.gpg"
  networkVersion := 1
  osVariant := "twin"
  directory := ⟨"/images"⟩
  imagePath := ⟨"/images/a.img"⟩
  checksumPath := some ⟨"/images/a.img"⟩
  keyPath := some ⟨"/images/key.gpg"⟩

def unmarkedShelf : FileSystem where
  entries := [(["images"], .directory), (["images", "a.img"], .file (Bytes.ofText "abc")),
    (["images", "key.gpg"], .file (Bytes.ofText "KEY"))]

/-- The copy of the checksum file that the signature tool leaves is where the marker would be. The
run fails, and the next one takes the image for verified. -/
theorem signed_copy_taken_for_marker :
    resolveIn ⟨"/images"⟩ twinDeclaration = .ok twinImage ∧
      unmarkedShelf.InView twinImage.directory twinImage.imagePath ∧
      unmarkedShelf.InView twinImage.directory twinImage.markerPath ∧
      twinImage.Vouched unmarkedShelf ∧
      ∃ events failure after later,
        twinImage.acquire.run.Runs (conduct anyOutputs) unmarkedShelf events (.error failure) after ∧
        ¬ twinImage.Vouched after ∧
        twinImage.acquire.run.Runs (conduct anyOutputs) after later
          (.ok { alreadyVerified := true }) after := by
  have imageInView : unmarkedShelf.InView twinImage.directory twinImage.imagePath := by
    unfold FileSystem.InView
    decide +kernel
  have markerInView : unmarkedShelf.InView twinImage.directory twinImage.markerPath := by
    unfold FileSystem.InView
    decide +kernel
  have vouched : twinImage.Vouched unmarkedShelf := vouched_of_unmarked (by decide +kernel)
  have known : twinImage.algorithm = .ok .sha256 := by decide +kernel
  have notAttests : ¬ twinImage.Attests (Bytes.ofText "abc") (Bytes.ofText "abc") := by
    rintro ⟨algorithm, parsed, equal⟩
    cases known.symm.trans parsed
    exact absurd equal (by decide +kernel)
  let marked := unmarkedShelf.put ["images", "a.img.verified"] (.file (Bytes.ofText "abc"))
  obtain ⟨events, run⟩ := runs_respond anyOutputs_copySigned
    (fun url => .error url) twinImage.acquire.run unmarkedShelf
  obtain ⟨later, again⟩ := runs_respond anyOutputs_copySigned
    (fun url => .error url) twinImage.acquire.run marked
  rw [show twinImage.acquire.run.run _ unmarkedShelf =
    (.error (.image "twin" (.notListed ⟨"/images/a.img.verified"⟩ "a.img")), marked)
    by decide +kernel] at run
  rw [show twinImage.acquire.run.run _ marked = (.ok { alreadyVerified := true }, marked)
    by decide +kernel] at again
  refine ⟨by decide +kernel, imageInView, markerInView, vouched, events, _, marked, later, run,
    ?_, again⟩
  exact fun vouchedAfter =>
    notAttests (vouchedAfter _ _ (by decide +kernel) (by decide +kernel))

end CloudImage

end VirtualLab
