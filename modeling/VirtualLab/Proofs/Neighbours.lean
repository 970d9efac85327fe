import VirtualLab.Proofs.Origins
import VirtualLab.Proofs.SignedChecksum
import VirtualLab.Proofs.TrustMarker

/-!
# Images beside each other

All images of an environment are kept in one directory, under the last names of their URLs. As
long as no file of one image is in the place of one that another is judged by, acquiring the one
leaves what is known of the other. Images that share such a name vouch for each other.
-/

namespace VirtualLab

namespace CloudImage

open FileSystem Download

variable {tool : SignatureToolConduct} {start before after : FileSystem} {image other : CloudImage}
  {events : List (Event FileSystem)}

/-! ## Trust -/

def Trusted (image : CloudImage) (files : FileSystem) : Prop :=
  files.isFile image.imagePath = true ∧
    (image.checksumUrl.isSome = true → files.isFile image.markerPath = true)

theorem isTrusted_runs {answer : Bool}
    (run : image.isTrusted.Runs (conduct tool) before events answer after) :
    after = before ∧ (answer = true ↔ image.Trusted before) := by
  obtain ⟨present, middle, _, ⟨isPresent, same⟩, going, _⟩ := Script.runs_ask.mp run
  subst same
  unfold Trusted
  rw [← isPresent]
  cases present with
  | false =>
      obtain ⟨_, rfl, rfl⟩ := Script.runs_pure.mp going
      exact ⟨rfl, by simp⟩
  | true =>
      replace going : (if image.checksumUrl.isNone then (pure true : Script Bool)
        else Script.request (.isFile image.markerPath)).Runs _ _ _ _ _ := going
      cases hasUrl : image.checksumUrl with
      | none =>
          rw [hasUrl] at going
          obtain ⟨_, rfl, rfl⟩ := Script.runs_pure.mp going
          exact ⟨rfl, by simp⟩
      | some url =>
          rw [hasUrl] at going
          obtain ⟨⟨isMarked, rfl⟩, _⟩ := Script.runs_request.mp going
          exact ⟨rfl, by simp [isMarked]⟩

/-! ## What acquiring an image changes -/

def written (image : CloudImage) : List Path :=
  image.imagePath :: image.markerPath :: image.sidePaths

theorem expectedDigest_changesFilesAt (image : CloudImage) (source : Path) (paths : List Path) :
    (image.expectedDigest source).Confined (Request.ChangesFilesAt paths) fun _ => True := by
  have reads : (Script.readText source).Confined (Request.ChangesFilesAt paths) fun _ => True :=
    ⟨trivial, fun _ => trivial⟩
  refine Attempt.confined_bind (Attempt.confined_lift reads) fun content => ?_
  refine Attempt.confined_bind (Attempt.confined_orFail fun _ => trivial) fun text => ?_
  split
  · exact Attempt.confined_pure _
  · exact Attempt.confined_throw trivial

theorem verifyChecksum_changesFilesAt (image : CloudImage) :
    image.verifyChecksum.Confined (Request.ChangesFilesAt [image.markerPath]) fun _ => True := by
  have marks : image.markerPath ∈ [image.markerPath] := List.mem_singleton.mpr rfl
  refine Attempt.confined_bind (Attempt.confined_orFail fun _ => trivial) fun algorithm => ?_
  cases image.checksumPath with
  | none => exact Attempt.confined_pure ()
  | some checksum =>
      have chooses : (checksumSource checksum).Confined
          (Request.ChangesFilesAt [image.markerPath]) fun _ => True :=
        ⟨trivial, fun verified => by cases verified <;> trivial⟩
      have digests : (fileDigest image.imagePath algorithm).Confined
          (Request.ChangesFilesAt [image.markerPath]) fun _ => True :=
        Attempt.confined_bind (Attempt.confined_ask trivial) fun _ =>
          Attempt.confined_bind (Attempt.confined_orFail fun _ => trivial) fun _ =>
            Attempt.confined_pure _
      refine Attempt.confined_bind (Attempt.confined_lift chooses) fun source => ?_
      refine Attempt.confined_bind (expectedDigest_changesFilesAt image source _) fun expected => ?_
      refine Attempt.confined_bind digests fun actual => ?_
      have written : Attempt.Confined (Request.ChangesFilesAt [image.markerPath])
          (fun _ : LabError => True) (Attempt.ask (.writeFile image.markerPath
            (Bytes.ofText (actual ++ "\n"))) >>= Attempt.orFail LabError.file) :=
        Attempt.confined_bind (Attempt.confined_ask marks) fun _ =>
          Attempt.confined_orFail fun _ => trivial
      split
      · exact Attempt.confined_bind (Attempt.confined_ask marks) fun _ =>
          Attempt.confined_bind (Attempt.confined_throw trivial) fun _ => written
      · exact written

/-- Once its directory is made, acquiring an image changes files at its own paths only. -/
theorem differs_of_acquire {outcome : Except LabError AcquireReport}
    (frame : ∀ {arguments before answer after}, tool arguments before answer after →
      KeepsToOutputs arguments before after)
    (run : image.acquire.run.Runs (conduct tool) start events outcome after) :
    DiffersOnlyAt image.written (start.createDirectories image.directory).2 after := by
  have downloads : ∀ {before after events outcome},
      (downloadMissing image.artifacts).run.Runs (conduct tool) before events outcome after →
        DiffersOnlyAt image.written before after := fun run =>
    (downloadMissing_differs run).mono fun path member => by
      rcases List.mem_cons.mp member with rfl | side
      · exact List.mem_cons_self
      · exact List.mem_cons_of_mem _ (List.mem_cons_of_mem _ side)
  have signing : ∀ {before after events outcome},
      image.verifySignature.run.Runs (conduct tool) before events outcome after →
        DiffersOnlyAt image.written before after := fun run =>
    (verifySignature_differs frame run).mono fun _ side =>
      List.mem_cons_of_mem _ (List.mem_cons_of_mem _ side)
  have comparing : ∀ {before after events outcome},
      image.verifyChecksum.run.Runs (conduct tool) before events outcome after →
        DiffersOnlyAt image.written before after := fun run =>
    (differs_of_runs (verifyChecksum_changesFilesAt image) run).mono (by simp [written])
  cases course_of_acquire run with
  | unmade making => rw [making]; exact .refl _ _
  | incomplete making downloading => rw [making]; exact downloads downloading
  | unchecked making downloading => rw [making]; exact downloads downloading
  | known making downloading => rw [making]; exact downloads downloading
  | unsigned making downloading verifying =>
      rw [making]
      exact (downloads downloading).trans (signing verifying)
  | judged making downloading verifying judging =>
      rw [making]
      exact ((downloads downloading).trans (signing verifying)).trans (comparing judging)

/-- A file that shares its place with none of the image's reads the same afterwards. -/
theorem read_after_acquire {outcome : Except LabError AcquireReport} {path : Path}
    (frame : ∀ {arguments before answer after}, tool arguments before answer after →
      KeepsToOutputs arguments before after)
    (apart : ∀ own ∈ image.written, own.Apart path) (inView : start.InView image.directory path)
    (run : image.acquire.run.Runs (conduct tool) start events outcome after) {content : Bytes} :
    after.read path = .ok content ↔ start.read path = .ok content :=
  ((differs_of_acquire frame run).read apart).trans inView.read

theorem isFile_iff_of_read {path : Path}
    (same : ∀ content, after.read path = .ok content ↔ before.read path = .ok content) :
    after.isFile path = before.isFile path := by
  rw [Bool.eq_iff_iff, isFile_iff, isFile_iff]
  exact exists_congr same

/-! ## Two images -/

/-- Acquiring an image shares no file with the other image and its marker. -/
def LeavesTrust (image other : CloudImage) : Prop :=
  ∀ path ∈ image.written, path.Apart other.imagePath ∧ path.Apart other.markerPath

def LeavesListing (image : CloudImage) (checksum : Path) : Prop :=
  ∀ path ∈ image.written, path.Apart checksum ∧ path.Apart (checksum.withSuffix verifiedSuffix)

/-- Making the directory of images brings none of these files to light. -/
def InViewAll (files : FileSystem) (environment : Environment) (paths : List Path) : Prop :=
  ∀ path ∈ paths, files.InView environment.imageDirectory path

/-- Acquiring an image neither makes another one trusted nor changes its bytes. An image that was
not marked is then still compared with a digest from its own source when it is acquired. -/
theorem neighbour_after_acquire {environment : Environment}
    {declaration otherDeclaration : ImageDeclaration} {outcome : Except LabError AcquireReport}
    (resolved : resolve environment declaration = .ok image)
    (otherResolved : resolve environment otherDeclaration = .ok other)
    (leavesTrust : other.LeavesTrust image)
    (inView : InViewAll start environment [image.imagePath, image.markerPath])
    (run : other.acquire.run.Runs (conduct anyOutputs) start events outcome after) :
    (image.Trusted after ↔ image.Trusted start) ∧
    (∀ content, after.read image.imagePath = .ok content ↔
      start.read image.imagePath = .ok content) ∧
    ∀ url, declaration.checksumUrl = some url → ∃ checksum, image.checksumPath = some checksum ∧
      (other.LeavesListing checksum → image.ListsAlone checksum →
        InViewAll start environment [checksum, checksum.withSuffix verifiedSuffix] →
        InViewAll after environment
          [image.markerPath, checksum, checksum.withSuffix verifiedSuffix] →
        start.isFile image.markerPath = false →
        ∀ later report final, image.acquire.run.Runs (conduct anyOutputs) after later
            (.ok report) final →
          image.ComparedWithOwn url checksum start later) := by
  have directory : image.directory = environment.imageDirectory :=
    (declared_of_resolveIn resolved).directory_eq
  have otherDirectory : other.directory = environment.imageDirectory :=
    (declared_of_resolveIn otherResolved).directory_eq
  have kept : ∀ path, (∀ own ∈ other.written, own.Apart path) →
      start.InView environment.imageDirectory path →
      ∀ content, after.read path = .ok content ↔ start.read path = .ok content := by
    intro path apart seen content
    exact read_after_acquire id apart (otherDirectory ▸ seen) run
  have imageKept := kept _ (fun own member => (leavesTrust own member).1) (inView _ (by simp))
  have markerKept := kept _ (fun own member => (leavesTrust own member).2) (inView _ (by simp))
  refine ⟨?_, imageKept, fun url hasUrl => ?_⟩
  · rw [Trusted, Trusted, isFile_iff_of_read imageKept, isFile_iff_of_read markerKept]
  · obtain ⟨_, _, sameUrl, samePath, _⟩ := declared_of_resolveIn resolved
    obtain ⟨checksum, hasChecksum⟩ := Option.isSome_iff_exists.mp
      (samePath.trans (by rw [hasUrl]; rfl))
    refine ⟨checksum, hasChecksum, ?_⟩
    intro leavesListing alone listingInView againInView unmarked later report final again
    refine comparedWithOwn_of_acquire id (sameUrl.trans hasUrl) hasChecksum alone ?_ ?_ again
    · rw [← isFile_iff_of_read markerKept] at unmarked
      rw [directory, Bool.eq_false_iff]
      intro shown
      rw [againInView _ (by simp) shown] at unmarked
      cases unmarked
    · intro path member content held
      rw [directory] at held
      have apart : ∀ own ∈ other.written, own.Apart path := by
        simp only [List.mem_cons, List.not_mem_nil, or_false] at member
        rcases member with rfl | rfl
        · exact fun own among => (leavesListing own among).1
        · exact fun own among => (leavesListing own among).2
      have seen := againInView path (List.mem_cons_of_mem _ member)
      exact (kept path apart (listingInView path member) content).mp (seen.read.mp held)

/-! ## Images from two hosts -/

def hosted (name host file listing : String) : ImageDeclaration where
  name := name
  imageUrl := "https://" ++ host ++ "/" ++ file
  checksumUrl := some ("https://" ++ host ++ "/" ++ listing)
  checksumType := some "sha256"

def imagesEnvironment : Environment where
  name := "lab"
  uri := Environment.defaultUri
  domain := none
  defaults := {}
  diskImageDirectory := ⟨"/srv"⟩
  cloudImageDirectory := ⟨"/srv"⟩

def hostedImage (name host file listing : String) : CloudImage where
  name := name
  imageUrl := "https://" ++ host ++ "/" ++ file
  checksumUrl := some ("https://" ++ host ++ "/" ++ listing)
  checksumType := some "sha256"
  keyUrl := none
  networkVersion := 1
  osVariant := name
  directory := ⟨"/srv/cloud-images"⟩
  imagePath := ⟨"/srv/cloud-images/" ++ file⟩
  checksumPath := some ⟨"/srv/cloud-images/" ++ listing⟩
  keyPath := none

def listingOf (file : String) : String :=
  "ba7816bf8f01cfea414140de5dae2223b00361a396177a9cb410ff61f20015ad  " ++ file ++ "\n"

def serving (texts : List (String × String)) (url : String) : Except String Response :=
  match texts.lookup url with
  | some text => .ok ⟨200, none, [Bytes.ofText text], none⟩
  | none => .error "not found"

theorem apart_of_lastNames {paths : List Path} {target : Path} (plain : target.lastName ≠ "..")
    (different : ∀ path ∈ paths, path.lastName ≠ ".." ∧ path.lastName ≠ target.lastName) :
    ∀ path ∈ paths, path.Apart target := fun path member =>
  Path.apart_of_lastName_ne (different path member).1 plain (different path member).2

def shelfOf (files : List (String × String)) : FileSystem where
  entries := files.map (fun file =>
      (["srv", "cloud-images", file.1], Entry.file (Bytes.ofText file.2))) ++
    [(["srv", "cloud-images"], .directory), (["srv"], .directory)]

def marker : String := "ba7816bf8f01cfea414140de5dae2223b00361a396177a9cb410ff61f20015ad\n"

/-- Two images from two hosts are acquired one after the other, beginning with no files. -/
theorem hosts_apart :
    let image := hostedImage "first" "one" "a.img" "A-SUMS"
    let other := hostedImage "second" "two" "b.img" "B-SUMS"
    ∃ events otherReport after later report final,
      other.acquire.run.Runs (conduct anyOutputs) {} events (.ok otherReport) after ∧
      (image.Trusted after ↔ image.Trusted {}) ∧
      image.acquire.run.Runs (conduct anyOutputs) after later (.ok report) final ∧
      image.ComparedWithOwn "https://one/A-SUMS" ⟨"/srv/cloud-images/A-SUMS"⟩ {} later := by
  intro image other
  let checksum : Path := ⟨"/srv/cloud-images/A-SUMS"⟩
  have resolved : resolve imagesEnvironment (hosted "first" "one" "a.img" "A-SUMS") =
      .ok image := by
    decide +kernel
  have otherResolved : resolve imagesEnvironment (hosted "second" "two" "b.img" "B-SUMS") =
      .ok other := by
    decide +kernel
  have leavesTrust : other.LeavesTrust image := fun path member =>
    ⟨apart_of_lastNames (by decide +kernel) (by decide +kernel) path member,
      apart_of_lastNames (by decide +kernel) (by decide +kernel) path member⟩
  have leavesListing : other.LeavesListing checksum := fun path member =>
    ⟨apart_of_lastNames (by decide +kernel) (by decide +kernel) path member,
      apart_of_lastNames (by decide +kernel) (by decide +kernel) path member⟩
  have alone : image.ListsAlone checksum := fun path member =>
    ⟨apart_of_lastNames (by decide +kernel) (by decide +kernel) path member,
      apart_of_lastNames (by decide +kernel) (by decide +kernel) path member⟩
  let server := serving [("https://one/a.img", "abc"), ("https://one/A-SUMS", listingOf "a.img"),
    ("https://two/b.img", "abc"), ("https://two/B-SUMS", listingOf "b.img")]
  let after := shelfOf [("b.img.verified", marker), ("B-SUMS", listingOf "b.img"), ("b.img", "abc")]
  obtain ⟨events, run⟩ := runs_respond anyOutputs_copySigned server other.acquire.run {}
  have ended : other.acquire.run.run (respond copySigned server) {} =
      (.ok ⟨[⟨"/srv/cloud-images/b.img"⟩, ⟨"/srv/cloud-images/B-SUMS"⟩], false, true, false⟩,
        after) := by
    decide +kernel
  rw [ended] at run
  obtain ⟨later, again⟩ := runs_respond anyOutputs_copySigned server image.acquire.run after
  have againEnded : (image.acquire.run.run (respond copySigned server) after).1 =
      .ok ⟨[⟨"/srv/cloud-images/a.img"⟩, checksum], false, true, false⟩ := by
    decide +kernel
  rw [againEnded] at again
  have inView : InViewAll {} imagesEnvironment [image.imagePath, image.markerPath] := by
    unfold InViewAll FileSystem.InView
    decide +kernel
  have listingInView : InViewAll {} imagesEnvironment
      [checksum, checksum.withSuffix verifiedSuffix] := by
    unfold InViewAll FileSystem.InView
    decide +kernel
  have againInView : InViewAll after imagesEnvironment
      [image.markerPath, checksum, checksum.withSuffix verifiedSuffix] := by
    unfold InViewAll FileSystem.InView
    decide +kernel
  obtain ⟨sameTrust, _, compared⟩ :=
    neighbour_after_acquire resolved otherResolved leavesTrust inView run
  obtain ⟨_, isChecksum, comparing⟩ := compared _ rfl
  cases isChecksum
  exact ⟨events, _, after, later, _, _, run, sameTrust, again, comparing leavesListing alone
    listingInView againInView (by decide +kernel) _ _ _ again⟩

/-- Files of one name vouch for each other. An image that is there and not trusted is trusted when
another one of its file name was acquired; and an image whose own checksum file no server has is
taken for verified after one whose checksum file has the same name. -/
theorem shared_names_vouch :
    (let image := hostedImage "first" "one" "a.img" "A-SUMS"
      let other := hostedImage "second" "two" "a.img" "B-SUMS"
      let shelf := shelfOf [("a.img", "abc"), ("B-SUMS", listingOf "a.img")]
      resolve imagesEnvironment (hosted "first" "one" "a.img" "A-SUMS") = .ok image ∧
      resolve imagesEnvironment (hosted "second" "two" "a.img" "B-SUMS") = .ok other ∧
      ∃ events report after,
        other.acquire.run.Runs (conduct anyOutputs) shelf events (.ok report) after ∧
          ¬ image.Trusted shelf ∧ image.Trusted after) ∧
    (let image := hostedImage "first" "one" "a.img" "SUMS"
      let other := hostedImage "second" "two" "b.img" "SUMS"
      let server := serving [("https://one/a.img", "abc"), ("https://two/b.img", "abc"),
        ("https://two/SUMS", listingOf "a.img" ++ listingOf "b.img")]
      resolve imagesEnvironment (hosted "first" "one" "a.img" "SUMS") = .ok image ∧
      resolve imagesEnvironment (hosted "second" "two" "b.img" "SUMS") = .ok other ∧
      ∃ report after laterReport final,
        other.acquire.run.run (respond copySigned server) {} = (.ok report, after) ∧
        image.acquire.run.run (respond copySigned server) after = (.ok laterReport, final) ∧
        (server "https://one/SUMS").isOk = false) := by
  constructor
  · intro image other shelf
    obtain ⟨events, run⟩ := runs_respond anyOutputs_copySigned (fun url => .error url)
      other.acquire.run shelf
    have ended : other.acquire.run.run (respond copySigned fun url => .error url) shelf =
        (.ok ⟨[], false, true, false⟩, shelfOf [("a.img.verified", marker), ("a.img", "abc"),
          ("B-SUMS", listingOf "a.img")]) := by
      decide +kernel
    rw [ended] at run
    refine ⟨by decide +kernel, by decide +kernel, events, _, _, run, ?_, ?_⟩ <;>
    · unfold Trusted
      decide +kernel
  · intro image other server
    let after := shelfOf [("b.img.verified", marker),
      ("SUMS", listingOf "a.img" ++ listingOf "b.img"), ("b.img", "abc")]
    have ended : other.acquire.run.run (respond copySigned server) {} =
        (.ok ⟨[⟨"/srv/cloud-images/b.img"⟩, ⟨"/srv/cloud-images/SUMS"⟩], false, true, false⟩,
          after) := by
      decide +kernel
    have laterEnded : (image.acquire.run.run (respond copySigned server) after).1 =
        .ok ⟨[⟨"/srv/cloud-images/a.img"⟩], false, true, false⟩ := by
      decide +kernel
    exact ⟨by decide +kernel, by decide +kernel, _, after, _, _, ended, Prod.ext laterEnded rfl,
      by decide +kernel⟩

end CloudImage

end VirtualLab
