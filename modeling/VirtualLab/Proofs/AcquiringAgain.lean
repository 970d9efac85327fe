import Mathlib.Data.List.Nodup
import VirtualLab.Proofs.ReadyImages

/-!
# Acquiring an image again

An acquisition that succeeds leaves its directory, every file it downloads and, where there is a
checksum, the marker. The next one finds all of them: it looks at each, changes nothing, and asks
neither a server nor the signature tool.
-/

namespace VirtualLab

open FileSystem Download

namespace CloudImage

variable {tool : SignatureToolConduct} {start before after files : FileSystem} {image : CloudImage}
  {events : List (Event FileSystem)}

/-! ## Where there is nothing left to do -/

structure Complete (image : CloudImage) (files : FileSystem) : Prop where
  directory : files.Made image.directory
  artifacts : ∀ artifact ∈ image.artifacts, files.pathExists artifact.2 = true
  marker : image.checksumUrl.isSome = true → files.isFile image.markerPath = true

def finding (files : FileSystem) (path : Path) : Event FileSystem :=
  ⟨files, .pathExists path, true, files⟩

def findings (image : CloudImage) (files : FileSystem) : List (Event FileSystem) :=
  ⟨files, .createDirectories image.directory, .ok (), files⟩ ::
    image.artifacts.map (fun artifact => finding files artifact.2) ++
      if image.checksumUrl.isSome then [⟨files, .isFile image.markerPath, true, files⟩] else []

theorem mem_findings {event : Event FileSystem} (member : event ∈ image.findings files) :
    event.after = files ∧ event.request.RunsNoTool ∧ ∀ url, event.request ≠ .fetch url := by
  simp only [findings, List.mem_append, List.mem_cons, List.mem_map] at member
  rcases member with (rfl | ⟨artifact, _, rfl⟩) | marked
  · exact ⟨rfl, trivial, by simp⟩
  · exact ⟨rfl, trivial, by simp [finding]⟩
  · split at marked
    · obtain rfl := List.mem_singleton.mp marked
      exact ⟨rfl, trivial, by simp⟩
    · cases marked

theorem runs_downloadMissing_of_present {sources : List (String × Path)}
    (present : ∀ source ∈ sources, files.pathExists source.2 = true)
    {outcome : Except LabError (List Path)} :
    (downloadMissing sources).run.Runs (conduct tool) files events outcome after ↔
      events = sources.map (fun source => finding files source.2) ∧ outcome = .ok [] ∧
        after = files := by
  induction sources generalizing events with
  | nil => exact Attempt.runs_pure
  | cons source rest induction =>
      obtain ⟨url, destination⟩ := source
      obtain ⟨there, others⟩ := List.forall_mem_cons.mp present
      rw [downloadMissing, Attempt.runs_ask_bind]
      constructor
      · rintro ⟨answer, middle, later, ⟨rfl, rfl⟩, going, rfl⟩
        simp only [there, if_true] at going
        obtain ⟨rfl, ended, unchanged⟩ := (induction others).mp going
        exact ⟨by simp [finding, there], ended, unchanged⟩
      · rintro ⟨rfl, ended⟩
        refine ⟨true, files, _, ⟨there.symm, rfl⟩, ?_, rfl⟩
        exact (induction others).mpr ⟨rfl, ended⟩

theorem runs_acquire_of_complete (complete : image.Complete files)
    {outcome : Except LabError AcquireReport} :
    image.acquire.run.Runs (conduct tool) files events outcome after ↔
      events = image.findings files ∧
        outcome = .ok { alreadyVerified := image.checksumUrl.isSome } ∧ after = files := by
  have making := createDirectories_of_made complete.directory
  constructor
  · intro run
    rw [acquire, Attempt.runs_ask_bind] at run
    obtain ⟨made, middle, _, conducted, going, rfl⟩ := run
    obtain ⟨rfl, rfl⟩ := Prod.mk.inj (making.symm.trans conducted)
    simp only [Attempt.orFail, pure_bind] at going
    rcases Attempt.runs_bind.mp going with ⟨_, downloading, _⟩ |
      ⟨_, _, _, _, downloading, checking, rfl⟩
    · cases ((runs_downloadMissing_of_present complete.artifacts).mp downloading).2.1
    obtain ⟨rfl, equal, rfl⟩ :=
      (runs_downloadMissing_of_present complete.artifacts).mp downloading
    cases equal
    cases hasUrl : image.checksumUrl with
    | none =>
        simp only [hasUrl, Option.isNone_none, if_true] at checking
        obtain ⟨rfl, rfl, rfl⟩ := Attempt.runs_pure.mp checking
        exact ⟨by simp [findings, hasUrl], rfl, rfl⟩
    | some url =>
        have marked := complete.marker (by simp [hasUrl])
        simp only [hasUrl, Option.isNone_some] at checking
        obtain ⟨_, _, _, ⟨rfl, rfl⟩, ending, rfl⟩ := Attempt.runs_ask_bind.mp checking
        simp only [marked, List.isEmpty_nil, Bool.and_self, if_true] at ending
        obtain ⟨rfl, rfl, rfl⟩ := Attempt.runs_pure.mp ending
        exact ⟨by simp [findings, hasUrl, marked], rfl, rfl⟩
  · rintro ⟨rfl, rfl, rfl⟩
    rw [acquire, Attempt.runs_ask_bind]
    refine ⟨.ok (), after, _, making, ?_, rfl⟩
    simp only [Attempt.orFail, pure_bind]
    refine Attempt.runs_bind.mpr (.inr ⟨[], _, after, _,
      (runs_downloadMissing_of_present complete.artifacts).mpr ⟨rfl, rfl, rfl⟩, ?_, rfl⟩)
    cases hasUrl : image.checksumUrl with
    | none => exact Attempt.runs_pure.mpr ⟨rfl, rfl, rfl⟩
    | some url =>
        have marked := complete.marker (by simp [hasUrl])
        refine Attempt.runs_ask_bind.mpr
          ⟨true, after, [], ⟨marked.symm, rfl⟩, Attempt.runs_pure.mpr ⟨rfl, rfl, rfl⟩, rfl⟩

/-! ## What an acquisition leaves -/

theorem not_slash_of_debianRelease {file release : String}
    (found : debianRelease file = some release) : '/' ∉ release.toList := by
  unfold debianRelease at found
  obtain ⟨⟨_, rest⟩, _, taken⟩ := Option.bind_eq_some_iff.mp found
  simp only at taken
  split at taken
  · cases taken
  · cases taken
    rw [String.toList_ofList]
    intro member
    exact absurd (List.mem_takeWhile_imp member) (by decide)

def Beside (directory path : Path) : Prop :=
  ∃ file : String, '/' ∉ file.toList ∧ path = directory.join file

theorem Beside.part {directory path : Path} (beside : Beside directory path) :
    Beside directory (path.withSuffix partSuffix) := by
  obtain ⟨file, plain, rfl⟩ := beside
  refine ⟨file ++ partSuffix, ?_, Path.join_withSuffix _ _ (by decide)⟩
  simpa [String.toList_append] using ⟨plain, by decide⟩

theorem Beside.apart {directory first second : Path} (beside : Beside directory first)
    (other : Beside directory second) (different : first ≠ second) : first.Apart second := by
  obtain ⟨file, plain, rfl⟩ := beside
  obtain ⟨otherFile, otherPlain, rfl⟩ := other
  exact Path.join_apart_join directory plain otherPlain fun equal => different (equal ▸ rfl)

theorem plain_checksumFileName {imageFile file : String} (plain : '/' ∉ file.toList) :
    '/' ∉ (checksumFileName imageFile file).toList := by
  unfold checksumFileName
  split
  · rename_i release isRelease
    have digits := not_slash_of_debianRelease isRelease
    simp [String.toList_append, plain, digits]
  · exact plain

theorem beside_of_url {directory path : Path} {url : Option String} {rename : String → String}
    (plain : ∀ {file : String}, '/' ∉ file.toList → '/' ∉ (rename file).toList)
    (placed : (url.bind fileNameOfUrl).map (fun file => directory.join (rename file)) = some path) :
    Beside directory path := by
  obtain ⟨file, found, rfl⟩ := Option.map_eq_some_iff.mp placed
  obtain ⟨_, _, named⟩ := Option.bind_eq_some_iff.mp found
  exact ⟨rename file, plain (plain_of_fileNameOfUrl named), rfl⟩

theorem beside_of_checksumPath {directory checksum : Path} {declaration : ImageDeclaration}
    (resolved : resolveIn directory declaration = .ok image)
    (hasChecksum : image.checksumPath = some checksum) : Beside directory checksum := by
  obtain ⟨_, _, _, placed, _⟩ := exists_file_of_resolveIn resolved
  exact beside_of_url plain_checksumFileName (placed.symm.trans hasChecksum)

theorem beside_of_keyPath {directory keyFile : Path} {declaration : ImageDeclaration}
    (resolved : resolveIn directory declaration = .ok image)
    (hasKey : image.keyPath = some keyFile) : Beside directory keyFile :=
  beside_of_url id ((declared_of_resolveIn resolved).keyPath_eq.symm.trans hasKey)

/-- All files that are downloaded for a declared image lie beside each other. -/
theorem beside_of_resolveIn {directory : Path} {declaration : ImageDeclaration}
    (resolved : resolveIn directory declaration = .ok image) :
    ∀ artifact ∈ image.artifacts, Beside directory artifact.2 := by
  intro artifact member
  rcases List.mem_cons.mp member with rfl | member
  · obtain ⟨file, named, imagePath⟩ := (declared_of_resolveIn resolved).imagePath_eq
    exact ⟨file, plain_of_fileNameOfUrl named, imagePath⟩
  rcases List.mem_append.mp member with inChecksum | inKey
  · exact beside_of_checksumPath resolved (eq_some_of_mem_source inChecksum)
  · exact beside_of_keyPath resolved (eq_some_of_mem_source inKey)

/-- Downloads to these destinations do not disturb each other's results: no body is kept in the
place of another file that is downloaded. -/
structure Undisturbed (sources : List (String × Path)) : Prop where
  parts : sources.Pairwise fun earlier later => later.2.withSuffix partSuffix ≠ earlier.2
  apart : ∀ first ∈ sources, ∀ second ∈ sources, ∀ path ∈ Download.paths first.2,
    path ≠ second.2 → path.Apart second.2

theorem pathExists_after_download {url : String} {destination target : Path}
    (run : (download url destination).run.Runs (conduct tool) before events (.ok ()) after)
    (aside : destination.withSuffix partSuffix ≠ target)
    (apart : ∀ path ∈ Download.paths destination, path ≠ target → path.Apart target)
    (present : before.pathExists target = true) : after.pathExists target = true := by
  by_cases same : destination = target
  · exact pathExists_of_isFile (same ▸ (isFile_of_download run).1)
  · have differs : DiffersOnlyAt (Download.paths destination) before after :=
      differs_of_runs (download_confined (by simp [Download.paths]) (by simp [Download.paths])) run
    have file := differs.isFile fun path among => apart path among fun equal => by
      simp only [Download.paths, List.mem_cons, List.not_mem_nil, or_false] at among
      rcases among with rfl | rfl
      · exact aside equal
      · exact same equal
    rw [pathExists_eq, file, differs.toSameDirectories.isDirectory, ← pathExists_eq, present]

theorem pathExists_after_downloads {sources : List (String × Path)} {downloaded : List Path}
    {target : Path}
    (run : (downloadMissing sources).run.Runs (conduct tool) before events (.ok downloaded) after)
    (aside : ∀ source ∈ sources, source.2.withSuffix partSuffix ≠ target)
    (apart : ∀ source ∈ sources, ∀ path ∈ Download.paths source.2, path ≠ target →
      path.Apart target)
    (present : before.pathExists target = true) : after.pathExists target = true := by
  induction sources generalizing before events downloaded with
  | nil => exact (Attempt.runs_pure.mp run).2.2 ▸ present
  | cons source rest induction =>
      obtain ⟨firstAside, restAside⟩ := List.forall_mem_cons.mp aside
      obtain ⟨firstApart, restApart⟩ := List.forall_mem_cons.mp apart
      rcases downloadMissing_cons run with
        ⟨_, _, restRun, _⟩ | ⟨_, _, _, _, _, downloading, restRun, _⟩
      · exact induction restRun restAside restApart present
      · exact induction restRun restAside restApart
          (pathExists_after_download downloading firstAside firstApart present)

theorem present_of_downloadMissing {sources : List (String × Path)} {downloaded : List Path}
    (undisturbed : Undisturbed sources)
    (run : (downloadMissing sources).run.Runs (conduct tool) before events (.ok downloaded) after) :
    ∀ source ∈ sources, after.pathExists source.2 = true := by
  induction sources generalizing before events downloaded with
  | nil => simp
  | cons source rest induction =>
      obtain ⟨aside, parts⟩ := List.pairwise_cons.mp undisturbed.parts
      have apart : ∀ other ∈ rest, ∀ path ∈ Download.paths other.2, path ≠ source.2 →
          path.Apart source.2 := fun other member =>
        undisturbed.apart other (List.mem_cons_of_mem _ member) source List.mem_cons_self
      have others : Undisturbed rest :=
        ⟨parts, fun first member second otherMember =>
          undisturbed.apart first (List.mem_cons_of_mem _ member) second
            (List.mem_cons_of_mem _ otherMember)⟩
      rw [List.forall_mem_cons]
      rcases downloadMissing_cons run with
        ⟨present, _, restRun, _⟩ | ⟨_, _, _, _, _, downloading, restRun, _⟩
      · exact ⟨pathExists_after_downloads restRun aside apart present, induction others restRun⟩
      · have present := pathExists_of_isFile (isFile_of_download downloading).1
        exact ⟨pathExists_after_downloads restRun aside apart present, induction others restRun⟩

/-- A signature tool that removes nothing leaves what was there. -/
theorem covers_of_verifySignature {outcome : Except LabError Unit}
    (keeps : ∀ {arguments before answer after}, tool arguments before answer after →
      Covers before after)
    (run : image.verifySignature.run.Runs (conduct tool) before events outcome after) :
    Covers before after := by
  have runsTool (arguments : List String) : (image.runSignatureTool arguments).Confined
      (fun request => ∃ arguments, request = .runTool signatureTool arguments) fun _ => True :=
    Attempt.confined_bind (Attempt.confined_ask ⟨arguments, rfl⟩) fun _ =>
      Attempt.confined_bind (Attempt.confined_orFail fun _ => trivial) fun _ =>
        Attempt.confined_pure _
  have only : image.verifySignature.Confined
      (fun request => ∃ arguments, request = .runTool signatureTool arguments) fun _ => True := by
    unfold verifySignature
    split
    · exact Attempt.confined_bind (runsTool _) fun _ => runsTool _
    · exact Attempt.confined_pure _
  refine run.related Covers.refl Covers.trans fun event member => ?_
  have asked := only.requests run event member
  have conducted := run.conducted event member
  obtain ⟨earlier, request, answer, later⟩ := event
  obtain ⟨arguments, rfl⟩ := asked
  exact keeps conducted

theorem covers_of_verifyChecksum
    (run : image.verifyChecksum.run.Runs (conduct tool) before events (.ok ()) after) :
    Covers before after ∧
      (image.checksumPath.isSome = true → after.isFile image.markerPath = true) := by
  cases hasChecksum : image.checksumPath with
  | none =>
      simp only [verifyChecksum, hasChecksum] at run
      rcases Attempt.runs_orFail_bind.mp run with ⟨_, _, _, impossible, _⟩ | ⟨_, _, ended⟩
      · cases impossible
      · obtain ⟨_, _, rfl⟩ := Attempt.runs_pure.mp ended
        exact ⟨.refl _, by simp⟩
  | some checksum =>
      cases verdict_of_verifyChecksum hasChecksum run with
      | matched _ _ _ _ _ _ _ written =>
          exact ⟨covers_of_modifyFile written, fun _ => isFile_iff.mpr ⟨_, read_of_write written⟩⟩

theorem complete_of_acquire {report : AcquireReport} (undisturbed : Undisturbed image.artifacts)
    (listed : image.checksumPath.isSome = image.checksumUrl.isSome)
    (keeps : ∀ {arguments before answer after}, tool arguments before answer after →
      Covers before after)
    (run : image.acquire.run.Runs (conduct tool) start events (.ok report) after) :
    image.Complete after := by
  have downloads {ready middle : FileSystem} {downloads : List (Event FileSystem)}
      {downloaded : List Path}
      (making : start.createDirectories image.directory = (.ok (), ready))
      (downloading : (downloadMissing image.artifacts).run.Runs (conduct tool)
        ready downloads (.ok downloaded) middle) :
      middle.Made image.directory ∧
        ∀ artifact ∈ image.artifacts, middle.pathExists artifact.2 = true := by
    have same := (downloadMissing_differs downloading).toSameDirectories
    exact ⟨(made_of_createDirectories making).imp_right same.isDirectory.trans,
      present_of_downloadMissing undisturbed downloading⟩
  generalize equal : Except.ok report = outcome at run
  cases course_of_acquire run with
  | unmade making => cases equal
  | incomplete making downloading => cases equal
  | unsigned making downloading verifying => cases equal
  | unchecked making downloading noChecksum =>
      obtain ⟨made, present⟩ := downloads making downloading
      exact ⟨made, present, by simp [noChecksum]⟩
  | known making downloading marked =>
      obtain ⟨made, present⟩ := downloads making downloading
      exact ⟨made, present, fun _ => marked⟩
  | judged making downloading verifying judging ending =>
      rename_i verdict _ _ _
      cases verdict with
      | error failure => cases equal
      | ok value =>
          obtain ⟨made, present⟩ := downloads making downloading
          obtain ⟨compared, marked⟩ := covers_of_verifyChecksum judging
          have covers := (covers_of_verifySignature keeps verifying).trans compared
          exact ⟨covers.made made,
            fun artifact member => covers.pathExists (present artifact member),
            fun hasUrl => marked (listed.trans hasUrl)⟩

/-! ## The next acquisition -/

/-- The paths at which the files of an image are downloaded, each with the one that its body is
kept at, are all different. -/
def DownloadsApart (image : CloudImage) : Prop :=
  (image.artifacts.flatMap fun artifact => Download.paths artifact.2).Nodup

theorem undisturbed_of_downloadsApart {directory : Path} {declaration : ImageDeclaration}
    (resolved : resolveIn directory declaration = .ok image) (apart : image.DownloadsApart) :
    Undisturbed image.artifacts where
  parts := by
    obtain ⟨_, disjoint⟩ := List.nodup_flatMap.mp apart
    refine disjoint.imp fun {earlier later} separate equal => ?_
    refine separate (a := earlier.2) (by simp [Download.paths]) ?_
    simp [Download.paths, equal]
  apart first member second otherMember path changed different := by
    have beside := beside_of_resolveIn resolved first member
    have pathBeside : Beside directory path := by
      simp only [Download.paths, List.mem_cons, List.not_mem_nil, or_false] at changed
      rcases changed with rfl | rfl
      · exact beside.part
      · exact beside
    exact pathBeside.apart (beside_of_resolveIn resolved second otherMember) different

/-- An image that was acquired is acquired again, whatever servers and the signature tool now do:
all is there, nothing is asked of them, and nothing is changed. The signature tool is taken to
remove nothing the first time: a file stays a file, with any content, and a directory one. -/
theorem acquired_again {directory : Path} {declaration : ImageDeclaration}
    {report : AcquireReport} {laterTool : SignatureToolConduct}
    (resolved : resolveIn directory declaration = .ok image) (apart : image.DownloadsApart)
    (keeps : ∀ {arguments before answer after}, tool arguments before answer after →
      Covers before after)
    (run : image.acquire.run.Runs (conduct tool) start events (.ok report) after) :
    (∃ later, image.acquire.run.Runs (conduct laterTool) after later
      (.ok { alreadyVerified := image.checksumUrl.isSome }) after) ∧
    ∀ {later outcome final},
      image.acquire.run.Runs (conduct laterTool) after later outcome final →
        outcome = .ok { alreadyVerified := image.checksumUrl.isSome } ∧ final = after ∧
        ∀ event ∈ later, event.after = after ∧ event.request.RunsNoTool ∧
          ∀ url, event.request ≠ .fetch url := by
  have declared := declared_of_resolveIn resolved
  have listed : image.checksumPath.isSome = image.checksumUrl.isSome := by
    rw [declared.checksumPath_isSome, declared.checksumUrl_eq]
  have complete : image.Complete after :=
    complete_of_acquire (undisturbed_of_downloadsApart resolved apart) listed keeps run
  refine ⟨⟨_, (runs_acquire_of_complete complete).mpr ⟨rfl, rfl, rfl⟩⟩, ?_⟩
  intro later outcome final again
  obtain ⟨rfl, rfl, rfl⟩ := (runs_acquire_of_complete complete).mp again
  exact ⟨rfl, rfl, fun event => mem_findings⟩

theorem copySigned_covers (arguments : List String) (files : FileSystem) :
    Covers files (copySigned arguments files).2 := by
  unfold copySigned
  split
  · rename_i output _ checksum
    cases content : files.read ⟨checksum⟩ with
    | error cause => exact .refl _
    | ok signed =>
        cases writing : files.write ⟨output⟩ signed with
        | error cause =>
            simp only [Except.bind, writing]
            exact .refl _
        | ok written =>
            simp only [Except.bind, writing]
            exact covers_of_modifyFile writing
  · exact .refl _

/-- An image with signed checksums is downloaded to an empty disk and verified, and then found
verified by a run that no server answers and in which the signature tool fails. -/
theorem signed_image_acquired_again :
    let image := signedImage "https://host/key.gpg" (some ⟨"/images/key.gpg"⟩)
    resolveIn ⟨"/images"⟩ (signedDeclaration "https://host/key.gpg") = .ok image ∧
      image.DownloadsApart ∧
      ∃ events after later,
        image.acquire.run.Runs (conduct fun _ before _ after => Covers before after) {} events
          (.ok {
            downloaded := [⟨"/images/a.img"⟩, ⟨"/images/SUMS"⟩, ⟨"/images/key.gpg"⟩]
            signatureVerified := true
            checksumVerified := true }) after ∧
        image.acquire.run.Runs (conduct fun _ _ answer _ => answer.isOk = false) after later
          (.ok { alreadyVerified := true }) after := by
  intro image
  have resolved : resolveIn ⟨"/images"⟩ (signedDeclaration "https://host/key.gpg") = .ok image := by
    decide +kernel
  have apart : image.DownloadsApart := by
    unfold DownloadsApart
    decide +kernel
  let server := serving [("https://host/a.img", "abc"), ("https://host/SUMS", listingOf "a.img"),
    ("https://host/key.gpg", "keys")]
  let tool : SignatureToolConduct := fun _ before _ after => Covers before after
  have covering : ∀ arguments files, tool arguments files (copySigned arguments files).1
      (copySigned arguments files).2 := copySigned_covers
  obtain ⟨events, run⟩ := runs_respond covering server image.acquire.run {}
  have ended : (image.acquire.run.run (respond copySigned server) {}).1 = .ok {
      downloaded := [⟨"/images/a.img"⟩, ⟨"/images/SUMS"⟩, ⟨"/images/key.gpg"⟩]
      signatureVerified := true
      checksumVerified := true } := by
    decide +kernel
  rw [ended] at run
  obtain ⟨later, again⟩ :
      ∃ later, image.acquire.run.Runs (conduct fun _ _ answer _ => answer.isOk = false) _ later
        (.ok { alreadyVerified := true }) _ :=
    (acquired_again resolved apart (fun covers => covers) run).1
  exact ⟨resolved, apart, events, _, later, run, again⟩

end CloudImage

end VirtualLab
