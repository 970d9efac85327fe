import VirtualLab.Proofs.Directories
import VirtualLab.Proofs.FileNames
import VirtualLab.Proofs.MachineFiles
import VirtualLab.Proofs.Neighbours

/-!
# Images that are ready

Acquiring an image and handing it out ask differently whether it is there. A file that exists, of
whatever kind, is not downloaded again; only a regular file is handed out. The two agree after
every comparison with a checksum. Without one, they part where the name of the image is that of a
directory, and where the keys were downloaded beside their final name in the place of the image.
-/

namespace VirtualLab

open FileSystem Download

namespace CloudImage

variable {tool : SignatureToolConduct} {start before after : FileSystem} {image : CloudImage}
  {events : List (Event FileSystem)}

/-! ## Asking for a trusted image -/

instance (image : CloudImage) (files : FileSystem) : Decidable (image.Trusted files) :=
  inferInstanceAs (Decidable (_ ∧ _))

def handedOut (image : CloudImage) (files : FileSystem) : Except LabError Path :=
  if image.Trusted files then .ok image.imagePath
  else if files.isFile image.imagePath then .error (.image image.name .unverified)
  else .error (.image image.name (.notPresent image.imagePath))

variable {act : List String → FileSystem → Except ToolFailure ToolOutput × FileSystem}
  {server : String → Except String Response}

theorem run_isTrusted :
    image.isTrusted.run (respond act server) before = (decide (image.Trusted before), before) := by
  obtain ⟨_, run⟩ : ∃ events, image.isTrusted.Runs (conduct fun _ _ _ _ => True) before events _ _ :=
    runs_respond (fun _ _ => trivial) server _ before
  obtain ⟨kept, isTrusted⟩ := isTrusted_runs run
  exact Prod.ext (Bool.eq_iff_iff.mpr (isTrusted.trans decide_eq_true_iff.symm)) kept

theorem run_requireTrusted :
    image.requireTrusted.run.run (respond act server) before =
      (image.handedOut before, before) := by
  rw [requireTrusted, Attempt.run_bind_of_ok (Attempt.run_ask _), respond]
  cases present : before.isFile image.imagePath with
  | false =>
      have untrusted : ¬ image.Trusted before := by simp [Trusted, present]
      rw [handedOut, if_neg untrusted, present]
      rfl
  | true =>
      change (ExceptT.lift image.isTrusted >>= _ : LabTask Path).run.run _ _ = _
      rw [Attempt.run_bind_of_ok (Attempt.run_lift _), run_isTrusted]
      by_cases trusted : image.Trusted before
      · rw [handedOut, if_pos trusted, decide_eq_true trusted]
        rfl
      · rw [handedOut, if_neg trusted, present, decide_eq_false trusted]
        rfl

theorem runs_requireTrusted {outcome : Except LabError Path} :
    (∃ events, image.requireTrusted.run.Runs (conduct tool) before events outcome after) ↔
      outcome = image.handedOut before ∧ after = before := by
  have looks : ∀ {request}, Request.Looks request → ∀ {before answer after},
      conduct tool request before answer after ↔
        (answer, after) = respond copySigned (fun _ => .error "") request before := by
    intro request looking before answer after
    cases request <;> first | exact looking.elim | simp [conduct, respond]
  rw [Script.runs_iff_run looks (Lab.requireTrusted_looks image).run, run_requireTrusted,
    Prod.ext_iff]

/-! ## What downloads leave -/

theorem isFile_of_download {url : String} {destination : Path}
    (run : (download url destination).run.Runs (conduct tool) before events (.ok ()) after) :
    after.isFile destination = true ∧
      after.isFile (destination.withSuffix partSuffix) = false := by
  obtain ⟨filled, content, _, held, renamed⟩ := rename_of_download run
  have apart : (destination.withSuffix partSuffix).Apart destination :=
    (Path.apart_withSuffix destination (by decide) (by decide)).symm
  exact ⟨isFile_iff.mpr ⟨content, read_of_rename held renamed⟩, not_isFile_of_rename apart renamed⟩

/-- A file that is there is lost by a download only if its place was where the body was kept. -/
theorem isFile_after_download {url : String} {destination target : Path} {downloaded : List Path}
    (run : (downloadMissing [(url, destination)]).run.Runs (conduct tool) before events
      (.ok downloaded) after)
    (present : before.isFile target = true)
    (apart : ∀ path ∈ Download.paths destination, path ≠ target → path.Apart target) :
    after.isFile target = true ↔
      ¬ (destination ∈ downloaded ∧ destination.withSuffix partSuffix = target) := by
  rcases downloadMissing_cons run with
    ⟨_, later, ended, _⟩ | ⟨absent, _, middle, _, _, downloading, ended, rfl, _⟩
  · obtain ⟨_, equal, rfl⟩ := Attempt.runs_pure.mp ended
    cases equal
    simp [present]
  · obtain ⟨_, equal, rfl⟩ := Attempt.runs_pure.mp ended
    cases equal
    by_cases displaced : destination.withSuffix partSuffix = target
    · have lost := (isFile_of_download downloading).2
      simp [displaced ▸ lost, displaced]
    · have other : destination ≠ target := by
        rintro rfl
        simp [pathExists_of_isFile present] at absent
      have differs : DiffersOnlyAt (Download.paths destination) before after :=
        differs_of_runs (download_confined (by simp [Download.paths]) (by simp [Download.paths]))
          downloading
      have kept := differs.isFile fun path among => apart path among fun equal => by
        simp only [Download.paths, List.mem_cons, List.not_mem_nil, or_false] at among
        rcases among with rfl | rfl
        · exact displaced equal
        · exact other equal
      simp [kept, present, displaced]

/-- The keys were downloaded, and their body was kept in the place of the image until it was
complete. -/
def Displaced (image : CloudImage) (report : AcquireReport) : Prop :=
  ∃ keyPath ∈ report.downloaded, image.keyPath = some keyPath ∧
    keyPath.withSuffix partSuffix = image.imagePath

theorem Declared.apart_of_key {directory keyPath : Path} {declaration : ImageDeclaration}
    (declared : image.Declared directory declaration) (hasKey : image.keyPath = some keyPath) :
    ∀ path ∈ Download.paths keyPath, path ≠ image.imagePath → path.Apart image.imagePath := by
  obtain ⟨file, named, imagePath⟩ := declared.imagePath_eq
  rw [declared.keyPath_eq] at hasKey
  obtain ⟨keyFile, keyNamed, rfl⟩ := Option.map_eq_some_iff.mp hasKey
  obtain ⟨keyUrl, _, keyNamed⟩ := Option.bind_eq_some_iff.mp keyNamed
  have plain := plain_of_fileNameOfUrl named
  have keyPlain := plain_of_fileNameOfUrl keyNamed
  have partPlain : '/' ∉ (keyFile ++ partSuffix).toList := by
    simpa [String.toList_append] using ⟨keyPlain, by decide⟩
  rw [imagePath, Download.paths, Path.join_withSuffix _ _ (by decide)]
  intro path among different
  simp only [List.mem_cons, List.not_mem_nil, or_false] at among
  rcases among with rfl | rfl
  · exact Path.join_apart_join _ partPlain plain fun equal => different (equal ▸ rfl)
  · exact Path.join_apart_join _ keyPlain plain fun equal => different (equal ▸ rfl)

theorem isFile_after_keys {directory : Path} {declaration : ImageDeclaration}
    {downloaded : List Path} (declared : image.Declared directory declaration)
    (run : (downloadMissing (source image.keyUrl image.keyPath)).run.Runs (conduct tool) before
      events (.ok downloaded) after)
    (present : before.isFile image.imagePath = true) :
    after.isFile image.imagePath = true ↔ ¬ image.Displaced { downloaded } := by
  have nothing : source image.keyUrl image.keyPath = [] →
      (after.isFile image.imagePath = true ↔ ¬ image.Displaced { downloaded }) := by
    intro none
    rw [none] at run
    obtain ⟨_, equal, rfl⟩ := Attempt.runs_pure.mp run
    cases equal
    simp [present, Displaced]
  cases hasKey : image.keyPath with
  | none => exact nothing (by cases hasUrl : image.keyUrl <;> simp [hasKey, source])
  | some keyPath =>
      cases hasUrl : image.keyUrl with
      | none => exact nothing (by simp [hasKey, hasUrl, source])
      | some url =>
          rw [hasKey, hasUrl] at run
          rw [isFile_after_download run present (declared.apart_of_key hasKey)]
          simp [Displaced, hasKey]

/-- Without a checksum, the image is a file after the downloads unless its name is that of a
directory or the keys have displaced it. -/
theorem isFile_after_downloads {directory : Path} {declaration : ImageDeclaration}
    {downloaded : List Path} (declared : image.Declared directory declaration)
    (noUrl : image.checksumUrl = none)
    (run : (downloadMissing image.artifacts).run.Runs (conduct tool) before events
      (.ok downloaded) after) :
    after.isFile image.imagePath = true ↔
      before.isDirectory image.imagePath = false ∧ ¬ image.Displaced { downloaded } := by
  have directories := (downloadMissing_differs run).toSameDirectories
  have keys : image.artifacts =
      (image.imageUrl, image.imagePath) :: source image.keyUrl image.keyPath := by
    simp [artifacts, noUrl, source]
  rw [keys] at run
  rcases downloadMissing_cons run with
    ⟨present, _, keyRun, _⟩ | ⟨absent, _, middle, _, others, downloading, keyRun, rfl, _⟩
  · cases isDirectory : before.isDirectory image.imagePath with
    | true =>
        have stays : after.isDirectory image.imagePath = true :=
          directories.isDirectory.trans isDirectory
        simp [not_isFile_of_isDirectory stays]
    | false =>
        rw [pathExists_eq, isDirectory, Bool.or_false] at present
        simp [isFile_after_keys declared keyRun present]
  · rw [pathExists_eq, Bool.or_eq_false_iff] at absent
    have same : image.Displaced { downloaded := image.imagePath :: others } ↔
        image.Displaced { downloaded := others } := by
      have longer : image.imagePath.withSuffix partSuffix ≠ image.imagePath := fun equal => by
        simpa [Path.withSuffix, partSuffix] using congrArg (·.text.length) equal
      simp only [Displaced, List.mem_cons, exists_eq_or_imp, or_iff_right_iff_imp]
      rintro ⟨_, equal⟩
      exact absurd equal longer
    rw [isFile_after_keys declared keyRun (isFile_of_download downloading).1, same]
    simp [absent.2]

/-! ## The whole run -/

theorem downloads_of_unchecked {report : AcquireReport} (noUrl : image.checksumUrl = none)
    (run : image.acquire.run.Runs (conduct tool) start events (.ok report) after) :
    ∃ downloads downloaded, (downloadMissing image.artifacts).run.Runs (conduct tool)
        (start.createDirectories image.directory).2 downloads (.ok downloaded) after ∧
      report = { downloaded } := by
  rw [acquire, Attempt.runs_ask_bind] at run
  obtain ⟨made, ready, _, making, afterMaking, rfl⟩ := run
  rcases Attempt.runs_orFail_bind.mp afterMaking with ⟨_, _, _, impossible, _⟩ | ⟨_, rfl, going⟩
  · cases impossible
  obtain ⟨downloaded, downloads, middle, _, downloading, ending, rfl⟩ :=
    Attempt.runs_bind_ok.mp going
  rw [noUrl] at ending
  obtain ⟨_, equal, rfl⟩ := Attempt.runs_pure.mp ending
  rw [show start.createDirectories image.directory = (.ok (), ready) from making]
  exact ⟨downloads, downloaded, downloading, Except.ok.inj equal⟩

theorem trusted_of_matched (verdict : image.Verdict before events (.ok ()) after) :
    image.Trusted after := by
  cases verdict with
  | matched hasChecksum chosen known listingRead readable imageRead listed written =>
      have differs : DiffersOnlyAt [image.markerPath] before after :=
        modifyFile_differs written (List.mem_singleton.mpr rfl)
      have kept : after.isFile image.imagePath = before.isFile image.imagePath :=
        differs.isFile (by simpa using image.image_apart_marker.symm)
      exact ⟨kept.trans (isFile_iff.mpr ⟨_, imageRead⟩),
        fun _ => isFile_iff.mpr ⟨_, read_of_write written⟩⟩

theorem checked_of_acquire {checksum : Path} {report : AcquireReport}
    (hasUrl : image.checksumUrl.isSome = true) (hasChecksum : image.checksumPath = some checksum)
    (run : image.acquire.run.Runs (conduct tool) start events (.ok report) after) :
    report.checksumVerified = true ∧ image.Trusted after ∨
      report = { alreadyVerified := true } ∧ after = (start.createDirectories image.directory).2 ∧
        after.isFile image.markerPath = true ∧ after.pathExists image.imagePath = true := by
  generalize equal : Except.ok report = outcome at run
  cases course_of_acquire run with
  | unmade making => cases equal
  | incomplete making downloading => cases equal
  | unchecked making downloading noChecksum => simp [noChecksum] at hasUrl
  | unsigned making downloading verifying => cases equal
  | known making downloading marked =>
      have same := eq_of_downloadMissing_nil downloading
      rcases downloadMissing_cons downloading with
        ⟨present, _⟩ | ⟨_, _, _, _, _, _, _, absurdity, _⟩
      · exact .inr ⟨Except.ok.inj equal, by rw [making, same], marked, same ▸ present⟩
      · cases absurdity
  | judged making downloading verifying judging ending =>
      rename_i verdict _ _ _
      cases verdict with
      | error failure => cases equal
      | ok value =>
          cases equal
          exact .inl ⟨rfl, trusted_of_matched (verdict_of_verifyChecksum hasChecksum judging)⟩

/-- When acquiring a declared image ends well, the image is trusted, except where it was not
compared with a checksum and is a directory or was displaced. Asking for it answers its path if it
is trusted, and otherwise that it is not present. -/
theorem trusted_after_acquire {directory : Path} {declaration : ImageDeclaration}
    {report : AcquireReport} (resolved : resolveIn directory declaration = .ok image)
    (run : image.acquire.run.Runs (conduct tool) start events (.ok report) after) :
    (image.Trusted after ↔ report.checksumVerified = true ∨
      (start.createDirectories directory).2.isDirectory image.imagePath = false ∧
        ¬ image.Displaced report) ∧
    ∀ outcome final,
      (∃ later, image.requireTrusted.run.Runs (conduct tool) after later outcome final) ↔
        outcome = (if image.Trusted after then .ok image.imagePath
          else .error (.image image.name (.notPresent image.imagePath))) ∧ final = after := by
  have declared := declared_of_resolveIn resolved
  have parts : (image.Trusted after ↔ report.checksumVerified = true ∨
      (start.createDirectories directory).2.isDirectory image.imagePath = false ∧
        ¬ image.Displaced report) ∧
      (image.Trusted after ↔ after.isFile image.imagePath = true) := by
    cases hasUrl : image.checksumUrl with
    | none =>
        obtain ⟨_, downloaded, downloading, rfl⟩ := downloads_of_unchecked hasUrl run
        have trusted : image.Trusted after ↔ after.isFile image.imagePath = true := by
          simp [Trusted, hasUrl]
        rw [trusted, isFile_after_downloads declared hasUrl downloading, declared.directory_eq]
        simp
    | some url =>
        obtain ⟨checksum, hasChecksum⟩ := Option.isSome_iff_exists.mp
          (declared.checksumPath_isSome.trans (by rw [← declared.checksumUrl_eq, hasUrl]; rfl))
        rcases checked_of_acquire (by simp [hasUrl]) hasChecksum run with
          ⟨verified, trusted⟩ | ⟨rfl, same, marked, present⟩
        · simp [verified, trusted, trusted.1]
        · have trusted : image.Trusted after ↔ after.isFile image.imagePath = true := by
            simp [Trusted, marked]
          rw [pathExists_eq, Bool.or_eq_true] at present
          rw [trusted, ← declared.directory_eq, ← same]
          cases isDirectory : after.isDirectory image.imagePath with
          | true => simp [not_isFile_of_isDirectory isDirectory]
          | false => simp [Displaced, present.resolve_right (by simp [isDirectory])]
  refine ⟨parts.1, fun outcome final => ?_⟩
  rw [runs_requireTrusted, handedOut]
  by_cases trusted : image.Trusted after
  · simp [trusted]
  · have absent : after.isFile image.imagePath = false := by
      simpa [trusted] using parts.2
    simp [trusted, absent]

/-! ## Images without a checksum -/

def plainDeclaration (file keyFile : String) : ImageDeclaration where
  name := "plain"
  imageUrl := "https://host/" ++ file
  keyUrl := some ("https://host/" ++ keyFile)

def plainImage (file keyFile : String) : CloudImage where
  name := "plain"
  imageUrl := "https://host/" ++ file
  checksumUrl := none
  checksumType := none
  keyUrl := some ("https://host/" ++ keyFile)
  networkVersion := 1
  osVariant := "plain"
  directory := ⟨"/images"⟩
  imagePath := ⟨"/images/" ++ file⟩
  checksumPath := none
  keyPath := some ⟨"/images/" ++ keyFile⟩

def sameForAll (text : String) (_ : String) : Except String Response :=
  .ok ⟨200, none, [Bytes.ofText text], none⟩

/-- The image and its keys come from the server, and the image is handed out. -/
theorem plain_image_ready :
    let image := plainImage "a.img" "key"
    resolveIn ⟨"/images"⟩ (plainDeclaration "a.img" "key") = .ok image ∧
      ∃ events report after later,
        image.acquire.run.Runs (conduct anyOutputs) {} events (.ok report) after ∧
        image.requireTrusted.run.Runs (conduct anyOutputs) after later (.ok image.imagePath)
          after := by
  intro image
  have resolved : resolveIn ⟨"/images"⟩ (plainDeclaration "a.img" "key") = .ok image := by
    decide +kernel
  obtain ⟨events, run⟩ := runs_respond anyOutputs_copySigned (sameForAll "abc") image.acquire.run {}
  have ended : (image.acquire.run.run (respond copySigned (sameForAll "abc")) {}).1 =
      .ok { downloaded := [image.imagePath, ⟨"/images/key"⟩] } := by
    decide +kernel
  rw [ended] at run
  obtain ⟨trusted_iff, asked⟩ := trusted_after_acquire resolved run
  have free : (({} : FileSystem).createDirectories ⟨"/images"⟩).2.isDirectory image.imagePath =
      false := by
    decide +kernel
  have undisplaced : ¬ image.Displaced { downloaded := [image.imagePath, ⟨"/images/key"⟩] } := by
    rintro ⟨keyPath, _, hasKey, displaced⟩
    cases hasKey
    exact absurd displaced (by decide +kernel)
  have trusted := trusted_iff.mpr (.inr ⟨free, undisplaced⟩)
  obtain ⟨later, handedOut⟩ := (asked (.ok image.imagePath) _).mpr ⟨(if_pos trusted).symm, rfl⟩
  exact ⟨resolved, events, _, _, later, run, handedOut⟩

def occupiedShelf : FileSystem where
  entries := [(["images"], .directory), (["images", "a.img"], .directory),
    (["images", "key"], .file [])]

/-- Two runs that end well and after which the image is not there: a directory has its name, and
the keys took its place while they were downloaded. -/
theorem acquired_image_not_present :
    (∃ events later,
      resolveIn ⟨"/images"⟩ (plainDeclaration "a.img" "key") = .ok (plainImage "a.img" "key") ∧
      (plainImage "a.img" "key").acquire.run.Runs (conduct anyOutputs) occupiedShelf events
        (.ok {}) occupiedShelf ∧
      (plainImage "a.img" "key").requireTrusted.run.Runs (conduct anyOutputs) occupiedShelf later
        (.error (.image "plain" (.notPresent ⟨"/images/a.img"⟩))) occupiedShelf) ∧
    ∃ events report after later,
      resolveIn ⟨"/images"⟩ (plainDeclaration "key.part" "key") =
        .ok (plainImage "key.part" "key") ∧
      (plainImage "key.part" "key").acquire.run.Runs (conduct anyOutputs) {} events (.ok report)
        after ∧
      (plainImage "key.part" "key").requireTrusted.run.Runs (conduct anyOutputs) after later
        (.error (.image "plain" (.notPresent ⟨"/images/key.part"⟩))) after := by
  constructor
  · let image := plainImage "a.img" "key"
    obtain ⟨events, run⟩ := runs_respond anyOutputs_copySigned (sameForAll "abc") image.acquire.run
      occupiedShelf
    rw [show image.acquire.run.run (respond copySigned (sameForAll "abc")) occupiedShelf =
      (.ok {}, occupiedShelf) by decide +kernel] at run
    have refused : .error (.image "plain" (.notPresent ⟨"/images/a.img"⟩)) =
        image.handedOut occupiedShelf := by
      decide +kernel
    obtain ⟨later, asked⟩ := runs_requireTrusted.mpr ⟨refused, rfl⟩
    exact ⟨events, later, by decide +kernel, run, asked⟩
  · let image := plainImage "key.part" "key"
    let left : FileSystem :=
      { entries := [(["images", "key"], .file (Bytes.ofText "abc")), (["images"], .directory)] }
    obtain ⟨events, run⟩ := runs_respond anyOutputs_copySigned (sameForAll "abc") image.acquire.run
      {}
    rw [show image.acquire.run.run (respond copySigned (sameForAll "abc")) {} =
      (.ok { downloaded := [image.imagePath, ⟨"/images/key"⟩] }, left) by decide +kernel] at run
    have refused : .error (.image "plain" (.notPresent ⟨"/images/key.part"⟩)) =
        image.handedOut left := by
      decide +kernel
    obtain ⟨later, asked⟩ := runs_requireTrusted.mpr ⟨refused, rfl⟩
    exact ⟨events, _, left, later, by decide +kernel, run, asked⟩

end CloudImage

end VirtualLab
