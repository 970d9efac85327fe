import VirtualLab.Proofs.Acquisition

/-!
# Images with signed checksums

An image that declares keys is marked only after the signature of its checksum file was verified
with them, if the URL of the keys ends in a file name. If it does not, the image has no keys and is
marked without any signature.
-/

namespace VirtualLab

def Request.RunsNoTool : Request → Prop
  | .runTool _ _ => False
  | _ => True

namespace CloudImage

open FileSystem

/-! ## Images as they are declared -/

/-- What is known of an image as it was declared: its files lie in the directory, under the last
names of their URLs. -/
structure Declared (directory : Path) (declaration : ImageDeclaration) (image : CloudImage) :
    Prop where
  directory_eq : image.directory = directory
  imagePath_eq : ∃ file, fileNameOfUrl declaration.imageUrl = some file ∧
    image.imagePath = directory.join file
  checksumUrl_eq : image.checksumUrl = declaration.checksumUrl
  checksumPath_isSome : image.checksumPath.isSome = declaration.checksumUrl.isSome
  keyPath_eq : image.keyPath = (declaration.keyUrl.bind fileNameOfUrl).map directory.join
  name_eq : image.name = declaration.name

/-- An image has a checksum file if it declares one, under the last name of its URL, which the
release of the image may make longer. -/
theorem checksumPathIn_eq_ok {directory : Path} {declaration : ImageDeclaration} {file : String}
    {checksumPath : Option Path}
    (found : checksumPathIn directory declaration file = .ok checksumPath) :
    checksumPath.isSome = declaration.checksumUrl.isSome ∧
      checksumPath = (declaration.checksumUrl.bind fileNameOfUrl).map fun listing =>
        directory.join (checksumFileName file listing) := by
  unfold checksumPathIn at found
  split at found
  · rename_i noUrl
    cases found
    simp [noUrl]
  · rename_i url hasUrl
    split at found
    · cases found
    · rename_i listing named
      cases found
      simp [hasUrl, named]

theorem exists_file_of_resolveIn {directory : Path} {declaration : ImageDeclaration}
    {image : CloudImage} (resolved : resolveIn directory declaration = .ok image) :
    ∃ file, fileNameOfUrl declaration.imageUrl = some file ∧
      image.imagePath = directory.join file ∧
      (image.checksumPath = (declaration.checksumUrl.bind fileNameOfUrl).map fun listing =>
        directory.join (checksumFileName file listing)) ∧
      (image.networkVersion = 1 ∨ image.networkVersion = 2) ∧
      image.Declared directory declaration := by
  unfold resolveIn at resolved
  split at resolved
  · cases resolved
  · rename_i file named
    cases hasChecksum : checksumPathIn directory declaration file with
    | error failure => simp [hasChecksum, bind, Except.bind] at resolved
    | ok checksumPath =>
        simp only [hasChecksum, bind, Except.bind] at resolved
        split at resolved
        · rename_i schema
          obtain ⟨sameIsSome, placed⟩ := checksumPathIn_eq_ok hasChecksum
          cases resolved
          exact ⟨file, named, rfl, placed, schema, rfl, ⟨file, named, rfl⟩, rfl, sameIsSome, rfl,
            rfl⟩
        · cases resolved

theorem declared_of_resolveIn {directory : Path} {declaration : ImageDeclaration}
    {image : CloudImage} (resolved : resolveIn directory declaration = .ok image) :
    image.Declared directory declaration := by
  obtain ⟨_, _, _, _, _, declared⟩ := exists_file_of_resolveIn resolved
  exact declared

theorem networkVersion_of_resolveIn {directory : Path} {declaration : ImageDeclaration}
    {image : CloudImage} (resolved : resolveIn directory declaration = .ok image) :
    image.networkVersion = 1 ∨ image.networkVersion = 2 := by
  obtain ⟨_, _, _, _, schema, _⟩ := exists_file_of_resolveIn resolved
  exact schema

/-! ## Runs without keys -/

variable {image : CloudImage}

private theorem ask_runsNoTool {request : Request} (noTool : request.RunsNoTool) :
    (Attempt.ask request : LabTask request.Answer).Confined Request.RunsNoTool fun _ => True :=
  Attempt.confined_ask noTool

private theorem orFail_runsNoTool {φ α : Type} (wrap : φ → LabError) (result : Except φ α) :
    (Attempt.orFail wrap result).Confined Request.RunsNoTool fun _ => True :=
  Attempt.confined_orFail fun _ => trivial

theorem expectedDigest_runsNoTool (image : CloudImage) (source : Path) :
    (image.expectedDigest source).Confined Request.RunsNoTool fun _ => True := by
  have reads : (Script.readText source).Confined Request.RunsNoTool fun _ => True :=
    ⟨trivial, fun _ => trivial⟩
  refine Attempt.confined_bind (Attempt.confined_lift reads) fun content => ?_
  refine Attempt.confined_bind (orFail_runsNoTool _ _) fun text => ?_
  split
  · exact Attempt.confined_pure _
  · exact Attempt.confined_throw trivial

theorem verifyChecksum_runsNoTool (image : CloudImage) :
    image.verifyChecksum.Confined Request.RunsNoTool fun _ => True := by
  refine Attempt.confined_bind (orFail_runsNoTool _ _) fun algorithm => ?_
  cases image.checksumPath with
  | none => exact Attempt.confined_pure ()
  | some checksum =>
      have chooses : (checksumSource checksum).Confined Request.RunsNoTool fun _ => True :=
        ⟨trivial, fun verified => by cases verified <;> trivial⟩
      refine Attempt.confined_bind (Attempt.confined_lift chooses) fun source => ?_
      refine Attempt.confined_bind (expectedDigest_runsNoTool image source) fun expected => ?_
      refine Attempt.confined_bind (Attempt.confined_bind (ask_runsNoTool trivial) fun _ =>
        Attempt.confined_bind (orFail_runsNoTool _ _) fun _ => Attempt.confined_pure _) fun actual => ?_
      split
      · exact Attempt.confined_bind (ask_runsNoTool trivial) fun _ =>
          Attempt.confined_bind (Attempt.confined_throw trivial) fun _ =>
            Attempt.confined_bind (ask_runsNoTool trivial) fun _ => orFail_runsNoTool _ _
      · exact Attempt.confined_bind (ask_runsNoTool trivial) fun _ => orFail_runsNoTool _ _

theorem downloadMissing_runsNoTool (sources : List (String × Path)) :
    (downloadMissing sources).Confined Request.RunsNoTool fun _ => True := by
  have changes := downloadMissing_confined
    fun source (member : source ∈ sources) path changed =>
      List.mem_flatMap.mpr ⟨source, member, changed⟩
  refine ⟨changes.run.mono (fun request changesFiles => ?_) fun _ _ _ _ => trivial⟩
  cases request with
  | runTool => exact changesFiles
  | _ => trivial

theorem acquire_runsNoTool (noKey : image.keyPath = none) :
    image.acquire.Confined Request.RunsNoTool fun _ => True := by
  refine Attempt.confined_bind (ask_runsNoTool trivial) fun _ => ?_
  refine Attempt.confined_bind (orFail_runsNoTool _ _) fun _ => ?_
  refine Attempt.confined_bind (downloadMissing_runsNoTool _) fun downloaded => ?_
  split
  · exact Attempt.confined_pure _
  · refine Attempt.confined_bind (ask_runsNoTool trivial) fun marked => ?_
    split
    · exact Attempt.confined_pure _
    · simp only [noKey, Option.isSome_none]
      exact Attempt.confined_bind (verifyChecksum_runsNoTool image) fun _ =>
        Attempt.confined_pure _

/-! ## Runs that leave a marker -/

/-- A signature tool that keeps to its outputs, and writes what was signed whenever it says that
the signature is good. -/
structure WritesSigned (arguments : List String) (before : FileSystem)
    (answer : Except ToolFailure ToolOutput) (after : FileSystem) : Prop extends
    KeepsToOutputs arguments before after where
  written : ∀ keyring checksum output printed,
    arguments = decryptArguments keyring checksum output → answer = .ok printed →
      after.isFile output = true

/-- A run that ends so: the keys are taken into the keyring, the signature of the checksum file is
verified, and the image is found to have, and marked with, the digest that is listed for it in what
was signed. -/
inductive Enforced (image : CloudImage) (events : List (Event FileSystem)) : Prop
  | intro {checksum keyFile : Path} {algorithm : ChecksumAlgorithm}
      {imported decrypted : ToolOutput}
      {before middle signed after : FileSystem} {listing content : Bytes} {text : String}
      (hasChecksum : image.checksumPath = some checksum)
      (hasKey : image.keyPath = some keyFile)
      (algorithmKnown : image.algorithm = .ok algorithm)
      (readable : Bytes.toText? listing = some text)
      (listed : ChecksumEntry.digestOf (ChecksumEntry.ofText text) image.fileName =
        some (algorithm.digest content))
      (ending :
        [⟨before, .runTool signatureTool (importArguments image.keyringPath keyFile),
            .ok imported, middle⟩,
          ⟨middle, .runTool signatureTool (decryptArguments image.keyringPath checksum
            (checksum.withSuffix verifiedSuffix)), .ok decrypted, signed⟩,
          ⟨signed, .isFile (checksum.withSuffix verifiedSuffix), true, signed⟩,
          ⟨signed, .readFile (checksum.withSuffix verifiedSuffix), .ok listing, signed⟩,
          ⟨signed, .readFile image.imagePath, .ok content, signed⟩,
          ⟨signed, .writeFile image.markerPath (Bytes.ofText (algorithm.digest content ++ "\n")),
            .ok (), after⟩] <:+ events)

variable {tool : SignatureToolConduct} {start before after : FileSystem}
  {events : List (Event FileSystem)}

theorem enforced_of_verdict {checksum keyFile : Path} {signing comparing : List (Event FileSystem)}
    {verdict : Except LabError Unit} {signed : FileSystem}
    (written : ∀ {arguments before answer after}, tool arguments before answer after →
      WritesSigned arguments before answer after)
    (hasChecksum : image.checksumPath = some checksum) (hasKey : image.keyPath = some keyFile)
    (verifying : image.verifySignature.run.Runs (conduct tool) before signing (.ok ()) signed)
    (judged : image.Verdict signed comparing verdict after)
    (unmarked : signed.isFile image.markerPath = false)
    (marked : after.isFile image.markerPath = true)
    (ending : signing ++ comparing <:+ events) : image.Enforced events := by
  rcases verifySignature_runs hasChecksum hasKey verifying with ⟨_, _, impossible⟩ |
    ⟨imported, answer, middle, importing, decrypting, rfl, equal⟩
  · cases impossible
  cases answer with
  | error cause => cases equal
  | ok decrypted =>
      have verified : signed.isFile (checksum.withSuffix verifiedSuffix) = true :=
        (written decrypting).written _ _ _ _ rfl rfl
      cases judged with
      | undecided => exact absurd (unmarked.symm.trans marked) Bool.false_ne_true
      | mismatched gone => exact absurd (gone.symm.trans marked) Bool.false_ne_true
      | matched hasSource chosen known listingRead readable imageRead listed marking =>
          cases hasSource.symm.trans hasChecksum
          rw [verified, if_pos rfl] at chosen
          subst chosen
          rw [verified] at ending
          exact .intro hasChecksum hasKey known readable listed ending

/-- A run that leaves a marker where there was none has verified the signature, if the image has
keys. -/
theorem enforced_of_course {checksum keyFile : Path} {outcome : Except LabError AcquireReport}
    (written : ∀ {arguments before answer after}, tool arguments before answer after →
      WritesSigned arguments before answer after)
    (hasUrl : image.checksumUrl.isSome = true)
    (hasChecksum : image.checksumPath = some checksum) (hasKey : image.keyPath = some keyFile)
    (apart : ∀ path ∈ image.sidePaths, path.Apart image.markerPath)
    (unmarked : (start.createDirectories image.directory).2.isFile image.markerPath = false)
    (course : image.Course tool start events outcome after)
    (marked : after.isFile image.markerPath = true) : image.Enforced events := by
  have downloaded : ∀ {before after downloads outcome},
      (downloadMissing image.artifacts).run.Runs (conduct tool) before downloads outcome after →
        after.isFile image.markerPath = before.isFile image.markerPath := fun run =>
    (downloadMissing_differs run).isFile
      (List.forall_mem_cons.mpr ⟨image.image_apart_marker, apart⟩)
  have signed : ∀ {before after signing outcome},
      image.verifySignature.run.Runs (conduct tool) before signing outcome after →
        after.isFile image.markerPath = before.isFile image.markerPath := fun run =>
    (verifySignature_differs (fun acted => (written acted).toKeepsToOutputs) run).isFile apart
  cases course with
  | unmade making => simp [making, marked] at unmarked
  | incomplete making downloading =>
      rw [making] at unmarked
      exact absurd ((downloaded downloading).symm.trans marked) (by simp [unmarked])
  | unchecked making downloading noChecksum => simp [noChecksum] at hasUrl
  | known making downloading =>
      rw [making] at unmarked
      exact absurd ((downloaded downloading).symm.trans marked) (by simp [unmarked])
  | unsigned making downloading verifying =>
      rw [making, ← downloaded downloading, ← signed verifying] at unmarked
      exact absurd (unmarked.symm.trans marked) Bool.false_ne_true
  | judged making downloading verifying judging ending =>
      rw [making, ← downloaded downloading, ← signed verifying] at unmarked
      exact enforced_of_verdict written hasChecksum hasKey verifying
        (verdict_of_verifyChecksum hasChecksum judging) unmarked marked ending

/-- A run on a declared image with keys that leaves a marker where there was none has verified the
signature of the checksum file, if the URL of the keys ends in a file name. If it does not, the run
has not asked for a signature at all. -/
theorem enforced_after_acquire {directory : Path} {declaration : ImageDeclaration}
    {checksumUrl keyUrl : String} {outcome : Except LabError AcquireReport}
    (hasChecksum : declaration.checksumUrl = some checksumUrl)
    (hasKey : declaration.keyUrl = some keyUrl)
    (resolved : resolveIn directory declaration = .ok image)
    (apart : ∀ path ∈ image.sidePaths, path.Apart image.markerPath)
    (inView : start.InView image.directory image.markerPath)
    (unmarked : start.isFile image.markerPath = false)
    (run : image.acquire.run.Runs (conduct WritesSigned) start events outcome after)
    (marked : after.isFile image.markerPath = true) :
    ((fileNameOfUrl keyUrl).isSome = true → image.Enforced events) ∧
      (fileNameOfUrl keyUrl = none → ∀ event ∈ events, event.request.RunsNoTool) := by
  obtain ⟨_, _, sameUrl, samePath, keyPath⟩ := declared_of_resolveIn resolved
  rw [hasKey, Option.bind_some] at keyPath
  constructor
  · intro named
    obtain ⟨keyFile, hasName⟩ := Option.isSome_iff_exists.mp named
    obtain ⟨checksum, isChecksum⟩ := Option.isSome_iff_exists.mp
      (samePath.trans (by rw [hasChecksum]; rfl))
    refine enforced_of_course id (by simp [sameUrl, hasChecksum]) isChecksum
      (keyPath.trans (by rw [hasName]; rfl)) apart ?_ (course_of_acquire run) marked
    rw [Bool.eq_false_iff]
    exact fun shown => absurd (inView shown) (by simp [unmarked])
  · intro unnamed
    rw [unnamed, Option.map_none] at keyPath
    exact run.request_of_confined (acquire_runsNoTool keyPath).run

/-! ## Keys at two URLs -/

theorem writesSigned_copySigned (arguments : List String) (files : FileSystem) :
    WritesSigned arguments files (copySigned arguments files).1 (copySigned arguments files).2 where
  toKeepsToOutputs := copySigned_keepsToOutputs arguments files
  written keyring checksum output printed equal ended := by
    subst equal
    simp only [decryptArguments, copySigned] at ended ⊢
    cases content : files.read checksum with
    | error cause => simp [content, Except.bind] at ended
    | ok signed =>
        cases writing : files.write output signed with
        | error cause => simp [content, Except.bind, writing] at ended
        | ok changed =>
            simp only [Except.bind, writing]
            exact isFile_iff.mpr ⟨signed, read_of_write writing⟩

def signedDeclaration (keyUrl : String) : ImageDeclaration where
  name := "signed"
  imageUrl := "https://host/a.img"
  checksumUrl := some "https://host/SUMS"
  checksumType := some "sha256"
  keyUrl := some keyUrl

def signedImage (keyUrl : String) (keyPath : Option Path) : CloudImage where
  name := "signed"
  imageUrl := "https://host/a.img"
  checksumUrl := some "https://host/SUMS"
  checksumType := some "sha256"
  keyUrl := some keyUrl
  networkVersion := 1
  osVariant := "signed"
  directory := ⟨"/images"⟩
  imagePath := ⟨"/images/a.img"⟩
  checksumPath := some ⟨"/images/SUMS"⟩
  keyPath := keyPath

def signedShelf : FileSystem where
  entries := [(["images"], .directory), (["images", "a.img"], .file (Bytes.ofText "abc")),
    (["images", "SUMS"], .file (Bytes.ofText
      "ba7816bf8f01cfea414140de5dae2223b00361a396177a9cb410ff61f20015ad  a.img\n")),
    (["images", "key.gpg"], .file [])]

def marked (files : FileSystem) : FileSystem :=
  files.put ["images", "a.img.verified"]
    (.file (Bytes.ofText "ba7816bf8f01cfea414140de5dae2223b00361a396177a9cb410ff61f20015ad\n"))

theorem signed_image_enforced :
    let image := signedImage "https://host/key.gpg" (some ⟨"/images/key.gpg"⟩)
    resolveIn ⟨"/images"⟩ (signedDeclaration "https://host/key.gpg") = .ok image ∧
      (∀ path ∈ image.sidePaths, path.Apart image.markerPath) ∧
      signedShelf.InView image.directory image.markerPath ∧
      signedShelf.isFile image.markerPath = false ∧
      ∃ events outcome after,
        image.acquire.run.Runs (conduct WritesSigned) signedShelf events outcome after ∧
        after.isFile image.markerPath = true ∧ image.Enforced events := by
  intro image
  have resolved : resolveIn ⟨"/images"⟩ (signedDeclaration "https://host/key.gpg") = .ok image := by
    decide +kernel
  have apart : ∀ path ∈ image.sidePaths, path.Apart image.markerPath := by
    have others : ∀ path ∈ image.sidePaths,
        path.lastName ≠ ".." ∧ path.lastName ≠ image.markerPath.lastName := by decide +kernel
    intro path member
    exact Path.apart_of_lastName_ne (others path member).1 (by decide +kernel)
      (others path member).2
  have inView : signedShelf.InView image.directory image.markerPath := by
    unfold FileSystem.InView
    decide +kernel
  have unmarked : signedShelf.isFile image.markerPath = false := by decide +kernel
  let copied := signedShelf.put ["images", "SUMS.verified"] (.file (Bytes.ofText
    "ba7816bf8f01cfea414140de5dae2223b00361a396177a9cb410ff61f20015ad  a.img\n"))
  obtain ⟨events, run⟩ := runs_respond writesSigned_copySigned (fun url => .error url)
    image.acquire.run signedShelf
  rw [show image.acquire.run.run _ signedShelf =
    (.ok { signatureVerified := true, checksumVerified := true }, marked copied)
    by decide +kernel] at run
  have isMarked : (marked copied).isFile image.markerPath = true := by decide +kernel
  obtain ⟨enforced, _⟩ := enforced_after_acquire rfl rfl resolved apart inView unmarked run isMarked
  exact ⟨resolved, apart, inView, unmarked, events, _, _, run, isMarked,
    enforced (by decide +kernel)⟩

/-- The keys are declared, but their URL has no file name: the image is marked all the same. -/
theorem marked_without_signature :
    let image := signedImage "https://host/" none
    resolveIn ⟨"/images"⟩ (signedDeclaration "https://host/") = .ok image ∧
      signedShelf.isFile image.markerPath = false ∧
      ∃ events report after,
        image.acquire.run.Runs (conduct WritesSigned) signedShelf events (.ok report) after ∧
        after.isFile image.markerPath = true ∧ ∀ event ∈ events, event.request.RunsNoTool := by
  intro image
  obtain ⟨events, run⟩ := runs_respond writesSigned_copySigned (fun url => .error url)
    image.acquire.run signedShelf
  rw [show image.acquire.run.run _ signedShelf =
    (.ok { checksumVerified := true }, marked signedShelf) by decide +kernel] at run
  exact ⟨by decide +kernel, by decide +kernel, events, _, _, run, by decide +kernel,
    run.request_of_confined (acquire_runsNoTool rfl).run⟩

end CloudImage

end VirtualLab
