import VirtualLab.Proofs.AcquiringAgain

/-!
# The files of an image

All that acquiring an image writes is to lie directly in the directory of images. Names with
something appended always do. The image, its checksum file and its keys do unless the last part of
their URL is a dot or two, and the keyring does unless the name of the image leads elsewhere.
-/

namespace VirtualLab

/-! ## Files directly in a directory -/

namespace Path

variable {directory path other : Path} {file name suffix : String}

def IsDirectlyIn (path directory : Path) : Prop :=
  ∃ name, IsName name ∧ path = directory.join name

theorem withSuffix_inj (equal : path.withSuffix suffix = other.withSuffix suffix) : path = other := by
  have texts := (String.append_left_inj suffix).mp (congrArg text equal)
  cases path
  cases other
  exact congrArg Path.mk texts

theorem names_of_isDirectlyIn (lies : path.IsDirectlyIn directory) :
    ∃ name, IsName name ∧ path.names = directory.names ++ [name] := by
  obtain ⟨name, isName, rfl⟩ := lies
  exact ⟨name, isName, by rw [names_join (relative_of_plain isName.2.2.2), names_of_isName isName]⟩

theorem isDirectlyIn_join_iff (plain : '/' ∉ file.toList) :
    (directory.join file).IsDirectlyIn directory ↔ IsName file := by
  constructor
  · rintro ⟨name, isName, equal⟩
    obtain rfl := join_inj_of_relative (relative_of_plain plain)
      (relative_of_plain isName.2.2.2) equal
    exact isName
  · exact fun isName => ⟨file, isName, rfl⟩

theorem isName_append (plain : '/' ∉ file.toList) (suffixPlain : '/' ∉ suffix.toList)
    (long : 2 < suffix.length) : IsName (file ++ suffix) := by
  have longer : 2 < (file ++ suffix).length := by
    rw [String.length_append]
    omega
  have ne_of_short : ∀ {text : String}, text.length ≤ 2 → file ++ suffix ≠ text := by
    rintro text short rfl
    omega
  refine ⟨ne_of_short (by decide), ne_of_short (by decide), ne_of_short (by decide), ?_⟩
  rw [String.toList_append, List.mem_append, not_or]
  exact ⟨plain, suffixPlain⟩

/-- A plain ending of the path of a file in a directory is an ending of the name of the file, for
before the name stands a slash or nothing. -/
theorem exists_part_of_suffix (suffixPlain : '/' ∉ suffix.toList)
    (ends : suffix.toList <:+ (directory.join name).text.toList) (plain : '/' ∉ name.toList) :
    ∃ part : String, '/' ∉ part.toList ∧ name = part ++ suffix := by
  have nameEnds : suffix.toList <:+ name.toList := by
    rcases join_text directory (relative_of_plain plain) with ⟨_, joined⟩ | ⟨front, _, _, joined⟩
    · rwa [joined] at ends
    · rw [joined] at ends
      rcases List.suffix_or_suffix_of_suffix ends (List.suffix_append front _) with
        within | beyond
      · rcases List.suffix_cons_iff.mp within with whole | inName
        · exact absurd (whole ▸ List.mem_cons_self) suffixPlain
        · exact inName
      · exact absurd (beyond.subset List.mem_cons_self) suffixPlain
  obtain ⟨part, shown⟩ := nameEnds
  refine ⟨String.ofList part, ?_, ?_⟩
  · rw [String.toList_ofList]
    exact fun member => plain (shown ▸ List.mem_append_left _ member)
  · rw [← String.toList_inj, String.toList_append, String.toList_ofList, shown]

theorem isDirectlyIn_join_append_iff (suffixPlain : '/' ∉ suffix.toList) (long : 2 < suffix.length) :
    (directory.join (name ++ suffix)).IsDirectlyIn directory ↔
      ∃ part : String, '/' ∉ part.toList ∧ directory.join name = directory.join part := by
  rw [← join_withSuffix directory name suffixPlain]
  constructor
  · rintro ⟨file, isName, equal⟩
    have ends : suffix.toList <:+ (directory.join file).text.toList := by
      rw [← equal, withSuffix, String.toList_append]
      exact List.suffix_append _ _
    obtain ⟨part, plain, rfl⟩ := exists_part_of_suffix suffixPlain ends isName.2.2.2
    rw [← join_withSuffix directory part suffixPlain] at equal
    exact ⟨part, plain, withSuffix_inj equal⟩
  · rintro ⟨part, plain, equal⟩
    rw [equal, join_withSuffix directory part suffixPlain]
    exact ⟨_, isName_append plain suffixPlain long, rfl⟩

end Path

/-! ## What acquiring an image writes -/

/-- The request has no other effect on files than acquiring the image may have: the directory of
images is made, files of the image are changed, and the signature tool is told of nothing but the
keyring, the keys and the checksum file of the image. -/
def Request.Acquires (image : CloudImage) : Request → Prop
  | .createDirectories path => path = image.directory
  | .runTool tool arguments => tool = CloudImage.signatureTool ∧
      ∃ checksum keyFile, image.checksumPath = some checksum ∧ image.keyPath = some keyFile ∧
        (arguments = CloudImage.importArguments image.keyringPath keyFile ∨
          arguments = CloudImage.decryptArguments image.keyringPath checksum
            (checksum.withSuffix CloudImage.verifiedSuffix))
  | request => request.ChangesFilesAt image.written

theorem Request.ChangesFilesAt.mono {paths more : List Path} {request : Request}
    (changes : request.ChangesFilesAt paths) (included : ∀ path ∈ paths, path ∈ more) :
    request.ChangesFilesAt more := by
  cases request with
  | writeFile => exact included _ changes
  | appendFile => exact included _ changes
  | removeFile => exact included _ changes
  | renameFile => exact ⟨included _ changes.1, included _ changes.2⟩
  | createDirectories => exact changes
  | removeDirectory => exact changes
  | runTool => exact changes
  | _ => trivial

theorem Request.ChangesFilesAt.acquires {image : CloudImage} {request : Request}
    (changes : request.ChangesFilesAt image.written) : request.Acquires image := by
  cases request with
  | createDirectories => exact changes.elim
  | runTool => exact changes.elim
  | _ => exact changes

namespace CloudImage

open FileSystem Download

variable {directory : Path} {declaration : ImageDeclaration} {image : CloudImage}
  {url file : String}

theorem paths_of_mem_artifacts (image : CloudImage) :
    ∀ artifact ∈ image.artifacts, ∀ path ∈ Download.paths artifact.2, path ∈ image.written := by
  refine List.forall_mem_cons.mpr ⟨?_, fun artifact member path changed => ?_⟩
  · simp [Download.paths, written, sidePaths]
  · exact List.mem_cons_of_mem _ (List.mem_cons_of_mem _ (paths_of_artifact member path changed))

theorem downloads_acquires (image : CloudImage) :
    (downloadMissing image.artifacts).Confined (Request.Acquires image) fun _ => True :=
  ⟨(downloadMissing_confined image.paths_of_mem_artifacts).run.mono
    (fun _ changes => changes.acquires) fun _ _ _ _ => trivial⟩

theorem verifySignature_acquires (image : CloudImage) :
    image.verifySignature.Confined (Request.Acquires image) fun _ => True := by
  have runs : ∀ arguments, Request.Acquires image (.runTool signatureTool arguments) →
      (image.runSignatureTool arguments).Confined (Request.Acquires image) fun _ => True :=
    fun arguments acquires => Attempt.confined_bind (Attempt.confined_ask acquires) fun _ =>
      Attempt.confined_bind (Attempt.confined_orFail fun _ => trivial) fun _ =>
        Attempt.confined_pure _
  unfold verifySignature
  split
  · rename_i checksum keyFile hasChecksum hasKey
    refine Attempt.confined_bind (runs _ ?_) fun _ => runs _ ?_
    · exact ⟨rfl, checksum, keyFile, hasChecksum, hasKey, .inl rfl⟩
    · exact ⟨rfl, checksum, keyFile, hasChecksum, hasKey, .inr rfl⟩
  · exact Attempt.confined_pure _

theorem verifyChecksum_acquires (image : CloudImage) :
    image.verifyChecksum.Confined (Request.Acquires image) fun _ => True :=
  (verifyChecksum_changesFilesAt image).mono fun _ changes =>
    (changes.mono (by simp [written])).acquires

theorem acquire_acquires (image : CloudImage) :
    image.acquire.Confined (Request.Acquires image) fun _ => True := by
  refine Attempt.confined_bind (Attempt.confined_ask rfl) fun _ => ?_
  refine Attempt.confined_bind (Attempt.confined_orFail fun _ => trivial) fun _ => ?_
  refine Attempt.confined_bind (downloads_acquires image) fun downloaded => ?_
  split
  · exact Attempt.confined_pure _
  · refine Attempt.confined_bind (Attempt.confined_ask trivial) fun marked => ?_
    have compared : ∀ report : AcquireReport,
        (image.verifyChecksum >>= fun _ => pure report).Confined (Request.Acquires image)
          fun _ => True :=
      fun report => Attempt.confined_bind (verifyChecksum_acquires image) fun _ =>
        Attempt.confined_pure _
    split
    · exact Attempt.confined_pure _
    · split
      · exact Attempt.confined_bind (verifySignature_acquires image) fun _ => compared _
      · exact compared _

/-! ## Where the files of an image lie -/

theorem Beside.isDirectlyIn_withSuffix {path : Path} {suffix : String}
    (beside : Beside directory path) (suffixPlain : '/' ∉ suffix.toList)
    (long : 2 < suffix.length) : (path.withSuffix suffix).IsDirectlyIn directory := by
  obtain ⟨file, plain, rfl⟩ := beside
  rw [Path.join_withSuffix directory file suffixPlain]
  exact ⟨_, Path.isName_append plain suffixPlain long, rfl⟩

def sidecars (image : CloudImage) : List Path :=
  image.markerPath :: image.imagePath.withSuffix partSuffix ::
    ((image.checksumPath.toList ++ image.keyPath.toList).map (·.withSuffix partSuffix) ++
      image.checksumPath.toList.map (·.withSuffix verifiedSuffix))

/-- What holds of the files that are written once it holds of those beside the downloaded ones. -/
theorem forall_written_iff {holds : Path → Prop} (sidecars : ∀ path ∈ image.sidecars, holds path) :
    (∀ path ∈ image.written, holds path) ↔
      holds image.imagePath ∧ (∀ checksum, image.checksumPath = some checksum → holds checksum) ∧
        (∀ keyFile, image.keyPath = some keyFile → holds keyFile) ∧
          (image.checksumPath ≠ none → image.keyPath ≠ none → holds image.keyringPath) := by
  unfold CloudImage.sidecars at sidecars
  unfold written sidePaths signingPaths
  cases hasChecksum : image.checksumPath <;> cases hasKey : image.keyPath <;>
    simp_all [Download.paths]

def EndsInDots (url : String) : Prop :=
  fileNameOfUrl url = some "." ∨ fileNameOfUrl url = some ".."

instance (url : String) : Decidable (EndsInDots url) := inferInstanceAs (Decidable (_ ∨ _))

theorem isName_iff (named : fileNameOfUrl url = some file) :
    Path.IsName file ↔ ¬ EndsInDots url := by
  have nonempty : file ≠ "" := (isUrlPart_of_fileNameOfUrl named).1
  simp [Path.IsName, EndsInDots, named, nonempty, plain_of_fileNameOfUrl named]

theorem isName_checksumFileName_iff {imageFile : String} (named : fileNameOfUrl url = some file) :
    Path.IsName (checksumFileName imageFile file) ↔
      (EndsInDots url → debianRelease imageFile ≠ none) := by
  cases found : debianRelease imageFile with
  | none => simp [checksumFileName, found, isName_iff named]
  | some release =>
    have plain : '/' ∉ (".debian" ++ release).toList := by
      simpa [String.toList_append] using not_slash_of_debianRelease found
    have long : 2 < (".debian" ++ release).length := by
      rw [String.length_append, show ".debian".length = 7 from rfl]
      omega
    have isName := Path.isName_append (plain_of_fileNameOfUrl named) plain long
    simpa [checksumFileName, found, String.append_assoc] using isName

/-- The last parts of an image's URLs are no dots, unless a release makes a name of them, and the
keyring that is named after the image is one name in the directory, or a path to one there. -/
structure NamesFiles (declaration : ImageDeclaration) (directory : Path) : Prop where
  image : ¬ EndsInDots declaration.imageUrl
  checksum : ∀ url, declaration.checksumUrl = some url → EndsInDots url →
    (fileNameOfUrl declaration.imageUrl).bind debianRelease ≠ none
  key : ∀ url, declaration.keyUrl = some url → ¬ EndsInDots url
  keyring : declaration.checksumUrl ≠ none → declaration.keyUrl.bind fileNameOfUrl ≠ none →
    ∃ part : String, '/' ∉ part.toList ∧ directory.join declaration.name = directory.join part

theorem isDirectlyIn_of_mem_sidecars (resolved : resolveIn directory declaration = .ok image) :
    ∀ path ∈ image.sidecars, path.IsDirectlyIn directory := by
  have imageBeside : Beside directory image.imagePath :=
    beside_of_resolveIn resolved (image.imageUrl, image.imagePath) List.mem_cons_self
  have checksumBeside : ∀ checksum ∈ image.checksumPath.toList, Beside directory checksum :=
    fun _ member => beside_of_checksumPath resolved (Option.mem_toList.mp member)
  have keyBeside : ∀ keyFile ∈ image.keyPath.toList, Beside directory keyFile :=
    fun _ member => beside_of_keyPath resolved (Option.mem_toList.mp member)
  have part : ∀ {path}, Beside directory path →
      (path.withSuffix partSuffix).IsDirectlyIn directory :=
    fun beside => beside.isDirectlyIn_withSuffix (by decide) (by decide)
  have verified : ∀ {path}, Beside directory path →
      (path.withSuffix verifiedSuffix).IsDirectlyIn directory :=
    fun beside => beside.isDirectlyIn_withSuffix (by decide) (by decide)
  refine List.forall_mem_cons.mpr ⟨verified imageBeside, List.forall_mem_cons.mpr
    ⟨part imageBeside, List.forall_mem_append.mpr ⟨?_, ?_⟩⟩⟩
  · refine List.forall_mem_map.mpr (List.forall_mem_append.mpr ⟨?_, ?_⟩)
    · exact fun checksum member => part (checksumBeside checksum member)
    · exact fun keyFile member => part (keyBeside keyFile member)
  · exact List.forall_mem_map.mpr fun checksum member => verified (checksumBeside checksum member)

/-- Whether what is named by a URL lies in the directory is seen from the last part of the URL. -/
theorem isDirectlyIn_iff_of_url {given : Option String} {place : String → Path} {excused : Prop}
    (each : ∀ {url file : String}, fileNameOfUrl url = some file →
      ((place file).IsDirectlyIn directory ↔ (EndsInDots url → excused))) :
    (∀ path, (given.bind fileNameOfUrl).map place = some path → path.IsDirectlyIn directory) ↔
      ∀ url, given = some url → EndsInDots url → excused := by
  constructor
  · intro lies url isGiven dots
    obtain ⟨file, named⟩ : ∃ file, fileNameOfUrl url = some file := by
      rcases dots with named | named <;> exact ⟨_, named⟩
    exact (each named).mp (lies _ (by simp [isGiven, named])) dots
  · intro excuses path placed
    obtain ⟨file, found, rfl⟩ := Option.map_eq_some_iff.mp placed
    obtain ⟨url, isGiven, named⟩ := Option.bind_eq_some_iff.mp found
    exact (each named).mpr (excuses url isGiven)

/-- The files that are written for an image lie directly in the directory exactly if the image
names them so. -/
theorem isDirectlyIn_of_mem_written_iff (resolved : resolveIn directory declaration = .ok image) :
    (∀ path ∈ image.written, path.IsDirectlyIn directory) ↔ NamesFiles declaration directory := by
  obtain ⟨file, named, imagePath, checksumPath, _, declared⟩ := exists_file_of_resolveIn resolved
  have ofImage : image.imagePath.IsDirectlyIn directory ↔ ¬ EndsInDots declaration.imageUrl := by
    rw [imagePath, Path.isDirectlyIn_join_iff (plain_of_fileNameOfUrl named), isName_iff named]
  have ofChecksum : (∀ checksum, image.checksumPath = some checksum →
      checksum.IsDirectlyIn directory) ↔ ∀ url, declaration.checksumUrl = some url →
        EndsInDots url → (fileNameOfUrl declaration.imageUrl).bind debianRelease ≠ none := by
    rw [checksumPath, named, Option.bind_some]
    refine isDirectlyIn_iff_of_url fun listed => ?_
    rw [Path.isDirectlyIn_join_iff (plain_checksumFileName (plain_of_fileNameOfUrl listed)),
      isName_checksumFileName_iff listed]
  have ofKey : (∀ keyFile, image.keyPath = some keyFile → keyFile.IsDirectlyIn directory) ↔
      ∀ url, declaration.keyUrl = some url → ¬ EndsInDots url := by
    rw [declared.keyPath_eq]
    refine isDirectlyIn_iff_of_url fun listed => ?_
    rw [Path.isDirectlyIn_join_iff (plain_of_fileNameOfUrl listed), isName_iff listed]
  have ofKeyring : image.keyringPath.IsDirectlyIn directory ↔ ∃ part : String,
      '/' ∉ part.toList ∧ directory.join declaration.name = directory.join part := by
    rw [keyringPath, declared.directory_eq, declared.name_eq]
    exact Path.isDirectlyIn_join_append_iff (by decide) (by decide)
  have hasChecksum : image.checksumPath ≠ none ↔ declaration.checksumUrl ≠ none := by
    rw [← Option.isSome_iff_ne_none, declared.checksumPath_isSome, Option.isSome_iff_ne_none]
  have hasKey : image.keyPath ≠ none ↔ declaration.keyUrl.bind fileNameOfUrl ≠ none := by
    rw [declared.keyPath_eq, ne_eq, Option.map_eq_none_iff]
  rw [forall_written_iff (isDirectlyIn_of_mem_sidecars resolved), ofImage, ofChecksum, ofKey,
    ofKeyring, hasChecksum, hasKey]
  exact ⟨fun ⟨image, checksum, key, keyring⟩ => ⟨image, checksum, key, keyring⟩,
    fun names => ⟨names.image, names.checksum, names.key, names.keyring⟩⟩

/-- Acquiring an accepted image writes to its own files only, once the directory is made. Those with
something appended to a name always lie directly in the directory, and all of them do exactly if
the image names them so. -/
theorem files_stay_in_directory (resolved : resolveIn directory declaration = .ok image) :
    image.directory = directory ∧
    (∀ {σ : Type} {conduct : Conduct σ} {start final : σ} {events outcome},
      image.acquire.run.Runs conduct start events outcome final →
        ∀ event ∈ events, event.request.Acquires image) ∧
    (∀ path ∈ image.sidecars, path.IsDirectlyIn directory) ∧
    ((∀ path ∈ image.written, path.IsDirectlyIn directory) ↔ NamesFiles declaration directory) :=
  ⟨(declared_of_resolveIn resolved).directory_eq, fun run => image.acquire_acquires.requests run,
    isDirectlyIn_of_mem_sidecars resolved, isDirectlyIn_of_mem_written_iff resolved⟩

/-! ### Files in the directory and elsewhere -/

def signedRelease : ImageDeclaration where
  name := "debian12"
  imageUrl := "https://example.org/debian-12-generic.qcow2"
  checksumUrl := some "https://example.org/latest/.."
  checksumType := some "sha512"
  keyUrl := some "https://example.org/key.gpg?version=1"

theorem signed_release_in_directory :
    ∃ image, resolveIn ⟨"/images"⟩ signedRelease = .ok image ∧
      image.checksumPath = some ⟨"/images/...debian12"⟩ ∧
      ⟨"/images/debian12.keyring.gpg"⟩ ∈ image.written ∧
      ∀ path ∈ image.written, path.IsDirectlyIn ⟨"/images"⟩ := by
  obtain ⟨image, resolved⟩ : ∃ image, resolveIn ⟨"/images"⟩ signedRelease = .ok image := ⟨_, rfl⟩
  have names : NamesFiles signedRelease ⟨"/images"⟩ := by
    refine ⟨by decide, fun url given _ => ?_, fun url given => ?_, fun _ _ => ?_⟩
    · decide
    · cases given
      decide
    · exact ⟨"debian12", by decide, rfl⟩
  refine ⟨image, resolved, ?_, ?_, (files_stay_in_directory resolved).2.2.2.mpr names⟩
  · cases resolved
    decide
  · cases resolved
    decide

def dottedImage : ImageDeclaration where
  name := "up"
  imageUrl := "https://example.org/images/.."

def strayImage : ImageDeclaration where
  name := "../lab"
  imageUrl := "https://example.org/lab.qcow2"
  checksumUrl := some "https://example.org/SUMS"
  checksumType := some "sha256"
  keyUrl := some "https://example.org/key.gpg"

/-- An image with a URL that ends in two dots and one with a name that leads upwards are accepted.
The place of the one and the keyring of the other are not files directly in the directory. -/
theorem files_out_of_directory :
    (∃ image, resolveIn ⟨"/images"⟩ dottedImage = .ok image ∧
      image.imagePath = ⟨"/images/.."⟩ ∧ image.imagePath ∈ image.written ∧
      ¬ image.imagePath.IsDirectlyIn ⟨"/images"⟩) ∧
    ∃ image, resolveIn ⟨"/images"⟩ strayImage = .ok image ∧
      image.keyringPath = ⟨"/images/../lab.keyring.gpg"⟩ ∧ image.keyringPath ∈ image.written ∧
      ¬ image.keyringPath.IsDirectlyIn ⟨"/images"⟩ := by
  constructor
  · obtain ⟨image, resolved⟩ : ∃ image, resolveIn ⟨"/images"⟩ dottedImage = .ok image := ⟨_, rfl⟩
    have placed : image.imagePath = ⟨"/images/.."⟩ := by
      cases resolved
      decide
    refine ⟨image, resolved, placed, List.mem_cons_self, fun lies => ?_⟩
    obtain ⟨name, isName, names⟩ := Path.names_of_isDirectlyIn lies
    rw [placed, show Path.names ⟨"/images/.."⟩ = Path.names ⟨"/images"⟩ ++ [".."] by decide] at names
    obtain rfl := List.singleton_inj.mp (List.append_cancel_left names)
    exact isName.2.2.1 rfl
  · obtain ⟨image, resolved⟩ : ∃ image, resolveIn ⟨"/images"⟩ strayImage = .ok image := ⟨_, rfl⟩
    have placed : image.keyringPath = ⟨"/images/../lab.keyring.gpg"⟩ := by
      cases resolved
      decide
    have written : image.keyringPath ∈ image.written := by
      cases resolved
      decide
    refine ⟨image, resolved, placed, written, fun lies => ?_⟩
    obtain ⟨name, _, names⟩ := Path.names_of_isDirectlyIn lies
    rw [placed, show Path.names ⟨"/images/../lab.keyring.gpg"⟩ =
      Path.names ⟨"/images"⟩ ++ ["..", "lab.keyring.gpg"] by decide] at names
    cases List.append_cancel_left names

end CloudImage

end VirtualLab
