import VirtualLab.Digest
import VirtualLab.Image.Basic
import VirtualLab.Script

/-!
# Acquiring images

Missing files of an image are downloaded, the signature of its checksum file is verified if it has
one, and the image is compared with the checksum. Each check that succeeds leaves a file beside
what it checked; downloaded files are never changed. A download is kept under another name until
it is complete.
-/

namespace VirtualLab

namespace Download

def partSuffix : String := ".part"

def appendAll (path : Path) : List Bytes → LabTask Unit
  | [] => return ()
  | chunk :: rest => do
    Attempt.orFail .file (← Attempt.ask (.appendFile path chunk))
    appendAll path rest

def received (chunks : List Bytes) : Nat := chunks.flatten.length

/-- Downloads a file. The destination appears only when the body has come to its end and has the
length that was announced. -/
def download (url : String) (destination : Path) : LabTask Unit := do
  let response ← Attempt.orFail (fun reason => .download url (.transport reason))
    (← Attempt.ask (.fetch url))
  if response.status < 200 ∨ 300 ≤ response.status then
    throw (.download url (.status response.status))
  let part := destination.withSuffix partSuffix
  Attempt.orFail .file (← Attempt.ask (.writeFile part []))
  appendAll part response.chunks
  if let some reason := response.interruption then
    throw (.download url (.transport reason))
  if let some announced := response.announced then
    if announced ≠ 0 ∧ announced ≠ received response.chunks then
      let _ ← Attempt.ask (.removeFile part)
      throw (.download url (.incomplete (received response.chunks) announced))
  Attempt.orFail .file (← Attempt.ask (.renameFile part destination))

end Download

namespace CloudImage

def signatureTool : String := "gpg"

def importArguments (keyring keyFile : Path) : List String :=
  ["--batch", "--no-default-keyring", "--keyring", keyring.text, "--import", keyFile.text]

def decryptArguments (keyring checksum output : Path) : List String :=
  ["--batch", "--no-default-keyring", "--keyring", keyring.text, "--yes", "--output", output.text,
    "--decrypt", checksum.text]

/-- The image is there and, if it has a checksum, has been verified. -/
def isTrusted (image : CloudImage) : Script Bool := do
  if ← Script.request (.isFile image.imagePath) then
    if image.checksumUrl.isNone then return true
    Script.request (.isFile image.markerPath)
  else return false

/-- The path of the image, if a disk may be backed by it. -/
def requireTrusted (image : CloudImage) : LabTask Path := do
  if !(← Attempt.ask (.isFile image.imagePath)) then
    throw (.image image.name (.notPresent image.imagePath))
  if !(← ExceptT.lift image.isTrusted) then
    throw (.image image.name .unverified)
  return image.imagePath

structure AcquireReport where
  downloaded : List Path := []
  signatureVerified : Bool := false
  checksumVerified : Bool := false
  alreadyVerified : Bool := false
  deriving DecidableEq, Repr, Inhabited

def source : Option String → Option Path → List (String × Path)
  | some url, some path => [(url, path)]
  | _, _ => []

def artifacts (image : CloudImage) : List (String × Path) :=
  (image.imageUrl, image.imagePath) ::
    (source image.checksumUrl image.checksumPath ++ source image.keyUrl image.keyPath)

def downloadMissing : List (String × Path) → LabTask (List Path)
  | [] => return []
  | (url, destination) :: rest => do
    if ← Attempt.ask (.pathExists destination) then downloadMissing rest
    else
      Download.download url destination
      return destination :: (← downloadMissing rest)

def runSignatureTool (image : CloudImage) (arguments : List String) : LabTask Unit := do
  let _ ← Attempt.orFail (fun failure => .image image.name (.signature failure))
    (← Attempt.ask (.runTool signatureTool arguments))

/-- Verifies the signature of the checksum file and writes what was signed beside it. Without a
checksum file or keys there is nothing to verify. -/
def verifySignature (image : CloudImage) : LabTask Unit := do
  match image.checksumPath, image.keyPath with
  | some checksum, some keyFile =>
    image.runSignatureTool (importArguments image.keyringPath keyFile)
    image.runSignatureTool
      (decryptArguments image.keyringPath checksum (checksum.withSuffix verifiedSuffix))
  | _, _ => return ()

/-- The checksum file to compare with: the copy whose signature was verified, if there is one. -/
def checksumSource (checksum : Path) : Script Path := do
  let verified := checksum.withSuffix verifiedSuffix
  if ← Script.request (.isFile verified) then return verified else return checksum

def expectedDigest (image : CloudImage) (source : Path) : LabTask String := do
  let content ← Attempt.orFail
    (fun cause => .image image.name (.checksumUnreadable source cause))
    (← ExceptT.lift (Script.readText source))
  match ChecksumEntry.digestOf (ChecksumEntry.ofText content) image.fileName with
  | some digest => return digest
  | none => throw (.image image.name (.notListed source image.fileName))

def fileDigest (path : Path) (algorithm : ChecksumAlgorithm) : LabTask String := do
  return algorithm.digest (← Attempt.orFail .file (← Attempt.ask (.readFile path)))

/-- Compares the image with its checksum. A match leaves a marker with the digest, a mismatch
removes the marker. -/
def verifyChecksum (image : CloudImage) : LabTask Unit := do
  let algorithm ← Attempt.orFail id image.algorithm
  if let some checksum := image.checksumPath then
    let source ← ExceptT.lift (checksumSource checksum)
    let expected ← image.expectedDigest source
    let actual ← fileDigest image.imagePath algorithm
    if actual ≠ expected then
      let _ ← Attempt.ask (.removeFile image.markerPath)
      throw (.image image.name (.digestMismatch expected actual))
    Attempt.orFail .file
      (← Attempt.ask (.writeFile image.markerPath (Bytes.ofText (actual ++ "\n"))))

def acquire (image : CloudImage) : LabTask AcquireReport := do
  Attempt.orFail .file (← Attempt.ask (.createDirectories image.directory))
  let downloaded ← downloadMissing image.artifacts
  if image.checksumUrl.isNone then return { downloaded }
  if (← Attempt.ask (.isFile image.markerPath)) && downloaded.isEmpty then
    return { alreadyVerified := true }
  if image.keyPath.isSome then image.verifySignature
  image.verifyChecksum
  return { downloaded, signatureVerified := image.keyPath.isSome, checksumVerified := true }

end CloudImage

end VirtualLab
