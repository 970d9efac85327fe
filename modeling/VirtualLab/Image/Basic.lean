import VirtualLab.Environment
import VirtualLab.Image.Checksum

/-!
# Cloud images

A declared image with the local files that belong to it. All of them lie in one directory and take
their names from the last part of a URL. Debian releases publish checksum files of one name, so
the release is appended to it.
-/

namespace VirtualLab

/-- The last part of a URL's path, without query and fragment; none if it is empty. -/
def fileNameOfUrl (url : String) : Option String :=
  let path := Text.before '?' (Text.before '#' url.toList)
  let afterScheme := ((Text.splitFirst "://".toList path).map (·.2)).getD path
  ((Text.afterLast '/' afterScheme).filter fun file => !file.isEmpty).map String.ofList

/-- The release number in a Debian image's file name: the digits after the first `debian-`. -/
def debianRelease (file : String) : Option String := do
  let (_, rest) ← Text.splitFirst "debian-".toList (Text.lower file.toList)
  let release := rest.takeWhile Char.isDigit
  if release.isEmpty then none else some (String.ofList release)

structure CloudImage where
  name : String
  imageUrl : String
  checksumUrl : Option String
  checksumType : Option String
  keyUrl : Option String
  networkVersion : Nat
  osVariant : String
  directory : Path
  imagePath : Path
  checksumPath : Option Path
  keyPath : Option Path
  deriving DecidableEq, Repr, Inhabited

namespace CloudImage

def defaultNetworkVersion : Nat := 1

def verifiedSuffix : String := ".verified"

def checksumFileName (imageFile checksumFile : String) : String :=
  match debianRelease imageFile with
  | some release => checksumFile ++ ".debian" ++ release
  | none => checksumFile

/-- Where the checksum file of an image is kept; none where the image has no checksum. -/
def checksumPathIn (directory : Path) (declaration : ImageDeclaration) (imageFile : String) :
    Except LabError (Option Path) :=
  match declaration.checksumUrl with
  | none => .ok none
  | some url =>
    match fileNameOfUrl url with
    | none => .error (.config (.checksumUrlWithoutName declaration.name url))
    | some file => .ok (some (directory.join (checksumFileName imageFile file)))

def resolveIn (directory : Path) (declaration : ImageDeclaration) : Except LabError CloudImage :=
  match fileNameOfUrl declaration.imageUrl with
  | none => .error (.config (.imageUrlWithoutName declaration.name declaration.imageUrl))
  | some file => do
    let checksumPath ← checksumPathIn directory declaration file
    let networkVersion := declaration.networkVersion.getD defaultNetworkVersion
    if networkVersion = 1 ∨ networkVersion = 2 then
      .ok {
        name := declaration.name
        imageUrl := declaration.imageUrl
        checksumUrl := declaration.checksumUrl
        checksumType := declaration.checksumType
        keyUrl := declaration.keyUrl
        networkVersion
        osVariant := declaration.osVariant.getD declaration.name
        directory
        imagePath := directory.join file
        checksumPath
        keyPath := (declaration.keyUrl.bind fileNameOfUrl).map directory.join
      }
    else .error (.config (.imageNetworkVersion declaration.name networkVersion))

def resolve (environment : Environment) (declaration : ImageDeclaration) :
    Except LabError CloudImage :=
  resolveIn environment.imageDirectory declaration

def algorithm (image : CloudImage) : Except LabError ChecksumAlgorithm :=
  match image.checksumType with
  | some value => ChecksumAlgorithm.parse value
  | none => .error (.config (.checksumTypeMissing image.name))

def markerPath (image : CloudImage) : Path := image.imagePath.withSuffix verifiedSuffix

def verifiedChecksumPath (image : CloudImage) : Option Path :=
  image.checksumPath.map (·.withSuffix verifiedSuffix)

def keyringPath (image : CloudImage) : Path :=
  image.directory.join (image.name ++ ".keyring.gpg")

def fileName (image : CloudImage) : String := image.imagePath.fileName.getD ""

end CloudImage

end VirtualLab
