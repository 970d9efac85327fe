import VirtualLab.Path

/-!
# What can go wrong

Failures are kept as causes; the wording of each is in the `message` of its type and nowhere else.
-/

namespace VirtualLab

/-- Why an operation on a file failed. `other` holds a reason in the words of its source. -/
inductive FileError where
  | notFound
  | permissionDenied
  | alreadyExists
  | notDirectory
  | isDirectory
  | invalidArgument
  | nameTooLong
  | directoryNotEmpty
  | notUtf8
  | nulInName
  | other (text : String)
  deriving DecidableEq, Repr

namespace FileError

def message : FileError → String
  | notFound => "No such file or directory (os error 2)"
  | permissionDenied => "Permission denied (os error 13)"
  | alreadyExists => "File exists (os error 17)"
  | notDirectory => "Not a directory (os error 20)"
  | isDirectory => "Is a directory (os error 21)"
  | invalidArgument => "Invalid argument (os error 22)"
  | nameTooLong => "File name too long (os error 36)"
  | directoryNotEmpty => "Directory not empty (os error 39)"
  | notUtf8 => "stream did not contain valid UTF-8"
  | nulInName => "file name contained an unexpected NUL byte"
  | other text => text

end FileError

/-- Why a tool did not succeed: it could not be started, or it ended with a code other than zero. -/
inductive ToolFailure where
  | notStarted (tool : String) (cause : FileError)
  | failed (tool : String) (arguments : List String) (code : Int) (stderr : String)
  deriving DecidableEq, Repr

namespace ToolFailure

def tool : ToolFailure → String
  | notStarted tool _ => tool
  | failed tool _ _ _ => tool

def message : ToolFailure → String
  | notStarted tool cause => "Failed to launch " ++ tool ++ ": " ++ cause.message
  | failed tool arguments code stderr =>
    "`" ++ tool ++ " " ++ Text.joined " " arguments ++ "` exited with code " ++ toString code ++
      ": " ++ Text.trim stderr

/-- What the tool itself said, if it said anything; otherwise the whole message. -/
def reason (failure : ToolFailure) : String :=
  match failure with
  | failed _ _ _ stderr =>
    if Text.isBlankText stderr then failure.message else Text.trim stderr
  | notStarted _ _ => failure.message

end ToolFailure

inductive DiskFailure where
  | directory (path : Path) (cause : FileError)
  | tool (path : Path) (cause : ToolFailure)
  deriving DecidableEq, Repr

namespace DiskFailure

def message : DiskFailure → String
  | directory path cause =>
    "Failed to create disk directory " ++ path.text ++ ": " ++ cause.message
  | tool path cause => "Failed to create disk " ++ path.text ++ ": " ++ cause.message

end DiskFailure

inductive ConfigFault where
  | manifestMissing (path : Path)
  | manifestMalformed (path : Path) (reason : String)
  | noEnvironment
  | unnamedEnvironment
  | repeatedMachine (machine environment : String)
  | unnamedMachine
  | imageUrlWithoutName (image url : String)
  | checksumUrlWithoutName (image url : String)
  | imageNetworkVersion (image : String) (version : Nat)
  | unsupportedAlgorithm (value : String)
  | checksumTypeMissing (image : String)
  | undeclaredImage (machine image : String)
  | keyNeitherLineNorPath (value : String)
  | keyUnreadable (path : Path) (cause : FileError)
  | keyFileWithoutKey (path : Path)
  | networkVersion (version : Nat)
  | stated (text : String)
  deriving DecidableEq, Repr

namespace ConfigFault

def message : ConfigFault → String
  | manifestMissing path => "Manifest not found: " ++ path.text
  | manifestMalformed path reason => "Failed to parse " ++ path.text ++ ": " ++ reason
  | noEnvironment => "Manifest declares no environment"
  | unnamedEnvironment => "Environment has no name"
  | repeatedMachine machine environment =>
    "Machine " ++ machine ++ " is declared more than once in environment " ++ environment
  | unnamedMachine => "Machine declared without vm_name"
  | imageUrlWithoutName image url =>
    "Image " ++ image ++ " has no file name in its URL: " ++ url
  | checksumUrlWithoutName image url =>
    "Image " ++ image ++ " has no file name in its checksum URL: " ++ url
  | imageNetworkVersion image version =>
    "Image " ++ image ++ " has unsupported network_version " ++ toString version
  | unsupportedAlgorithm value => "Unsupported checksum algorithm " ++ value
  | checksumTypeMissing image =>
    "Image " ++ image ++ " sets checksum_url without checksum_type"
  | undeclaredImage machine image =>
    "Machine " ++ machine ++ " uses image " ++ image ++ " which is not declared"
  | keyNeitherLineNorPath value =>
    "pubkey is neither an SSH public key nor a path: " ++ value
  | keyUnreadable path cause =>
    "Failed to read pubkey " ++ path.text ++ ": " ++ cause.message
  | keyFileWithoutKey path => path.text ++ " does not contain an SSH public key"
  | networkVersion version =>
    "Unsupported network-config version " ++ toString version
  | stated text => text

end ConfigFault

inductive HypervisorFault where
  | tool (failure : ToolFailure)
  | noStateReported
  | stillActive (status : String)
  | snapshotsLeft (snapshots : List String)
  | stated (text : String)
  deriving DecidableEq, Repr

namespace HypervisorFault

def message : HypervisorFault → String
  | tool failure => failure.reason
  | noStateReported => "no state reported"
  | stillActive status => "domain is still " ++ status ++ " after forced stop"
  | snapshotsLeft snapshots => "could not delete snapshot(s) " ++ Text.joined ", " snapshots
  | stated text => text

end HypervisorFault

inductive ImageFault where
  | notPresent (path : Path)
  | unverified
  | signature (failure : ToolFailure)
  | checksumUnreadable (path : Path) (cause : FileError)
  | notListed (path : Path) (file : String)
  | digestMismatch (expected actual : String)
  | stated (text : String)
  deriving DecidableEq, Repr

namespace ImageFault

def message : ImageFault → String
  | notPresent path => "not present at " ++ path.text ++ "; run `lvlab init` first"
  | unverified => "checksum has not been verified; run `lvlab init` first"
  | signature failure => "signature verification failed: " ++ failure.message
  | checksumUnreadable path cause =>
    "cannot read checksum file " ++ path.text ++ ": " ++ cause.message
  | notListed path file => path.text ++ " lists no checksum for " ++ file
  | digestMismatch expected actual =>
    "checksum mismatch: expected " ++ expected ++ ", got " ++ actual
  | stated text => text

end ImageFault

inductive DownloadFault where
  | transport (reason : String)
  | status (code : Nat)
  | incomplete (received announced : Nat)
  | stated (code : Nat) (text : String)
  deriving DecidableEq, Repr

namespace DownloadFault

/-- The status the server answered; zero where it answered none that counts. -/
def statusCode : DownloadFault → Nat
  | status code => code
  | stated code _ => code
  | transport _ | incomplete _ _ => 0

def message : DownloadFault → String
  | transport reason => reason
  | status _ => "Download failed"
  | incomplete received announced =>
    "received " ++ toString received ++ " of " ++ toString announced ++ " bytes"
  | stated _ text => text

end DownloadFault

inductive LabError where
  | config (fault : ConfigFault)
  | machineNotFound (name : String)
  | connection (uri reason : String)
  | hypervisor (operation domain : String) (fault : HypervisorFault)
  | notDeployed (machine : String)
  | snapshotNotFound (domain snapshot : String)
  | disk (failure : DiskFailure)
  | disksFailed (machine : String) (total : Nat) (failures : List DiskFailure)
  | staging (path : Path) (cause : FileError)
  | tool (failure : ToolFailure)
  | image (name : String) (fault : ImageFault)
  | download (url : String) (fault : DownloadFault)
  | file (cause : FileError)
  | malformed (reason : String)
  deriving DecidableEq, Repr

namespace LabError

def message : LabError → String
  | config fault => "Configuration error: " ++ fault.message
  | machineNotFound name => "Machine not found in manifest: " ++ name
  | connection uri reason => "Failed to connect to hypervisor " ++ uri ++ ": " ++ reason
  | hypervisor operation domain fault =>
    "Hypervisor " ++ operation ++ " failed for " ++ domain ++ ": " ++ fault.message
  | notDeployed machine => "Machine " ++ machine ++ " is not deployed"
  | snapshotNotFound domain snapshot => "Snapshot " ++ snapshot ++ " not found for " ++ domain
  | disk failure => "Disk error: " ++ failure.message
  | disksFailed machine total failures =>
    "Disk creation failed for " ++ machine ++ ": " ++ toString failures.length ++ " of " ++
      toString total ++ " disk(s) failed"
  | staging path cause => "Staging error: " ++ path.text ++ ": " ++ cause.message
  | tool failure => "Process error: " ++ failure.message
  | image name fault => "Image error: " ++ name ++ ": " ++ fault.message
  | download url fault =>
    "Download failed: " ++ url ++ " -> " ++ toString fault.statusCode ++ ": " ++ fault.message
  | file cause => "I/O error: " ++ cause.message
  | malformed reason => "Serialization error: " ++ reason

end LabError

end VirtualLab
