import VirtualLab.Bytes
import VirtualLab.Error

/-!
# File systems

A tree of directories and files, and the operations on it with the failures they end in. A path is
followed name by name: every name but the last has to be that of a directory that is there.
-/

namespace VirtualLab

abbrev Location := List String

inductive Entry where
  | directory
  | file (content : Bytes)
  deriving DecidableEq, Repr, Inhabited

/-- Directories and files by location, and the directory that relative paths start from. The root
is a directory without being listed. -/
structure FileSystem where
  entries : List (Location × Entry) := []
  workingDirectory : Location := []
  deriving DecidableEq, Repr, Inhabited

namespace FileSystem

/-! ## Locations -/

def get? (files : FileSystem) (location : Location) : Option Entry :=
  if location = [] then some .directory else files.entries.lookup location

def erase (files : FileSystem) (location : Location) : FileSystem :=
  { files with entries := files.entries.filter (·.1 != location) }

def put (files : FileSystem) (location : Location) (entry : Entry) : FileSystem :=
  { files with entries := (location, entry) :: (files.erase location).entries }

def isOccupied (files : FileSystem) (location : Location) : Bool :=
  files.entries.any fun entry => entry.1.length == location.length + 1 && location.isPrefixOf entry.1

def below (files : FileSystem) (location : Location) : List (Location × Entry) :=
  files.entries.filterMap fun entry =>
    if location.isPrefixOf entry.1 then some (entry.1.drop location.length, entry.2) else none

def eraseTree (files : FileSystem) (location : Location) : FileSystem :=
  { files with entries := files.entries.filter fun entry => !location.isPrefixOf entry.1 }

/-! ## Following paths

Names and paths are bounded in bytes. Every name but the last has to lead to a directory that is
there; a path that ends in a slash or a dot can only mean a directory.
-/

def nameLimit : Nat := 255

def pathLimit : Nat := 4095

/-- Follows names from a location. Nothing need be where the last one leads. -/
def follow (files : FileSystem) : Location → List String → Except FileError Location
  | here, [] => .ok here
  | here, name :: rest =>
    match files.get? here with
    | none => .error .notFound
    | some (.file _) => .error .notDirectory
    | some .directory =>
      if name = ".." then files.follow here.dropLast rest
      else if nameLimit < name.utf8ByteSize then .error .nameTooLong
      else files.follow (here ++ [name]) rest

def locate (files : FileSystem) (path : Path) : Except FileError Location :=
  if path.text.isEmpty then .error .notFound
  else if path.text.toList.contains '\x00' then .error .nulInName
  else if pathLimit < path.text.utf8ByteSize then .error .nameTooLong
  else files.follow (if path.isAbsolute then [] else files.workingDirectory) path.names

/-- The last segment of a path names nothing, so that the path can only mean a directory. -/
def meansDirectory (path : Path) : Bool :=
  (Path.segments path.text.toList).getLast?.any Path.isTrivial

def find (files : FileSystem) (path : Path) : Except FileError (Location × Entry) := do
  let location ← files.locate path
  match files.get? location with
  | none => throw .notFound
  | some .directory => return (location, .directory)
  | some (.file content) =>
    if meansDirectory path then throw .notDirectory else return (location, .file content)

/-! ## Operations

An operation that fails changes nothing, except that directories that were made on the way to one
stay.
-/

def pathExists (files : FileSystem) (path : Path) : Bool := (files.find path).isOk

def isFile (files : FileSystem) (path : Path) : Bool :=
  match files.find path with
  | .ok (_, .file _) => true
  | _ => false

def isDirectory (files : FileSystem) (path : Path) : Bool :=
  match files.find path with
  | .ok (_, .directory) => true
  | _ => false

def endsInDot (path : Path) : Bool :=
  ((Path.segments path.text.toList).filter (!·.isEmpty)).getLast? == some ['.']

def makeDirectory (files : FileSystem) (path : Path) : Except FileError FileSystem := do
  let location ← files.locate path
  match files.get? location with
  | some _ => throw .alreadyExists
  | none => if endsInDot path then throw .notFound else return files.put location .directory

/-- Makes a directory and, where it is in none that is there, first the one it is in. A directory
that is there already is as good as made. The number bounds the directories to be made. -/
def createDirectoriesWithin :
    (bound : Nat) → (path : Path) → (files : FileSystem) → Except FileError Unit × FileSystem
  | 0, _, files => (.error .notFound, files)
  | bound + 1, path, files =>
    if path.text.isEmpty then (.ok (), files)
    else
      match files.makeDirectory path, path.parent with
      | .ok made, _ => (.ok (), made)
      | .error .notFound, some directory =>
        match createDirectoriesWithin bound directory files with
        | (.error cause, files) => (.error cause, files)
        | (.ok (), files) => makeOrKeep path files
      | .error _, _ => makeOrKeep path files
where
  makeOrKeep (path : Path) (files : FileSystem) : Except FileError Unit × FileSystem :=
    match files.makeDirectory path with
    | .ok made => (.ok (), made)
    | .error cause => (if files.isDirectory path then .ok () else .error cause, files)

/-- Makes a directory and those above it, as far as they are missing. What was made stays also if
the rest fails. -/
def createDirectories (files : FileSystem) (path : Path) : Except FileError Unit × FileSystem :=
  createDirectoriesWithin (path.text.length + 1) path files

def read (files : FileSystem) (path : Path) : Except FileError Bytes := do
  match ← files.find path with
  | (_, .file content) => return content
  | (_, .directory) => throw .isDirectory

def modifyFile (files : FileSystem) (path : Path) (change : Bytes → Bytes) :
    Except FileError FileSystem := do
  let location ← files.locate path
  match files.get? location with
  | some .directory => throw .isDirectory
  | some (.file content) =>
    if meansDirectory path then throw .isDirectory
    else return files.put location (.file (change content))
  | none =>
    if meansDirectory path then throw .isDirectory
    else return files.put location (.file (change []))

def write (files : FileSystem) (path : Path) (content : Bytes) : Except FileError FileSystem :=
  files.modifyFile path fun _ => content

def append (files : FileSystem) (path : Path) (content : Bytes) : Except FileError FileSystem :=
  files.modifyFile path (· ++ content)

/-- Moves a file, in place of the file that the target names. -/
def rename (files : FileSystem) (source target : Path) : Except FileError FileSystem := do
  let content ← files.read source
  let origin ← files.locate source
  (files.erase origin).write target content

def removeFile (files : FileSystem) (path : Path) : Except FileError FileSystem := do
  match ← files.find path with
  | (location, .file _) => return files.erase location
  | (_, .directory) => throw .isDirectory

/-- Removes a directory that is empty. The last name of its path has to be its own. -/
def removeDirectory (files : FileSystem) (path : Path) : Except FileError FileSystem := do
  match ← files.find path with
  | (_, .file _) => throw .notDirectory
  | (location, .directory) =>
    if endsInDot path then throw .invalidArgument
    else if files.isOccupied location || path.names.getLast? = some ".." then
      throw .directoryNotEmpty
    else return files.erase location

end FileSystem

end VirtualLab
