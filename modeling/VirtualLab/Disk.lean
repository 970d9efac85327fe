import VirtualLab.Machine
import VirtualLab.Script

/-!
# Disks

Each disk of a machine is a file in the machine's directory, named by its position. A disk may be
backed by an image, of which it then holds only the changes.
-/

namespace VirtualLab

structure VirtualDisk where
  name : String
  index : Nat
  size : String
  path : Path
  deriving DecidableEq, Repr, Inhabited

namespace VirtualDisk

def creationTool : String := "qemu-img"

def pathAt (directory : Path) (index : Nat) : Path :=
  directory.join ("disk" ++ toString index ++ ".qcow2")

def ofMachine (machine : Machine) : List VirtualDisk :=
  machine.disks.mapIdx fun index disk =>
    { name := disk.name, index, size := disk.size, path := pathAt machine.workDirectory index }

def creationArguments (disk : VirtualDisk) (backing : Option Path) : List String :=
  ["create", "-f", "qcow2"] ++
    (match backing with
      | some image => ["-b", image.text, "-F", "qcow2"]
      | none => []) ++
    [disk.path.text, disk.size]

/-- Creates the disk unless a file is in its place already. -/
def create (disk : VirtualDisk) (backing : Option Path) : Attempt DiskFailure Unit := do
  if ← Attempt.ask (.pathExists disk.path) then return
  if let some directory := disk.path.parent then
    Attempt.orFail (.directory directory) (← Attempt.ask (.createDirectories directory))
  let _ ← Attempt.orFail (.tool disk.path)
    (← Attempt.ask (.runTool creationTool (disk.creationArguments backing)))

/-- Removes the disk if it is there. A disk that cannot be removed stays. -/
def delete (disk : VirtualDisk) : Script Unit := do
  if ← Script.request (.pathExists disk.path) then
    let _ ← Script.request (.removeFile disk.path)

/-- Creates every disk, each with its backing, and collects the failures in order. -/
def createAll (backing : VirtualDisk → Option Path) : List VirtualDisk → Script (List DiskFailure)
  | [] => return []
  | disk :: rest => do
    let created ← (disk.create (backing disk)).run
    let failures ← createAll backing rest
    match created with
    | .ok () => return failures
    | .error failure => return failure :: failures

def deleteAll : List VirtualDisk → Script Unit
  | [] => return ()
  | disk :: rest => do
    disk.delete
    deleteAll rest

end VirtualDisk

end VirtualLab
