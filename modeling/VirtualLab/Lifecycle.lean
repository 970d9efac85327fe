import VirtualLab.BootConfig.Bundle
import VirtualLab.Disk
import VirtualLab.Hosts
import VirtualLab.Hypervisor.Virsh
import VirtualLab.Image.Acquisition
import VirtualLab.Install

/-!
# The life of a machine

Operations that bring a declared machine and its domain together. Each decides by a state that it
has just read, every step ends before the next begins, and nothing is rolled back: what a failed
creation leaves is taken up by the next creation or removed with the machine.
-/

namespace VirtualLab

structure Lab where
  home : Option Path
  environment : Environment
  images : List ImageDeclaration
  uri : String
  hostsCommands : List String
  deriving Repr, Inhabited

inductive UpOutcome where
  | alreadyRunning
  | started (status : DomainStatus)
  | transitional (status : DomainStatus)
  | deployed
  deriving DecidableEq, Repr

inductive DownOutcome where
  | shutdownRequested
  | notRunning (status : DomainStatus)
  | notDeployed
  deriving DecidableEq, Repr

inductive DestroyOutcome where
  | notDeployed
  | destroyed (snapshotsDeleted : Nat) (directoryRemoved : Bool)
  deriving DecidableEq, Repr

/-- A declared machine as the hypervisor knows it. A machine that is not deployed has no state. -/
structure MachineStatus where
  vmName : String
  hostname : String
  state : Option DomainState
  reason : Option String
  deriving DecidableEq, Repr, Inhabited

namespace MachineStatus

def isDeployed (status : MachineStatus) : Bool := status.state.isSome

def ofLookup (machine : Machine) (found : Option DomainStatus) : MachineStatus where
  vmName := machine.vmName
  hostname := machine.hostname
  state := found.map (·.state)
  reason := found.map (·.reason)

end MachineStatus

namespace Lab

def imageFor (lab : Lab) (machine : Machine) : Except LabError CloudImage :=
  match lab.images.find? (·.name == machine.os) with
  | some declaration => CloudImage.resolve lab.environment declaration
  | none => .error (.config (.undeclaredImage machine.vmName machine.os))

/-- The first disk is backed by the image; the others begin blank. -/
def backingFor (image : Path) (disk : VirtualDisk) : Option Path :=
  if disk.index = 0 then some image else none

/-- Creates the disks of a machine. Every disk is attempted, also after a failure. -/
def createDisks (machine : Machine) (image : Path) : LabTask Unit := do
  let disks := VirtualDisk.ofMachine machine
  let failures ← ExceptT.lift (VirtualDisk.createAll (backingFor image) disks)
  if !failures.isEmpty then
    throw (.disksFailed machine.vmName disks.length failures)

def deploy (lab : Lab) (machine : Machine) : LabTask Unit := do
  let image ← Attempt.orFail id (lab.imageFor machine)
  let backing ← image.requireTrusted
  createDisks machine backing
  let bundle := BootConfig.Bundle.inDirectory machine.workDirectory
  let documents ← BootConfig.Documents.render lab.home machine image.networkVersion
    lab.hostsCommands
  bundle.stage documents
  Attempt.mapError .tool bundle.package
  let request := InstallRequest.ofMachine lab.uri machine
    ((VirtualDisk.ofMachine machine).map (·.path)) bundle.medium image.osVariant
    lab.environment.mounts
  Attempt.mapError .tool request.install

def require (domain : String) : LabTask DomainStatus := do
  match ← Hypervisor.lookup domain with
  | some status => return status
  | none => throw (.notDeployed domain)

def up (lab : Lab) (machine : Machine) : LabTask UpOutcome := do
  match ← Hypervisor.lookup machine.vmName with
  | none =>
    lab.deploy machine
    return .deployed
  | some status =>
    match status.state with
    | .running => return .alreadyRunning
    | .shutOff | .crashed =>
      Hypervisor.perform (.start machine.vmName)
      return .started (← require machine.vmName)
    | _ => return .transitional status

def down (machine : Machine) : LabTask DownOutcome := do
  match ← Hypervisor.lookup machine.vmName with
  | none => return .notDeployed
  | some status =>
    if status.state.acceptsShutdown then
      Hypervisor.perform (.shutdown machine.vmName)
      return .shutdownRequested
    else return .notRunning status

def forceOff (domain : String) : LabTask Unit := do
  Hypervisor.perform (.stop domain)
  let status ← require domain
  if status.state.isActive then
    throw (.hypervisor "destroy" domain (.stillActive status.message))

/-- Deletes the snapshots of a domain and answers which of them are left. Every snapshot is
attempted, also after a failure. -/
def deleteSnapshots (domain : String) : List String → LabTask (List String)
  | [] => return []
  | snapshot :: rest => do
    let deleted ← (Hypervisor.perform (.deleteSnapshot domain snapshot)).outcome
    let left ← deleteSnapshots domain rest
    match deleted with
    | .ok () => return left
    | .error _ => return snapshot :: left

/-- Removes the files of a machine and then its directory, and answers whether the directory is
gone. A directory that still holds other files stays. -/
def removeFiles (machine : Machine) : Script Bool := do
  VirtualDisk.deleteAll (VirtualDisk.ofMachine machine)
  (BootConfig.Bundle.inDirectory machine.workDirectory).delete
  match ← Script.request (.removeDirectory machine.workDirectory) with
  | .ok () => return true
  | .error cause => return decide (cause = .notFound)

/-- Removes a machine: forces it off, deletes its snapshots and its domain, and then its files. -/
def destroy (machine : Machine) : LabTask DestroyOutcome := do
  match ← Hypervisor.lookup machine.vmName with
  | none => return .notDeployed
  | some status =>
    if status.state.isActive then forceOff machine.vmName
    let snapshots ← Hypervisor.perform (.snapshots machine.vmName)
    let left ← deleteSnapshots machine.vmName snapshots
    if !left.isEmpty then
      throw (.hypervisor "snapshot-delete" machine.vmName (.snapshotsLeft left))
    Hypervisor.perform (.undefine machine.vmName)
    return .destroyed snapshots.length (← ExceptT.lift (removeFiles machine))

def defaultDescription (domain time : String) : String :=
  "Snapshot of " ++ domain ++ " taken " ++ time

def createSnapshot (machine : Machine) (snapshot : String) (description : Option String) :
    LabTask Unit := do
  let _ ← require machine.vmName
  let description ←
    match description with
    | some description => pure description
    | none => do pure (defaultDescription machine.vmName (← Attempt.ask .currentTime))
  Hypervisor.perform (.createSnapshot machine.vmName snapshot description)

def listSnapshots (machine : Machine) : LabTask (List String) := do
  let _ ← require machine.vmName
  Hypervisor.perform (.snapshots machine.vmName)

def deleteSnapshot (machine : Machine) (snapshot : String) : LabTask Unit := do
  let _ ← require machine.vmName
  if snapshot ∈ (← Hypervisor.perform (.snapshots machine.vmName)) then
    Hypervisor.perform (.deleteSnapshot machine.vmName snapshot)
  else throw (.snapshotNotFound machine.vmName snapshot)

def status : List Machine → LabTask (List MachineStatus)
  | [] => return []
  | machine :: rest => do
    let found ← Hypervisor.lookup machine.vmName
    return MachineStatus.ofLookup machine found :: (← Lab.status rest)

end Lab

end VirtualLab
