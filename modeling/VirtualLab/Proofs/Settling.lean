import VirtualLab.Machine

/-!
# Settled machines

A named declaration settles to one machine of its environment. A machine that is written back as a
declaration, with everything declared but what it does without, settles to the same machine: no
default stands ready where a first settling found none.
-/

namespace VirtualLab

/-! ## Declarations laid over shared ones -/

theorem InterfaceDeclaration.overlay_overlay (shared declared : InterfaceDeclaration) :
    shared.overlay (shared.overlay declared) = shared.overlay declared := by
  simp only [overlay, Option.or_assoc, Option.or_self]

theorem CloudInitDeclaration.overlay_overlay (shared declared : CloudInitDeclaration) :
    shared.overlay (shared.overlay declared) = shared.overlay declared := by
  simp only [overlay, Option.or_assoc, Option.or_self]

theorem CloudInitDeclaration.overlay_empty (shared : CloudInitDeclaration) :
    shared.overlay {} = shared := by
  simp only [overlay, Option.none_or]

/-! ## Settled values declared -/

def NetworkInterface.inFull (interface : NetworkInterface) : InterfaceDeclaration :=
  match interface.addressing with
  | .dhcp => { name := some interface.name, network := some interface.network }
  | .static address gateway nameservers search => {
      name := some interface.name
      network := some interface.network
      address := some address
      gateway
      nameservers := some { addresses := nameservers, search } }

def DiskSpec.inFull (disk : DiskSpec) : DiskDeclaration where
  name := disk.name
  size := some disk.size

def CloudInit.inFull (setUp : CloudInit) : CloudInitDeclaration where
  user := some setUp.user
  pubkey := setUp.pubkey
  timezone := setUp.timezone
  packages := some setUp.packages
  runcmd := some setUp.runcmd

namespace Machine

def inFull (machine : Machine) : MachineDeclaration where
  vmName := some machine.vmName
  hostname := some machine.hostname
  fqdn := some machine.fqdn
  os := some machine.os
  cpu := some machine.cpus
  memory := some machine.memoryMib
  interfaces := machine.interfaces.map (·.inFull)
  disks := machine.disks.map (·.inFull)
  cloudInit := some machine.cloudInit.inFull

/-- An interface that has taken what the shared one gives settles again to itself, at any
position. -/
theorem resolveInterface_inFull {shared merged : InterfaceDeclaration}
    (taken : shared.overlay merged = merged) (index position : Nat) :
    resolveInterface position (shared.overlay (resolveInterface index merged).inFull) =
      resolveInterface index merged := by
  have address : merged.address.or shared.address = merged.address :=
    congrArg (·.address) taken
  have gateway : merged.gateway.or shared.gateway = merged.gateway :=
    congrArg (·.gateway) taken
  cases given : merged.address with
  | none =>
    -- No shared address is left that could make the interface static.
    have unshared : shared.address = none := by simpa [given] using address
    simp [resolveInterface, NetworkInterface.inFull, InterfaceDeclaration.overlay, given, unshared]
  | some address =>
    simp [resolveInterface, NetworkInterface.inFull, InterfaceDeclaration.overlay, given, gateway]

theorem resolveDisk_inFull (defaults : List DiskDeclaration) (disk : DiskSpec) :
    resolveDisk defaults disk.inFull = disk := rfl

theorem resolveDisks_ne_nil (defaults declared : List DiskDeclaration) :
    resolveDisks defaults declared ≠ [] := by
  cases declared <;> cases defaults <;> simp [resolveDisks]

theorem resolveDisks_inFull {disks : List DiskSpec} (some : disks ≠ [])
    (defaults : List DiskDeclaration) : resolveDisks defaults (disks.map (·.inFull)) = disks := by
  have declared : (!(disks.map (·.inFull)).isEmpty) = true := by simpa using some
  rw [resolveDisks, if_pos declared, List.map_map]
  exact (List.map_congr_left fun disk _ => resolveDisk_inFull defaults disk).trans
    (List.map_id disks)

theorem resolveCloudInit_inFull {shared merged : CloudInitDeclaration}
    (taken : shared.overlay merged = merged) :
    resolveCloudInit (shared.overlay (resolveCloudInit merged).inFull) =
      resolveCloudInit merged := by
  have pubkey : merged.pubkey.or shared.pubkey = merged.pubkey := congrArg (·.pubkey) taken
  have timezone : merged.timezone.or shared.timezone = merged.timezone :=
    congrArg (·.timezone) taken
  simp [resolveCloudInit, CloudInit.inFull, CloudInitDeclaration.overlay, pubkey, timezone]

/-! ## Settling again -/

/-- The machine of this name that a declaration settles to. Without a set-up of its own a machine is
set up as one that declares an empty one. -/
def settle (environment : Environment) (declaration : MachineDeclaration) (vmName : String) :
    Machine where
  vmName
  hostname := declaration.hostname.getD vmName
  fqdn := resolveFqdn declaration.fqdn environment.domain (declaration.hostname.getD vmName)
  os := (declaration.os.or environment.defaults.os).getD defaultOs
  cpus := (declaration.cpu.or environment.defaults.cpu).getD defaultCpus
  memoryMib := (declaration.memory.or environment.defaults.memory).getD defaultMemoryMib
  interfaces := declaration.interfaces.mapIdx fun index interface =>
    resolveInterface index (environment.defaults.interfaces.overlay interface)
  disks := resolveDisks environment.defaults.disks declaration.disks
  cloudInit := resolveCloudInit
    (environment.defaults.cloudInit.overlay (declaration.cloudInit.getD {}))
  workDirectory := environment.workDirectory vmName

theorem resolve_eq_settle (environment : Environment) (declaration : MachineDeclaration) :
    resolve environment declaration =
      match declaration.vmName.filter fun name => !Text.isBlankText name with
      | none => .error (.config .unnamedMachine)
      | some vmName => .ok (settle environment declaration vmName) := by
  unfold resolve
  cases declaration.vmName.filter fun name => !Text.isBlankText name with
  | none => rfl
  | some vmName =>
    unfold settle
    cases declaration.cloudInit with
    | none => rw [Option.getD_none, CloudInitDeclaration.overlay_empty]
    | some => rfl

theorem resolve_eq_ok_iff {environment : Environment} {declaration : MachineDeclaration}
    {machine : Machine} :
    resolve environment declaration = .ok machine ↔
      ∃ vmName, declaration.vmName = some vmName ∧ Text.isBlankText vmName = false ∧
        machine = settle environment declaration vmName := by
  rw [resolve_eq_settle]
  constructor
  · intro resolved
    split at resolved
    · cases resolved
    · rename_i vmName given
      obtain ⟨declared, named⟩ := Option.filter_eq_some_iff.mp given
      exact ⟨vmName, declared, by simpa using named, (Except.ok.inj resolved).symm⟩
  · rintro ⟨vmName, declared, named, rfl⟩
    have given : declaration.vmName.filter (fun name => !Text.isBlankText name) = some vmName :=
      Option.filter_eq_some_iff.mpr ⟨declared, by simp [named]⟩
    rw [given]

theorem settle_inFull (environment : Environment) (declaration : MachineDeclaration)
    (vmName : String) :
    settle environment (settle environment declaration vmName).inFull vmName =
      settle environment declaration vmName := by
  let machine := settle environment declaration vmName
  have interfaces : (machine.inFull.interfaces.mapIdx fun index interface =>
      resolveInterface index (environment.defaults.interfaces.overlay interface)) =
        machine.interfaces := by
    refine List.ext_getElem (by simp [machine, inFull]) fun index _ _ => ?_
    simp only [machine, settle, inFull, List.getElem_mapIdx, List.getElem_map]
    exact resolveInterface_inFull (InterfaceDeclaration.overlay_overlay _ _) _ _
  have disks : resolveDisks environment.defaults.disks machine.inFull.disks = machine.disks :=
    resolveDisks_inFull (resolveDisks_ne_nil _ _) _
  have cloudInit : resolveCloudInit
      (environment.defaults.cloudInit.overlay machine.cloudInit.inFull) = machine.cloudInit :=
    resolveCloudInit_inFull (CloudInitDeclaration.overlay_overlay _ _)
  unfold settle
  rw [mk.injEq]
  exact ⟨rfl, rfl, rfl, rfl, rfl, rfl, interfaces, disks, cloudInit, rfl⟩

/-- A machine declared in full settles to itself. -/
theorem resolve_inFull {environment : Environment} {declaration : MachineDeclaration}
    {machine : Machine} (resolved : resolve environment declaration = .ok machine) :
    resolve environment machine.inFull = .ok machine := by
  obtain ⟨vmName, _, named, rfl⟩ := resolve_eq_ok_iff.mp resolved
  exact resolve_eq_ok_iff.mpr
    ⟨vmName, rfl, named, (settle_inFull environment declaration vmName).symm⟩

/-! ### A machine that takes from every layer -/

def stockedEnvironment : Environment where
  name := "lab"
  uri := Environment.defaultUri
  domain := some "lab.local"
  defaults := {
    domain := some "lab.local"
    memory := some 2048
    interfaces := {
      network := some "labnet", gateway := some "10.0.0.1"
      nameservers := some { addresses := ["10.0.0.1"], search := ["lab.local"] } }
    disks := [{ name := "root", size := some "20G" }]
    cloudInit := { user := some "ops", packages := some ["vim"], runcmd := some ["uptime"] } }
  diskImageDirectory := ⟨"/disks"⟩
  cloudImageDirectory := ⟨Environment.defaultDirectory⟩

def layeredMachine : MachineDeclaration where
  vmName := some "web"
  cpu := some 2
  interfaces := [{ address := some "10.0.0.11/24" }, { network := some "storage" }]
  disks := [{ name := "root" }, { name := "data", size := some "50G" }, { name := "scratch" }]
  cloudInit := some { packages := some [], timezone := some "UTC" }

theorem layered_machine_in_full :
    ∃ machine, resolve stockedEnvironment layeredMachine = .ok machine ∧
      machine.interfaces = [
        ⟨"eth0", "labnet",
          .static "10.0.0.11/24" (some "10.0.0.1") ["10.0.0.1"] ["lab.local"]⟩,
        ⟨"eth1", "storage", .dhcp⟩] ∧
      machine.disks = [⟨"root", "20G"⟩, ⟨"data", "50G"⟩, ⟨"scratch", "15G"⟩] ∧
      machine.cloudInit = ⟨"ops", none, some "UTC", [], ["uptime"]⟩ ∧
      resolve stockedEnvironment machine.inFull = .ok machine := by
  obtain ⟨machine, resolved⟩ :
      ∃ machine, resolve stockedEnvironment layeredMachine = .ok machine := ⟨_, rfl⟩
  refine ⟨machine, resolved, ?_, ?_, ?_, resolve_inFull resolved⟩
  all_goals
    cases resolved
    decide +kernel

end Machine

end VirtualLab
