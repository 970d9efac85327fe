import VirtualLab.Proofs.Settling

/-!
# What defaults reach

A default matters only where a declaration leaves its value out: environments whose defaults are
the same there settle a machine alike. A default disk is matched by its name, so a machine that
declares the default disks by their names alone gets the disks of one that declares none exactly if
default disks of one name have one size.
-/

namespace VirtualLab

/-! ## Values to fall back on -/

/-- Both values to fall back on are the same, unless a value is declared. -/
def SameFallback {α : Type} (declared first second : Option α) : Prop :=
  declared = none → first = second

instance {α : Type} [DecidableEq α] (declared first second : Option α) :
    Decidable (SameFallback declared first second) :=
  inferInstanceAs (Decidable (_ → _))

theorem SameFallback.or_eq {α : Type} {declared first second : Option α}
    (same : SameFallback declared first second) : declared.or first = declared.or second := by
  cases declared with
  | none => exact same rfl
  | some => rfl

/-- Both shared interfaces say the same wherever some declared interface says nothing. -/
structure SameSharedInterface (declared : List InterfaceDeclaration)
    (first second : InterfaceDeclaration) : Prop where
  name : ∀ interface ∈ declared, SameFallback interface.name first.name second.name
  network : ∀ interface ∈ declared, SameFallback interface.network first.network second.network
  address : ∀ interface ∈ declared, SameFallback interface.address first.address second.address
  gateway : ∀ interface ∈ declared, SameFallback interface.gateway first.gateway second.gateway
  nameservers : ∀ interface ∈ declared,
    SameFallback interface.nameservers first.nameservers second.nameservers

structure SameDefaultSetUp (declared first second : CloudInitDeclaration) : Prop where
  user : SameFallback declared.user first.user second.user
  pubkey : SameFallback declared.pubkey first.pubkey second.pubkey
  timezone : SameFallback declared.timezone first.timezone second.timezone
  packages : SameFallback declared.packages first.packages second.packages
  runcmd : SameFallback declared.runcmd first.runcmd second.runcmd

def sizeByName (disks : List DiskDeclaration) (name : String) : Option String :=
  (disks.find? (·.name == name)).bind (·.size)

/-- Both default lists give the same size to every disk that is declared without one, and are the
same if none is declared. -/
structure SameDefaultDisks (declared first second : List DiskDeclaration) : Prop where
  sizes : ∀ disk ∈ declared,
    SameFallback disk.size (sizeByName first disk.name) (sizeByName second disk.name)
  disks : declared = [] → first = second

/-- The defaults are the same wherever a machine's declaration leaves a value out. Without a set-up
of its own it leaves out all of it. -/
structure SameWhereAbsent (declaration : MachineDeclaration) (first second : DefaultsDeclaration) :
    Prop where
  os : SameFallback declaration.os first.os second.os
  cpu : SameFallback declaration.cpu first.cpu second.cpu
  memory : SameFallback declaration.memory first.memory second.memory
  interfaces : SameSharedInterface declaration.interfaces first.interfaces second.interfaces
  cloudInit : SameDefaultSetUp (declaration.cloudInit.getD {}) first.cloudInit second.cloudInit
  disks : SameDefaultDisks declaration.disks first.disks second.disks

theorem SameSharedInterface.overlay_eq {declared : List InterfaceDeclaration}
    {first second interface : InterfaceDeclaration}
    (same : SameSharedInterface declared first second) (member : interface ∈ declared) :
    first.overlay interface = second.overlay interface := by
  simp only [InterfaceDeclaration.overlay, (same.name interface member).or_eq,
    (same.network interface member).or_eq, (same.address interface member).or_eq,
    (same.gateway interface member).or_eq, (same.nameservers interface member).or_eq]

theorem SameDefaultSetUp.overlay_eq {declared first second : CloudInitDeclaration}
    (same : SameDefaultSetUp declared first second) :
    first.overlay declared = second.overlay declared := by
  simp only [CloudInitDeclaration.overlay, same.user.or_eq, same.pubkey.or_eq,
    same.timezone.or_eq, same.packages.or_eq, same.runcmd.or_eq]

namespace Machine

theorem resolveDisk_eq_sizeByName (defaults : List DiskDeclaration) (disk : DiskDeclaration) :
    resolveDisk defaults disk =
      ⟨disk.name, (disk.size.or (sizeByName defaults disk.name)).getD defaultDiskSize⟩ := rfl

theorem resolveDisks_of_same {declared first second : List DiskDeclaration}
    (same : SameDefaultDisks declared first second) :
    resolveDisks first declared = resolveDisks second declared := by
  cases declared with
  | nil => rw [same.disks rfl]
  | cons disk others =>
    refine List.map_congr_left fun disk member => ?_
    rw [resolveDisk_eq_sizeByName, resolveDisk_eq_sizeByName, (same.sizes disk member).or_eq]

theorem settle_of_same {first second : Environment} {declaration : MachineDeclaration}
    (name : first.name = second.name) (domain : first.domain = second.domain)
    (directory : first.diskImageDirectory = second.diskImageDirectory)
    (same : SameWhereAbsent declaration first.defaults second.defaults) (vmName : String) :
    settle first declaration vmName = settle second declaration vmName := by
  have interfaces : declaration.interfaces.mapIdx (fun index interface =>
        resolveInterface index (first.defaults.interfaces.overlay interface)) =
      declaration.interfaces.mapIdx fun index interface =>
        resolveInterface index (second.defaults.interfaces.overlay interface) := by
    refine List.ext_getElem (by simp) fun index _ _ => ?_
    simp only [List.getElem_mapIdx, same.interfaces.overlay_eq (List.getElem_mem _)]
  simp only [settle, Environment.workDirectory, name, domain, directory, same.os.or_eq,
    same.cpu.or_eq, same.memory.or_eq, interfaces, resolveDisks_of_same same.disks,
    same.cloudInit.overlay_eq]

/-- Environments of one name, domain and place for machines whose defaults are the same wherever a
declaration leaves a value out settle it alike, and refuse it alike. A list that is declared is
kept, also an empty one. -/
theorem resolve_eq_of_same_where_absent {first second : Environment}
    {declaration : MachineDeclaration} (name : first.name = second.name)
    (domain : first.domain = second.domain)
    (directory : first.diskImageDirectory = second.diskImageDirectory)
    (same : SameWhereAbsent declaration first.defaults second.defaults) :
    resolve first declaration = resolve second declaration ∧
    ∀ machine declared, resolve first declaration = .ok machine →
      declaration.cloudInit = some declared →
      (∀ packages, declared.packages = some packages → machine.cloudInit.packages = packages) ∧
      ∀ runcmd, declared.runcmd = some runcmd → machine.cloudInit.runcmd = runcmd := by
  constructor
  · simp only [resolve_eq_settle, settle_of_same name domain directory same]
  · intro machine declared resolved given
    obtain ⟨vmName, _, _, rfl⟩ := resolve_eq_ok_iff.mp resolved
    constructor
    · intro packages kept
      simp [settle, resolveCloudInit, CloudInitDeclaration.overlay, given, kept]
    · intro runcmd kept
      simp [settle, resolveCloudInit, CloudInitDeclaration.overlay, given, kept]

def restockedEnvironment : Environment :=
  { stockedEnvironment with
    defaults := {
      stockedEnvironment.defaults with
      cpu := some 8
      disks := [
        { name := "root", size := some "20G" }, { name := "data", size := some "5G" },
        { name := "root", size := some "1G" }]
      cloudInit := {
        stockedEnvironment.defaults.cloudInit with
        timezone := some "Europe/Berlin", packages := some ["emacs"] } } }

theorem layered_machine_in_both :
    ∃ machine, resolve stockedEnvironment layeredMachine = .ok machine ∧
      resolve restockedEnvironment layeredMachine = .ok machine ∧
      machine.cloudInit.packages = [] := by
  have same : SameWhereAbsent layeredMachine stockedEnvironment.defaults
      restockedEnvironment.defaults :=
    { os := by decide, cpu := by decide, memory := by decide
      interfaces := ⟨by decide, by decide, by decide, by decide, by decide⟩
      cloudInit := ⟨by decide, by decide, by decide, by decide, by decide⟩
      disks := ⟨by decide, by decide⟩ }
  obtain ⟨alike, kept⟩ :=
    @resolve_eq_of_same_where_absent stockedEnvironment restockedEnvironment layeredMachine
      rfl rfl rfl same
  obtain ⟨machine, resolved⟩ :
      ∃ machine, resolve stockedEnvironment layeredMachine = .ok machine := ⟨_, rfl⟩
  exact ⟨machine, resolved, alike ▸ resolved, (kept machine _ resolved rfl).1 [] rfl⟩

/-! ## Default disks declared by name -/

end Machine

def DiskDeclaration.unsized (disk : DiskDeclaration) : DiskDeclaration where
  name := disk.name

namespace Machine

/-- Disks of one name have one size; a size left out is the one that every disk falls back on. -/
def OneSizePerName (disks : List DiskDeclaration) : Prop :=
  ∀ disk ∈ disks, ∀ other ∈ disks, disk.name = other.name →
    disk.size.getD defaultDiskSize = other.size.getD defaultDiskSize

instance (disks : List DiskDeclaration) : Decidable (OneSizePerName disks) :=
  inferInstanceAs (Decidable (∀ disk ∈ disks, ∀ other ∈ disks, _ → _))

/-- What is looked up for a disk of the list is the size of the first one with its name. -/
theorem exists_sizeByName {disks : List DiskDeclaration} {disk : DiskDeclaration}
    (member : disk ∈ disks) :
    ∃ first ∈ disks, first.name = disk.name ∧ sizeByName disks disk.name = first.size := by
  cases found : disks.find? (·.name == disk.name) with
  | none => exact absurd (List.find?_eq_none.mp found disk member) (by simp)
  | some first =>
    have same := List.find?_some found
    exact ⟨first, List.mem_of_find?_eq_some found, eq_of_beq same, by rw [sizeByName, found]; rfl⟩

theorem resolveDisk_unsized_eq_iff (defaults : List DiskDeclaration) (disk : DiskDeclaration) :
    resolveDisk defaults disk.unsized = resolveDisk [] disk ↔
      (sizeByName defaults disk.name).getD defaultDiskSize = disk.size.getD defaultDiskSize := by
  simp [resolveDisk_eq_sizeByName, DiskDeclaration.unsized, sizeByName]

theorem map_resolveDisk_unsized_eq_iff (defaults : List DiskDeclaration) :
    (defaults.map (·.unsized)).map (resolveDisk defaults) = defaults.map (resolveDisk []) ↔
      OneSizePerName defaults := by
  rw [List.map_map, List.map_inj_left]
  simp only [Function.comp_apply, resolveDisk_unsized_eq_iff]
  constructor
  · intro lookedUp disk member other otherMember same
    rw [← lookedUp disk member, ← lookedUp other otherMember, same]
  · intro oneSize disk member
    obtain ⟨first, among, same, size⟩ := exists_sizeByName member
    rw [size]
    exact oneSize first among disk member same

/-- A machine that declares the default disks by name alone is the machine that declares none, but
for the sizes of its disks, and is refused as that is. The disks are the same in order and size
exactly if default disks of one name have one size. -/
theorem resolve_default_disks_by_name {environment : Environment} {declaration : MachineDeclaration}
    (stocked : environment.defaults.disks ≠ []) (undeclared : declaration.disks = []) :
    let byName := { declaration with disks := environment.defaults.disks.map (·.unsized) }
    (∀ error, resolve environment declaration = .error error →
      resolve environment byName = .error error) ∧
    ∀ machine, resolve environment declaration = .ok machine →
      ∃ disks, resolve environment byName = .ok { machine with disks } ∧
        disks.map (·.name) = machine.disks.map (·.name) ∧
        (disks = machine.disks ↔ OneSizePerName environment.defaults.disks) := by
  intro byName
  have inherited : resolveDisks environment.defaults.disks declaration.disks =
      environment.defaults.disks.map (resolveDisk []) := by
    rw [undeclared, resolveDisks, if_neg (by simp), if_pos (by simpa using stocked)]
  have lookedUp : resolveDisks environment.defaults.disks byName.disks =
      (environment.defaults.disks.map (·.unsized)).map
        (resolveDisk environment.defaults.disks) := by
    rw [resolveDisks, if_pos (by simpa [byName] using stocked)]
  constructor
  · intro error refused
    rw [resolve_eq_settle] at refused ⊢
    cases given : declaration.vmName.filter fun name => !Text.isBlankText name with
    | none =>
      rw [given] at refused
      exact refused
    | some => simp [given] at refused
  · intro machine resolved
    obtain ⟨vmName, declared, named, rfl⟩ := resolve_eq_ok_iff.mp resolved
    refine ⟨_, resolve_eq_ok_iff.mpr ⟨vmName, declared, named, rfl⟩, ?_, ?_⟩
    · change (resolveDisks _ byName.disks).map _ = (resolveDisks _ declaration.disks).map _
      rw [inherited, lookedUp, List.map_map, List.map_map, List.map_map]
      rfl
    · change resolveDisks _ byName.disks = resolveDisks _ declaration.disks ↔ _
      rw [inherited, lookedUp]
      exact map_resolveDisk_unsized_eq_iff environment.defaults.disks

def environmentWithDisks (disks : List DiskDeclaration) : Environment :=
  { stockedEnvironment with defaults := { disks } }

def evenDisks : List DiskDeclaration :=
  [{ name := "root", size := some "15G" }, { name := "logs", size := some "1G" },
    { name := "root" }]

theorem even_disks_by_name :
    evenDisks ≠ [] ∧ OneSizePerName evenDisks ∧
    ∃ machine, resolve (environmentWithDisks evenDisks) { vmName := some "web" } = .ok machine ∧
      machine.disks = [⟨"root", "15G"⟩, ⟨"logs", "1G"⟩, ⟨"root", "15G"⟩] ∧
      resolve (environmentWithDisks evenDisks)
        { vmName := some "web", disks := evenDisks.map (·.unsized) } = .ok machine := by
  have even : OneSizePerName evenDisks := by decide
  obtain ⟨machine, resolved⟩ :
      ∃ machine, resolve (environmentWithDisks evenDisks) { vmName := some "web" } = .ok machine :=
    ⟨_, rfl⟩
  obtain ⟨disks, named, _, same⟩ :=
    (@resolve_default_disks_by_name (environmentWithDisks evenDisks) { vmName := some "web" }
      (by decide) rfl).2 machine resolved
  obtain rfl := same.mpr even
  refine ⟨by decide, even, machine, resolved, ?_, named⟩
  cases resolved
  decide +kernel

def unevenDisks : List DiskDeclaration :=
  [{ name := "root", size := some "10G" }, { name := "root", size := some "20G" }]

/-- A machine that declares no disks gets both sizes, and one that names the same disks gets the
first size twice. -/
theorem second_size_lost :
    unevenDisks ≠ [] ∧
    ∃ machine named,
      resolve (environmentWithDisks unevenDisks) { vmName := some "web" } = .ok machine ∧
      resolve (environmentWithDisks unevenDisks)
        { vmName := some "web", disks := unevenDisks.map (·.unsized) } = .ok named ∧
      machine.disks = [⟨"root", "10G"⟩, ⟨"root", "20G"⟩] ∧
      named.disks = [⟨"root", "10G"⟩, ⟨"root", "10G"⟩] :=
  ⟨by decide, _, _, rfl, rfl, by decide +kernel, by decide +kernel⟩

end Machine

end VirtualLab
