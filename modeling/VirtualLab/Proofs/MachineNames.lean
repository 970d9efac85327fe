import VirtualLab.Proofs.MachineFiles

/-!
# Machines known by their names

An environment is accepted exactly if it has a name and no two of its machines have one name. The
name of a machine then means that machine, wherever it stands and whatever the others call their
hosts. Any other name is that of a host, and of several hosts with one name the first is meant.
-/

namespace VirtualLab

/-! ## Accepted environments -/

namespace Environment

/-- No name is that of machines at two positions. Machines without a name do not count. -/
def NamesDiffer (machines : List MachineDeclaration) : Prop :=
  ∀ ⦃i j : Nat⦄ ⦃first second : MachineDeclaration⦄ ⦃name : String⦄,
    machines[i]? = some first → machines[j]? = some second →
      first.vmName = some name → second.vmName = some name → i = j

def IsNamed (declaration : EnvironmentDeclaration) : Prop :=
  ∃ name, declaration.name = some name ∧
    ∃ character ∈ name.toList, Text.isBlank character = false

theorem nodup_iff_namesDiffer {machines : List MachineDeclaration} :
    (machines.filterMap (·.vmName)).Nodup ↔ NamesDiffer machines := by
  rw [List.Nodup, List.pairwise_filterMap, List.pairwise_iff_getElem]
  constructor
  · intro distinct i j first second name firstAt secondAt firstNamed secondNamed
    obtain ⟨inFirst, rfl⟩ := List.getElem?_eq_some_iff.mp firstAt
    obtain ⟨inSecond, rfl⟩ := List.getElem?_eq_some_iff.mp secondAt
    rcases Nat.lt_trichotomy i j with before | same | after
    · exact absurd rfl (distinct i j inFirst inSecond before name firstNamed name secondNamed)
    · exact same
    · exact absurd rfl (distinct j i inSecond inFirst after name secondNamed name firstNamed)
  · rintro differ i j inFirst inSecond before name firstNamed other secondNamed rfl
    have same : i = j := differ (List.getElem?_eq_getElem inFirst)
      (List.getElem?_eq_getElem inSecond) firstNamed secondNamed
    omega

theorem firstRepeated_of_nodup {seen names : List String} (nodup : names.Nodup)
    (new : ∀ name ∈ names, name ∉ seen) : firstRepeated seen names = none := by
  induction names generalizing seen with
  | nil => rfl
  | cons name rest induction =>
    obtain ⟨notInRest, restNodup⟩ := List.nodup_cons.mp nodup
    obtain ⟨notSeen, restNew⟩ := List.forall_mem_cons.mp new
    rw [firstRepeated, if_neg notSeen]
    refine induction restNodup fun other member => ?_
    exact List.not_mem_cons_of_ne_of_not_mem (fun equal => notInRest (equal ▸ member))
      (restNew other member)

theorem firstRepeated_eq_none_iff {names : List String} :
    firstRepeated [] names = none ↔ names.Nodup :=
  ⟨fun unique => (nodup_of_firstRepeated unique).1,
    fun nodup => firstRepeated_of_nodup nodup fun _ _ => List.not_mem_nil⟩

theorem isNamed_iff {declaration : EnvironmentDeclaration} :
    IsNamed declaration ↔
      ∃ name, declaration.name.filter (fun name => !Text.isBlankText name) = some name := by
  unfold IsNamed Text.isBlankText
  cases declaration.name with
  | none => simp
  | some name => simp [Option.filter]

theorem exists_ofDeclaration_iff {home : Option Path} {declaration : EnvironmentDeclaration} :
    (∃ environment, ofDeclaration home declaration = .ok environment) ↔
      IsNamed declaration ∧ NamesDiffer declaration.machines := by
  rw [isNamed_iff, ← nodup_iff_namesDiffer, ← firstRepeated_eq_none_iff, ofDeclaration]
  cases declaration.name.filter fun name => !Text.isBlankText name with
  | none => simp
  | some name =>
    cases firstRepeated [] (declaration.machines.filterMap (·.vmName)) with
    | none => simp
    | some machine => simp

end Environment

/-! ## Finding a machine -/

namespace Manifest

variable {manifest : Manifest} {home : Option Path} {environment : Environment}
  {machine : MachineDeclaration} {name : String}

def IsFirstHost (machines : List MachineDeclaration) (name : String)
    (machine : MachineDeclaration) : Prop :=
  machine.hostname = some name ∧ ∃ earlier later, machines = earlier ++ machine :: later ∧
    ∀ other ∈ earlier, other.hostname ≠ some name

theorem namesDiffer_of_accepted (accepted : manifest.environment home = .ok environment) :
    Environment.NamesDiffer manifest.machines :=
  Environment.nodup_iff_namesDiffer.mp (Environment.nodup_of_accepted accepted)

/-- Where names differ, a machine's name means that machine. -/
theorem findMachine_of_vmName (differ : Environment.NamesDiffer manifest.machines) {i : Nat}
    (placed : manifest.machines[i]? = some machine) (named : machine.vmName = some name) :
    manifest.findMachine name = .ok machine := by
  have member : machine ∈ manifest.machines := List.mem_of_getElem? placed
  cases search : manifest.machines.find? fun other => other.vmName == some name with
  | none =>
    have missed := List.find?_eq_none.mp search machine member
    simp [named] at missed
  | some found =>
    have foundNamed : found.vmName = some name := by
      simpa using List.find?_some search
    obtain ⟨j, foundAt⟩ := List.mem_iff_getElem?.mp (List.mem_of_find?_eq_some search)
    obtain rfl : i = j := differ placed foundAt named foundNamed
    rw [placed] at foundAt
    cases foundAt
    rw [findMachine, search]

theorem findMachine_of_other (other : ∀ machine ∈ manifest.machines, machine.vmName ≠ some name) :
    manifest.findMachine name =
      ((manifest.machines.find? fun machine => machine.hostname == some name).map .ok).getD
        (.error (.machineNotFound name)) := by
  have search : (manifest.machines.find? fun machine => machine.vmName == some name) = none :=
    List.find?_eq_none.mpr fun machine member => by simpa using other machine member
  rw [findMachine, search]
  cases manifest.machines.find? fun machine => machine.hostname == some name <;> rfl

theorem findMachine_eq_ok_iff_isFirstHost
    (other : ∀ machine ∈ manifest.machines, machine.vmName ≠ some name) :
    manifest.findMachine name = .ok machine ↔ IsFirstHost manifest.machines name machine := by
  have first : (manifest.machines.find? fun machine => machine.hostname == some name) =
      some machine ↔ IsFirstHost manifest.machines name machine := by
    rw [List.find?_eq_some_iff_append, IsFirstHost]
    simp
  rw [← first, findMachine_of_other other]
  cases manifest.machines.find? fun machine => machine.hostname == some name <;> simp

theorem findMachine_eq_error_iff
    (other : ∀ machine ∈ manifest.machines, machine.vmName ≠ some name) :
    manifest.findMachine name = .error (.machineNotFound name) ↔
      ∀ machine ∈ manifest.machines, machine.hostname ≠ some name := by
  have none : (manifest.machines.find? fun machine => machine.hostname == some name) = none ↔
      ∀ machine ∈ manifest.machines, machine.hostname ≠ some name := by
    simp
  rw [← none, findMachine_of_other other]
  cases manifest.machines.find? fun machine => machine.hostname == some name <;> simp

/-- An environment is accepted exactly if it is named and the names of its machines differ. In one
that is accepted the name of a machine means that machine and no other; a name that is no machine's
means the first host with it, and nothing if there is none. -/
theorem machines_known_by_name (home : Option Path) :
    (∀ declaration, (∃ environment, Environment.ofDeclaration home declaration = .ok environment) ↔
      Environment.IsNamed declaration ∧ Environment.NamesDiffer declaration.machines) ∧
    ∀ manifest environment, Manifest.environment manifest home = .ok environment →
      (∀ (i : Nat) (machine : MachineDeclaration) (name : String),
        manifest.machines[i]? = some machine → machine.vmName = some name →
          manifest.findMachine name = .ok machine ∧
          ∀ (j : Nat) (other : MachineDeclaration),
            manifest.machines[j]? = some other → other.vmName = some name → j = i) ∧
      ∀ name, (∀ machine ∈ manifest.machines, machine.vmName ≠ some name) →
        (∀ machine, manifest.findMachine name = .ok machine ↔
          IsFirstHost manifest.machines name machine) ∧
        (manifest.findMachine name = .error (.machineNotFound name) ↔
          ∀ machine ∈ manifest.machines, machine.hostname ≠ some name) := by
  refine ⟨fun declaration => Environment.exists_ofDeclaration_iff, ?_⟩
  intro manifest environment accepted
  have differ := namesDiffer_of_accepted accepted
  refine ⟨fun i machine name placed named => ⟨findMachine_of_vmName differ placed named, ?_⟩, ?_⟩
  · intro j other otherPlaced otherNamed
    exact differ otherPlaced placed otherNamed named
  · intro name other
    exact ⟨fun machine => findMachine_eq_ok_iff_isFirstHost other, findMachine_eq_error_iff other⟩

/-! ### A host with the name of a machine -/

/-- The host of the first machine has the name of the third, and two hosts have one name. -/
def crossedMachines : List MachineDeclaration := [
  { vmName := some "web", hostname := some "db" },
  { hostname := some "mail" },
  { vmName := some "db", hostname := some "mail" },
  {}]

def crossedDeclaration : EnvironmentDeclaration where
  name := some " lab"
  machines := crossedMachines

def crossedManifest : Manifest where
  environments := [crossedDeclaration]

theorem crossed_machines_found :
    (∃ environment, crossedManifest.environment none = .ok environment) ∧
      crossedManifest.findMachine "db" =
        .ok { vmName := some "db", hostname := some "mail" } ∧
      crossedManifest.findMachine "mail" = .ok { hostname := some "mail" } ∧
      crossedManifest.findMachine "ftp" = .error (.machineNotFound "ftp") := by
  obtain ⟨accepts, finds⟩ := machines_known_by_name none
  have differ : Environment.NamesDiffer crossedMachines :=
    Environment.nodup_iff_namesDiffer.mp (by decide)
  obtain ⟨environment, accepted⟩ := (accepts crossedDeclaration).mpr
    ⟨⟨" lab", rfl, 'l', by decide, by decide⟩, differ⟩
  obtain ⟨byName, byHost⟩ := finds crossedManifest environment accepted
  refine ⟨⟨environment, accepted⟩, (byName 2 _ "db" rfl rfl).1, ?_, ?_⟩
  · refine ((byHost "mail" (by decide)).1 _).mpr ⟨rfl, [_], [_, _], rfl, by decide⟩
  · exact (byHost "ftp" (by decide)).2.mpr (by decide)

end Manifest

end VirtualLab
