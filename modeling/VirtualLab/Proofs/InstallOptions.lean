import Mathlib.Data.List.Basic
import VirtualLab.Install
import VirtualLab.Proofs.NetworkSchemas

/-!
# What the installation tool understands

The arguments of the installation tool are options, most of them followed by a value, and a value
may be a list of properties between commas. Read so, they hold one network card for each interface
of the machine, in the order in which the first network document describes the interfaces to the
guest. Only a machine without interfaces is given a card that its document does not describe.
-/

namespace VirtualLab

/-! ## Options and properties -/

namespace InstallOptions

def switches : List String := ["--import", "--noautoconsole"]

def options : List String → List (String × Option String)
  | [] => []
  | [option] => [(option, none)]
  | option :: value :: rest =>
    if option ∈ switches then (option, none) :: options (value :: rest)
    else (option, some value) :: options rest

def valuesOf (option : String) (arguments : List String) : List String :=
  (options arguments).filterMap fun given => if given.1 = option then given.2 else none

def ahead (character : Char) : List (List Char) → List (List Char)
  | [] => [[character]]
  | first :: others => (character :: first) :: others

/-- The properties of a value. A comma ends a property unless it is doubled: two commas stand for
one that is part of the property. -/
def properties : List Char → List (List Char)
  | [] => [[]]
  | ',' :: ',' :: rest => ahead ',' (properties rest)
  | ',' :: rest => [] :: properties rest
  | character :: rest => ahead character (properties rest)

def propertyOf (key value : String) : Option String :=
  (properties value.toList).findSome? fun property => do
    let (name, content) ← Text.splitFirst ['='] property
    if name = key.toList then some (String.ofList content) else none

section Reading

variable {option : String} {rest : List String}

theorem options_switch (switch : option ∈ switches) :
    options (option :: rest) = (option, none) :: options rest := by
  cases rest with
  | nil => rfl
  | cons value rest => rw [options, if_pos switch]

theorem options_pair {value : String} (valued : option ∉ switches) :
    options (option :: value :: rest) = (option, some value) :: options rest := by
  rw [options, if_neg valued]

theorem options_flatMap {α : Type} (valued : option ∉ switches) (valueOf : α → String)
    (items : List α) :
    options (items.flatMap (fun item => [option, valueOf item]) ++ rest) =
      items.map (fun item => (option, some (valueOf item))) ++ options rest := by
  induction items with
  | nil => rfl
  | cons item items induction =>
    rw [List.flatMap_cons, List.append_assoc, List.cons_append, List.cons_append, List.nil_append,
      options_pair valued, induction, List.map_cons, List.cons_append]

end Reading

section Properties

variable {text rest : List Char}

theorem properties_cons {character : Char} (plain : character ≠ ',') :
    properties (character :: rest) = ahead character (properties rest) := by
  rw [properties] <;> simp [plain]

theorem properties_append {next : Char} (plain : ',' ∉ text) (single : next ≠ ',') :
    properties (text ++ ',' :: next :: rest) = text :: properties (next :: rest) := by
  induction text with
  | nil => rw [List.nil_append, properties]; simp [single]
  | cons character text induction =>
    obtain ⟨different, plainText⟩ := List.ne_and_not_mem_of_not_mem_cons plain
    rw [List.cons_append, properties_cons different.symm, induction plainText]
    rfl

theorem splitFirst_of_plain {mark : Char} (plain : mark ∉ text) :
    Text.splitFirst [mark] (text ++ mark :: rest) = some (text, rest) :=
  Text.splitFirst_at_mark List.not_mem_nil fun within => plain (within.subset List.mem_cons_self)

/-- The first property decides where it is under the key. -/
theorem propertyOf_of_properties {key value content : String} {others : List (List Char)}
    (plain : '=' ∉ key.toList)
    (first : properties value.toList = (key.toList ++ '=' :: content.toList) :: others) :
    propertyOf key value = some content := by
  rw [propertyOf, first, List.findSome?_cons, splitFirst_of_plain plain]
  simp

end Properties

end InstallOptions

/-! ## Network cards -/

namespace InstallRequest

open InstallOptions

def diskValue (disk : Path) : String := "path=" ++ disk.text ++ ",format=qcow2,bus=virtio"

def networkValue (network : String) : String := "network=" ++ network ++ ",model=virtio"

def mountValue (mount : Mount) : String :=
  "source=" ++ mount.source ++ ",target=" ++ mount.target ++ ",accessmode=passthrough" ++
    (if mount.readonly then ",readonly=on" else "")

theorem options_arguments (request : InstallRequest) :
    options request.arguments =
      [("--connect", some request.uri), ("--name", some request.name),
        ("--memory", some (toString request.memoryMib)),
        ("--vcpus", some (toString request.vcpus)), ("--import", none)] ++
      request.disks.map (fun disk => ("--disk", some (diskValue disk))) ++
      [("--disk", some ("path=" ++ request.bootMedium.text ++ ",device=cdrom")),
        ("--os-variant", some request.osVariant)] ++
      request.networks.map (fun network => ("--network", some (networkValue network))) ++
      [("--graphics", some "vnc,listen=0.0.0.0"), ("--noautoconsole", none)] ++
      request.mounts.map (fun mount => ("--filesystem", some (mountValue mount))) := by
  have disks (rest : List String) :
      options (request.disks.flatMap diskArguments ++ rest) = _ :=
    options_flatMap (by decide) diskValue request.disks
  have networks (rest : List String) :
      options (request.networks.flatMap networkArguments ++ rest) = _ :=
    options_flatMap (by decide) networkValue request.networks
  have mounts : options (request.mounts.flatMap mountArguments ++ []) = _ :=
    options_flatMap (by decide) mountValue request.mounts
  have noneLeft : options [] = [] := rfl
  rw [noneLeft, List.append_nil, List.append_nil] at mounts
  simp (disch := decide) only [arguments, List.append_assoc, List.cons_append, List.nil_append,
    options_pair, options_switch, disks, networks, mounts]

def networkCards (request : InstallRequest) : List String :=
  valuesOf "--network" request.arguments

theorem networkCards_eq (request : InstallRequest) :
    request.networkCards = request.networks.map networkValue := by
  rw [networkCards, valuesOf, options_arguments]
  simp

def attachedNetwork (card : String) : Option String := propertyOf "network" card

theorem attachedNetwork_networkValue {network : String} (plain : ',' ∉ network.toList) :
    attachedNetwork (networkValue network) = some network := by
  let model := "odel=virtio".toList
  have property : "network=".toList ++ network.toList =
      "network".toList ++ '=' :: network.toList := rfl
  have value : (networkValue network).toList =
      ("network=".toList ++ network.toList) ++ ',' :: 'm' :: model := by
    simp [networkValue, model]
  have plainProperty : ',' ∉ "network=".toList ++ network.toList := by
    simpa using plain
  have cut : properties (networkValue network).toList =
      ("network=".toList ++ network.toList) :: properties ('m' :: model) :=
    value ▸ properties_append plainProperty (by decide)
  rw [property] at cut
  exact propertyOf_of_properties (by decide) cut

/-- Each card is attached to the network that the request has at its position. -/
theorem attachedNetwork_of_networkCards {request : InstallRequest} {position : Nat} {card : String}
    (told : request.networkCards[position]? = some card) :
    ∃ network, request.networks[position]? = some network ∧
      (',' ∉ network.toList → attachedNetwork card = some network) := by
  rw [networkCards_eq, List.getElem?_map, Option.map_eq_some_iff] at told
  obtain ⟨network, requested, rfl⟩ := told
  exact ⟨network, requested, attachedNetwork_networkValue⟩

theorem networksOf_of_interfaces {machine : Machine} (declared : machine.interfaces ≠ []) :
    networksOf machine = machine.interfaces.map (·.network) := by
  rw [networksOf, if_neg (by simpa using declared)]

theorem networksOf_of_no_interfaces {machine : Machine} (undeclared : machine.interfaces = []) :
    networksOf machine = [Machine.defaultNetwork] := by
  simp [networksOf, Machine.primaryNetwork, undeclared]

end InstallRequest

namespace Machine

open BootConfig Network Yaml InstallRequest

theorem length_interfaces {environment : Environment} {declaration : MachineDeclaration}
    {machine : Machine} (resolved : resolve environment declaration = .ok machine) :
    machine.interfaces.length = declaration.interfaces.length := by
  rw [interfaces_of_resolve resolved, List.length_mapIdx]

/-- Of a machine that declares interfaces the installation tool is told one network card for each,
the first network document has one entry for each, and the card and the entry at a position are of
the same interface. A machine that declares none is given one card in the default network, which
its document does not describe. -/
theorem cards_follow_entries {environment : Environment} {declaration : MachineDeclaration}
    {machine : Machine} (resolved : resolve environment declaration = .ok machine) (uri : String)
    (disks : List Path) (medium : Path) (osVariant : String) (mounts : List Mount) :
    ∃ cards fields records,
      networkCards (.ofMachine uri machine disks medium osVariant mounts) = cards ∧
      Network.document machine.interfaces 1 = .ok fields ∧
      networkConfig machine 1 = .ok (Value.document fields) ∧
      recordsOfFirst (.mapping fields) = some records ∧
      (declaration.interfaces ≠ [] →
        cards.length = declaration.interfaces.length ∧
        records.length = declaration.interfaces.length ∧
        ∀ (position : Nat) card entry, cards[position]? = some card →
          records[position]? = some entry →
          ∃ interface, machine.interfaces[position]? = some interface ∧
            entry = record interface ∧
            (',' ∉ interface.network.toList →
              attachedNetwork card = some interface.network)) ∧
      (declaration.interfaces = [] →
        cards.map attachedNetwork = [some defaultNetwork] ∧ records = []) := by
  let request := InstallRequest.ofMachine uri machine disks medium osVariant mounts
  obtain ⟨fields, written⟩ : ∃ fields, Network.document machine.interfaces 1 = .ok fields :=
    ⟨_, rfl⟩
  have lengths := length_interfaces resolved
  refine ⟨request.networkCards, fields, machine.interfaces.map record, rfl, written, ?_,
    recordsOfFirst_document written, fun declared => ?_, fun undeclared => ?_⟩
  · rw [networkConfig, written]
    rfl
  · have kept : machine.interfaces ≠ [] :=
      List.ne_nil_of_length_pos (lengths ▸ List.length_pos_iff.mpr declared)
    have networks : request.networks = machine.interfaces.map (·.network) :=
      networksOf_of_interfaces kept
    refine ⟨?_, ?_, fun position card entry told described => ?_⟩
    · rw [networkCards_eq, networks, List.length_map, List.length_map, lengths]
    · rw [List.length_map, lengths]
    · obtain ⟨network, requested, attached⟩ := attachedNetwork_of_networkCards told
      rw [networks, List.getElem?_map, Option.map_eq_some_iff] at requested
      obtain ⟨interface, present, rfl⟩ := requested
      rw [List.getElem?_map, present] at described
      exact ⟨interface, present, (Option.some.inj described).symm, attached⟩
  · have interfaces : machine.interfaces = [] :=
      List.length_eq_zero_iff.mp (lengths.trans (List.length_eq_zero_iff.mpr undeclared))
    have networks : request.networks = [defaultNetwork] := networksOf_of_no_interfaces interfaces
    refine ⟨?_, ?_⟩
    · rw [networkCards_eq, networks, List.map_singleton, List.map_singleton,
        attachedNetwork_networkValue (by decide)]
    · rw [interfaces, List.map_nil]

theorem two_networks_cards :
    ∃ machine, resolve pairEnvironment twoNetworks = .ok machine ∧
      machine.interfaces.map (·.network) = ["default", "storage"] ∧
      ∃ cards fields records,
        networkCards (.ofMachine "qemu:///system" machine [⟨"/lab/web/disk0.qcow2"⟩]
          ⟨"/lab/web/cidata.iso"⟩ "generic" []) = cards ∧
        networkConfig machine 1 = .ok (Value.document fields) ∧
        recordsOfFirst (.mapping fields) = some records ∧
        cards.length = 2 ∧ records.length = 2 ∧
        ∀ (position : Nat) card entry, cards[position]? = some card →
          records[position]? = some entry →
          ∃ interface, machine.interfaces[position]? = some interface ∧
            entry = record interface ∧ attachedNetwork card = some interface.network := by
  obtain ⟨machine, resolved⟩ : ∃ machine, resolve pairEnvironment twoNetworks = .ok machine :=
    ⟨_, rfl⟩
  have plain : ∀ interface ∈ machine.interfaces, ',' ∉ interface.network.toList := by
    obtain rfl := Except.ok.inj resolved
    decide
  obtain ⟨cards, fields, records, told, _, written, described, matching, _⟩ :=
    cards_follow_entries resolved "qemu:///system" [⟨"/lab/web/disk0.qcow2"⟩]
      ⟨"/lab/web/cidata.iso"⟩ "generic" []
  obtain ⟨twoCards, twoEntries, positions⟩ := matching (by decide)
  refine ⟨machine, resolved, ?_, cards, fields, records, told, written, described, twoCards,
    twoEntries, ?_⟩
  · obtain rfl := Except.ok.inj resolved
    rfl
  · intro position card entry cardThere entryThere
    obtain ⟨interface, present, same, attached⟩ :=
      positions position card entry cardThere entryThere
    exact ⟨interface, present, same, attached (plain _ (List.mem_of_getElem? present))⟩

theorem undescribed_card :
    ∃ machine fields,
      resolve pairEnvironment { vmName := some "web" } = .ok machine ∧
      networkConfig machine 1 = .ok (Value.document fields) ∧
      Network.document machine.interfaces 1 = .ok fields ∧
      recordsOfFirst (.mapping fields) = some [] ∧
      networkCards (.ofMachine "qemu:///system" machine [⟨"/lab/web/disk0.qcow2"⟩]
        ⟨"/lab/web/cidata.iso"⟩ "generic" []) = ["network=default,model=virtio"] := by
  refine ⟨_, _, rfl, rfl, rfl, rfl, ?_⟩
  rw [networkCards_eq]
  rfl

end Machine

end VirtualLab
