import Mathlib.Data.List.Nodup
import Mathlib.Data.List.Perm.Basic
import Mathlib.Data.String.Basic
import VirtualLab.Proofs.MachineFiles

/-!
# What the network documents say

Either network document can be read back into one record for each interface it holds. The first
schema holds every interface in its order. The second holds one for each name, the last that has
it, and so says the same exactly when no two interfaces share a name.
-/

namespace VirtualLab

/-! ## Maps by name -/

namespace NameMap

variable {α β : Type} {name : String} {value : α} {map : NameMap α}

def Ascending (map : NameMap α) : Prop := map.Pairwise fun entry later => entry.1 < later.1

theorem mem_of_mem_insert {entry : String × α} (member : entry ∈ insert name value map) :
    entry = (name, value) ∨ entry ∈ map := by
  induction map with
  | nil => exact .inl (List.mem_singleton.mp member)
  | cons first rest induction =>
    obtain ⟨other, present⟩ := first
    simp only [insert] at member
    split at member
    · rcases List.mem_cons.mp member with new | old
      · exact .inl new
      · exact .inr (List.mem_cons_of_mem _ old)
    · split at member
      · exact List.mem_cons.mp member
      · rcases List.mem_cons.mp member with same | deeper
        · exact .inr (same ▸ List.mem_cons_self)
        · exact (induction deeper).imp_right (List.mem_cons_of_mem _)

theorem Ascending.insert (ascending : Ascending map) : Ascending (insert name value map) := by
  induction map with
  | nil => exact List.pairwise_singleton _ _
  | cons first rest induction =>
    obtain ⟨other, present⟩ := first
    obtain ⟨below, ascendingRest⟩ := List.pairwise_cons.mp ascending
    simp only [NameMap.insert]
    split
    · rename_i equal
      subst equal
      exact List.pairwise_cons.mpr ⟨below, ascendingRest⟩
    · rename_i different
      split
      · rename_i before
        refine List.pairwise_cons.mpr ⟨fun entry member => ?_, ascending⟩
        rcases List.mem_cons.mp member with rfl | deeper
        · exact before
        · exact before.trans (below entry deeper)
      · rename_i notBefore
        have after : other < name := lt_of_le_of_ne (not_lt.mp notBefore) (Ne.symm different)
        refine List.pairwise_cons.mpr ⟨fun entry member => ?_, induction ascendingRest⟩
        rcases mem_of_mem_insert member with rfl | old
        · exact after
        · exact below entry old

theorem erase_of_forall_ne (absent : ∀ entry ∈ map, entry.1 ≠ name) : erase name map = map :=
  List.filter_eq_self.mpr fun entry member => bne_iff_ne.mpr (absent entry member)

theorem insert_perm (ascending : Ascending map) :
    (insert name value map).Perm ((name, value) :: erase name map) := by
  induction map with
  | nil => exact .refl _
  | cons first rest induction =>
    obtain ⟨other, present⟩ := first
    obtain ⟨below, ascendingRest⟩ := List.pairwise_cons.mp ascending
    simp only [insert]
    split
    · rename_i equal
      have dropped : erase name ((other, present) :: rest) = rest := by
        rw [erase, List.filter_cons_of_neg (by simp [equal]), ← erase]
        exact erase_of_forall_ne fun entry member =>
          (equal ▸ below entry member : name < entry.1).ne'
      rw [dropped]
    · rename_i different
      split
      · rename_i before
        rw [erase_of_forall_ne fun entry member => ?_]
        rcases List.mem_cons.mp member with rfl | deeper
        · exact before.ne'
        · exact (before.trans (below entry deeper)).ne'
      · have kept : erase name ((other, present) :: rest) =
            (other, present) :: erase name rest :=
          List.filter_cons_of_pos (by simpa using Ne.symm different)
        rw [kept]
        exact ((induction ascendingRest).cons _).trans (.swap _ _ _)

/-- The items that no later one of the same name replaces. -/
def lastOfEachName (nameOf : β → String) : List β → List β
  | [] => []
  | item :: rest =>
    if nameOf item ∈ rest.map nameOf then lastOfEachName nameOf rest
    else item :: lastOfEachName nameOf rest

theorem lastOfEachName_sublist (nameOf : β → String) (items : List β) :
    (lastOfEachName nameOf items).Sublist items := by
  induction items with
  | nil => exact .slnil
  | cons item rest induction =>
    simp only [lastOfEachName]
    split
    · exact induction.cons _
    · exact induction.cons_cons _

theorem nodup_lastOfEachName (nameOf : β → String) (items : List β) :
    ((lastOfEachName nameOf items).map nameOf).Nodup := by
  induction items with
  | nil => exact List.nodup_nil
  | cons item rest induction =>
    simp only [lastOfEachName]
    split
    · exact induction
    · rename_i fresh
      refine List.nodup_cons.mpr ⟨fun member => fresh ?_, induction⟩
      exact ((lastOfEachName_sublist nameOf rest).map nameOf).subset member

theorem lastOfEachName_eq_self {nameOf : β → String} {items : List β}
    (distinct : (items.map nameOf).Nodup) : lastOfEachName nameOf items = items := by
  induction items with
  | nil => rfl
  | cons item rest induction =>
    obtain ⟨fresh, distinctRest⟩ := List.nodup_cons.mp distinct
    rw [lastOfEachName, if_neg fresh, induction distinctRest]

/-- Values inserted one after the other: the last of each name, beside the earlier entries that none
replaces. -/
theorem foldl_insert_perm (nameOf : β → String) (valueOf : β → α) (items : List β)
    (ascending : Ascending map) :
    (items.foldl (fun entries item => insert (nameOf item) (valueOf item) entries) map).Perm
      ((lastOfEachName nameOf items).map (fun item => (nameOf item, valueOf item)) ++
        map.filter fun entry => entry.1 ∉ items.map nameOf) := by
  induction items generalizing map with
  | nil => simp [lastOfEachName]
  | cons item rest induction =>
    let kept (entry : String × α) : Bool := entry.1 ∉ rest.map nameOf
    have inserted : ((insert (nameOf item) (valueOf item) map).filter kept).Perm
        (((nameOf item, valueOf item) :: erase (nameOf item) map).filter kept) :=
      (insert_perm ascending).filter kept
    have others : (erase (nameOf item) map).filter kept =
        map.filter fun entry => entry.1 ∉ (item :: rest).map nameOf := by
      rw [erase, List.filter_filter]
      refine List.filter_congr fun entry _ => ?_
      by_cases same : entry.1 = nameOf item <;> simp [same, kept]
    refine (induction ascending.insert).trans ?_
    by_cases replaced : nameOf item ∈ rest.map nameOf
    · rw [List.filter_cons_of_neg (by simpa [kept] using replaced), others] at inserted
      rw [lastOfEachName, if_pos replaced]
      exact inserted.append_left _
    · rw [List.filter_cons_of_pos (by simpa [kept] using replaced), others] at inserted
      rw [lastOfEachName, if_neg replaced]
      exact (inserted.append_left _).trans List.perm_middle

end NameMap

/-! ## Reading the documents -/

theorem mapM_map_of_reads {α β γ : Type} {write : α → β} {read : β → Option γ} {meaning : α → γ}
    (reads : ∀ item, read (write item) = some (meaning item)) (items : List α) :
    (items.map write).mapM read = some (items.map meaning) := by
  rw [List.mapM_map, show read ∘ write = fun item => pure (meaning item) from funext reads]
  exact List.mapM_pure

namespace Yaml.Value

def text? : Value → Option String
  | text content => some content
  | _ => none

def number? : Value → Option Nat
  | number value => some value
  | _ => none

def flag? : Value → Option Bool
  | flag value => some value
  | _ => none

def items? : Value → Option (List Value)
  | sequence items => some items
  | _ => none

def entries? : Value → Option (List (String × Value))
  | mapping fields => some fields
  | _ => none

def texts? (value : Value) : Option (List String) := value.items?.bind (List.mapM text?)

theorem texts?_texts (contents : List String) : (texts contents).texts? = some contents := by
  have one (content : String) : (text content).text? = some (id content) := rfl
  have all := mapM_map_of_reads one contents
  rwa [List.map_id] at all

def optionalText (name : String) (value : Value) : Option (Option String) :=
  match value.field? name with
  | none => some none
  | some content => content.text?.map some

def listedTexts (name : String) (value : Value) : Option (List String) :=
  match value.field? name with
  | none => some []
  | some contents => contents.texts?

theorem optionalText_of_field? {name : String} {value : Value} {content : Option String}
    (field : value.field? name = content.map text) :
    value.optionalText name = some content := by
  rw [optionalText, field]
  cases content <;> rfl

theorem listedTexts_of_field? {name : String} {value : Value} {contents : List String}
    (field : value.field? name = if contents = [] then none else some (texts contents)) :
    value.listedTexts name = some contents := by
  rw [listedTexts, field]
  by_cases empty : contents = []
  · rw [if_pos empty, empty]
  · rw [if_neg empty]
    exact texts?_texts contents

/-! ### Fields of a mapping -/

variable {name other : String} {value : Value} {fields rest : List (String × Value)}

@[simp] theorem field?_cons : (mapping ((other, value) :: rest)).field? name =
    if other = name then some value else (mapping rest).field? name := by
  by_cases same : other = name <;> simp [field?, same]

@[simp] theorem field?_append : (mapping (fields ++ rest)).field? name =
    ((mapping fields).field? name).or ((mapping rest).field? name) := by
  simp only [field?, List.find?_append]
  cases fields.find? (·.1 == name) <;> rfl

@[simp] theorem field?_nil : (mapping []).field? name = none := rfl

open BootConfig in
@[simp] theorem field?_optionalField (content : Option String) :
    (mapping (optionalField other content)).field? name =
      if other = name then content.map text else none := by
  cases content with
  | none => simp [optionalField, field?_nil]
  | some content => simp [optionalField, field?_cons, field?_nil]

open BootConfig in
@[simp] theorem field?_listField (contents : List String) :
    (mapping (listField other contents)).field? name =
      if other = name then (if contents = [] then none else some (texts contents)) else none := by
  cases contents with
  | nil => simp [listField, field?_nil]
  | cons first contents => simp [listField, field?_cons, field?_nil]

end Yaml.Value

namespace BootConfig.Network

open Yaml (Value)

structure InterfaceRecord where
  name : String
  addressing : Addressing
  deriving DecidableEq, Repr

def addressingOfSubnet (subnet : Value) : Option Addressing := do
  match ← (← subnet.field? "type").text? with
  | "dhcp" => return .dhcp
  | "static" =>
    let address ← (← subnet.field? "address").text?
    let gateway ← subnet.optionalText "gateway"
    let nameservers ← subnet.listedTexts "dns_nameservers"
    let search ← subnet.listedTexts "dns_search"
    return .static address gateway nameservers search
  | _ => none

def recordOfPhysical (item : Value) : Option InterfaceRecord := do
  let "physical" ← (← item.field? "type").text? | none
  let name ← (← item.field? "name").text?
  let [subnet] ← (← item.field? "subnets").items? | none
  return ⟨name, ← addressingOfSubnet subnet⟩

def recordsOfFirst (document : Value) : Option (List InterfaceRecord) := do
  let 1 ← (← document.field? "version").number? | none
  (← (← document.field? "config").items?).mapM recordOfPhysical

def gatewayOfRoutes (ethernet : Value) : Option (Option String) :=
  match ethernet.field? "routes" with
  | none => some none
  | some routes => do
    let [route] ← routes.items? | none
    let "default" ← (← route.field? "to").text? | none
    return some (← (← route.field? "via").text?)

def namesOfNameservers (ethernet : Value) : Option (List String × List String) :=
  match ethernet.field? "nameservers" with
  | none => some ([], [])
  | some nameservers => do
    return (← nameservers.listedTexts "addresses", ← nameservers.listedTexts "search")

def addressingOfEthernet (ethernet : Value) : Option Addressing := do
  if ← (← ethernet.field? "dhcp4").flag? then
    return .dhcp
  else
    let [address] ← (← ethernet.field? "addresses").texts? | none
    let gateway ← gatewayOfRoutes ethernet
    let (nameservers, search) ← namesOfNameservers ethernet
    return .static address gateway nameservers search

def recordOfEntry (entry : String × Value) : Option InterfaceRecord := do
  return ⟨entry.1, ← addressingOfEthernet entry.2⟩

def recordsOfSecond (document : Value) : Option (List InterfaceRecord) := do
  let 2 ← (← document.field? "version").number? | none
  (← (← document.field? "ethernets").entries?).mapM recordOfEntry

def record (interface : NetworkInterface) : InterfaceRecord :=
  ⟨interface.name, interface.addressing⟩

theorem addressingOfSubnet_subnet (addressing : Addressing) :
    addressingOfSubnet (subnet addressing) = some addressing := by
  cases addressing with
  | dhcp => rfl
  | static address gateway nameservers search =>
    let written := subnet (.static address gateway nameservers search)
    have readGateway : written.optionalText "gateway" = some gateway :=
      Value.optionalText_of_field? (by simp [written, subnet])
    have readNameservers : written.listedTexts "dns_nameservers" = some nameservers :=
      Value.listedTexts_of_field? (by simp [written, subnet])
    have readSearch : written.listedTexts "dns_search" = some search :=
      Value.listedTexts_of_field? (by simp [written, subnet])
    change addressingOfSubnet written = _
    unfold addressingOfSubnet
    rw [readGateway, readNameservers, readSearch]
    simp [written, subnet, Value.text?]

theorem recordOfPhysical_physical (interface : NetworkInterface) :
    recordOfPhysical (physical interface) = some (record interface) := by
  simp [recordOfPhysical, physical, record, Value.text?, Value.items?, addressingOfSubnet_subnet]

/-! ### The second schema -/

@[simp] theorem field?_routesField (name : String) (gateway : Option String) :
    (Value.mapping (routesField gateway)).field? name =
      if "routes" = name then
        gateway.map fun via =>
          .sequence [.mapping [("to", .text "default"), ("via", .text via)]]
      else none := by
  cases gateway <;> simp [routesField]

@[simp] theorem field?_nameserversField (name : String) (nameservers search : List String) :
    (Value.mapping (nameserversField nameservers search)).field? name =
      if "nameservers" = name then
        if nameservers = [] ∧ search = [] then none
        else
          some (.mapping (listField "addresses" nameservers ++ listField "search" search))
      else none := by
  by_cases empty : nameservers = [] ∧ search = []
  · simp [nameserversField, empty]
  · simp [nameserversField, empty]

theorem gatewayOfRoutes_ethernet (address : String) (gateway : Option String)
    (nameservers search : List String) :
    gatewayOfRoutes (ethernet (.static address gateway nameservers search)) = some gateway := by
  cases gateway <;> simp [gatewayOfRoutes, ethernet, Value.items?, Value.text?]

theorem namesOfNameservers_ethernet (address : String) (gateway : Option String)
    (nameservers search : List String) :
    namesOfNameservers (ethernet (.static address gateway nameservers search)) =
      some (nameservers, search) := by
  by_cases empty : nameservers = [] ∧ search = []
  · simp [namesOfNameservers, ethernet, empty]
  · have readAddresses :
        (Value.mapping (listField "addresses" nameservers ++
          listField "search" search)).listedTexts "addresses" = some nameservers :=
      Value.listedTexts_of_field? (by simp)
    have readSearch :
        (Value.mapping (listField "addresses" nameservers ++
          listField "search" search)).listedTexts "search" = some search :=
      Value.listedTexts_of_field? (by simp)
    simp [namesOfNameservers, ethernet, empty, readAddresses, readSearch]

theorem addressingOfEthernet_ethernet (addressing : Addressing) :
    addressingOfEthernet (ethernet addressing) = some addressing := by
  cases addressing with
  | dhcp => rfl
  | static address gateway nameservers search =>
    unfold addressingOfEthernet
    rw [gatewayOfRoutes_ethernet, namesOfNameservers_ethernet]
    simp [ethernet, Value.flag?, Value.texts?_texts]

def entryOf (interface : NetworkInterface) : String × Value :=
  (interface.name, ethernet interface.addressing)

theorem recordOfEntry_entryOf (interface : NetworkInterface) :
    recordOfEntry (entryOf interface) = some (record interface) := by
  simp [recordOfEntry, entryOf, record, addressingOfEthernet_ethernet]

/-- The second document holds, in the order of their names, the interfaces that no later one of the
same name replaces. -/
theorem ethernets_eq_map (interfaces : List NetworkInterface) :
    ∃ held : List NetworkInterface, ethernets interfaces = held.map entryOf ∧
      held.Perm (NameMap.lastOfEachName (·.name) interfaces) := by
  have collected := NameMap.foldl_insert_perm NetworkInterface.name
    (fun interface => ethernet interface.addressing) interfaces
    (List.Pairwise.nil : NameMap.Ascending [])
  rw [List.filter_nil, List.append_nil] at collected
  have ordered := List.eq_map_comp_perm entryOf
  exact (congrFun (congrFun ordered _) _).mpr collected

/-! ### The documents of a machine -/

theorem recordsOfFirst_document {interfaces : List NetworkInterface}
    {fields : List (String × Value)} (written : document interfaces 1 = .ok fields) :
    recordsOfFirst (.mapping fields) = some (interfaces.map record) := by
  obtain rfl := Except.ok.inj written
  change (interfaces.map physical).mapM recordOfPhysical = _
  exact mapM_map_of_reads recordOfPhysical_physical interfaces

theorem recordsOfSecond_document {interfaces : List NetworkInterface}
    {fields : List (String × Value)} (written : document interfaces 2 = .ok fields) :
    ∃ records, recordsOfSecond (.mapping fields) = some records ∧
      records.Perm ((NameMap.lastOfEachName (·.name) interfaces).map record) := by
  obtain rfl := Except.ok.inj written
  obtain ⟨held, entries, order⟩ := ethernets_eq_map interfaces
  refine ⟨held.map record, ?_, order.map record⟩
  change (ethernets interfaces).mapM recordOfEntry = _
  rw [entries]
  exact mapM_map_of_reads recordOfEntry_entryOf held

/-- One record of each name is all of them exactly when no name is repeated. -/
theorem perm_records_iff {interfaces : List NetworkInterface} {records : List InterfaceRecord}
    (read : records.Perm ((NameMap.lastOfEachName (·.name) interfaces).map record)) :
    records.Perm (interfaces.map record) ↔ (interfaces.map (·.name)).Nodup := by
  constructor
  · intro all
    have names := (read.symm.trans all).map InterfaceRecord.name
    rw [List.map_map, List.map_map] at names
    exact names.nodup_iff.mp (NameMap.nodup_lastOfEachName NetworkInterface.name interfaces)
  · intro distinct
    rwa [NameMap.lastOfEachName_eq_self distinct] at read

end BootConfig.Network

namespace Machine

/-! ## Names of interfaces -/

/-- Two interfaces are under one name: the one is given it, by itself or by the shared interface,
and the other is given it too or takes it from its position. -/
def NamesCollide (shared : InterfaceDeclaration) (declared : List InterfaceDeclaration) : Prop :=
  ∃ i j first second, i ≠ j ∧ declared[i]? = some first ∧ declared[j]? = some second ∧
    (shared.overlay first).name = some (resolveInterface j (shared.overlay second)).name

theorem interfaces_of_resolve {environment : Environment} {declaration : MachineDeclaration}
    {machine : Machine} (resolved : resolve environment declaration = .ok machine) :
    machine.interfaces = declaration.interfaces.mapIdx fun index interface =>
      resolveInterface index (environment.defaults.interfaces.overlay interface) := by
  obtain ⟨vmName, _, _, rfl⟩ := resolve_eq_ok_iff.mp resolved
  rfl

theorem resolveInterface_name_of_given {index : Nat} {merged : InterfaceDeclaration} {name : String}
    (given : merged.name = some name) : (resolveInterface index merged).name = name := by
  rw [resolveInterface, given, Option.getD_some]

theorem position_of_name {i j : Nat} {first second : InterfaceDeclaration}
    (unnamed : first.name = none) (otherUnnamed : second.name = none)
    (equal : (resolveInterface i first).name = (resolveInterface j second).name) : i = j := by
  rw [resolveInterface, resolveInterface, unnamed, otherUnnamed, Option.getD_none,
    Option.getD_none] at equal
  exact eq_of_toString_eq (String.append_right_inj _ |>.mp equal)

theorem nodup_names_iff {environment : Environment} {declaration : MachineDeclaration}
    {machine : Machine} (resolved : resolve environment declaration = .ok machine) :
    (machine.interfaces.map (·.name)).Nodup ↔
      ¬ NamesCollide environment.defaults.interfaces declaration.interfaces := by
  let given (interface : InterfaceDeclaration) : Option String :=
    (environment.defaults.interfaces.overlay interface).name
  let nameAt (index : Nat) (interface : InterfaceDeclaration) : String :=
    (resolveInterface index (environment.defaults.interfaces.overlay interface)).name
  have names : machine.interfaces.map (·.name) = declaration.interfaces.mapIdx nameAt := by
    rw [interfaces_of_resolve resolved]
    exact List.ext_getElem (by simp) fun index _ _ => by simp [nameAt]
  rw [names, List.Nodup, List.pairwise_iff_getElem]
  simp only [List.getElem_mapIdx, List.length_mapIdx]
  constructor
  · rintro distinct ⟨i, j, first, second, different, atFirst, atSecond, firstGiven⟩
    obtain ⟨boundFirst, rfl⟩ := List.getElem?_eq_some_iff.mp atFirst
    obtain ⟨boundSecond, rfl⟩ := List.getElem?_eq_some_iff.mp atSecond
    have equal : nameAt i declaration.interfaces[i] = nameAt j declaration.interfaces[j] :=
      resolveInterface_name_of_given firstGiven
    rcases Nat.lt_or_gt_of_ne different with before | after
    · exact distinct i j boundFirst boundSecond before equal
    · exact distinct j i boundSecond boundFirst after equal.symm
  · intro apart i j boundFirst boundSecond before equal
    have atFirst := List.getElem?_eq_getElem boundFirst
    have atSecond := List.getElem?_eq_getElem boundSecond
    -- One of the two is given its name, or both take it from their position.
    cases firstGiven : given declaration.interfaces[i] with
    | some name =>
      apply apart
      refine ⟨i, j, _, _, before.ne, atFirst, atSecond, firstGiven.trans ?_⟩
      exact congrArg some ((resolveInterface_name_of_given firstGiven).symm.trans equal)
    | none =>
      cases secondGiven : given declaration.interfaces[j] with
      | some name =>
        apply apart
        refine ⟨j, i, _, _, before.ne', atSecond, atFirst, secondGiven.trans ?_⟩
        exact congrArg some ((resolveInterface_name_of_given secondGiven).symm.trans equal.symm)
      | none => exact before.ne (position_of_name firstGiven secondGiven equal)

/-! ## Both documents of a machine -/

open BootConfig Network Yaml

/-- Of a machine that is accepted both documents are written. The first is read back to all its
interfaces in order. The second is read back to the last interface of each name, which are all of
them exactly when no two are under one name. -/
theorem network_documents_read_back {environment : Environment} {declaration : MachineDeclaration}
    {machine : Machine} (resolved : resolve environment declaration = .ok machine)
    (read : String → Option Value)
    (reads : ∀ version fields, Network.document machine.interfaces version = .ok fields →
      read (Value.document fields) = some (.mapping fields)) :
    ∃ first second records,
      networkConfig machine 1 = .ok first ∧ networkConfig machine 2 = .ok second ∧
      (read first).bind recordsOfFirst = some (machine.interfaces.map record) ∧
      (read second).bind recordsOfSecond = some records ∧
      records.Perm ((NameMap.lastOfEachName (·.name) machine.interfaces).map record) ∧
      (records.Perm (machine.interfaces.map record) ↔
        ¬ NamesCollide environment.defaults.interfaces declaration.interfaces) := by
  obtain ⟨firstFields, firstWritten⟩ :
      ∃ fields, Network.document machine.interfaces 1 = .ok fields := ⟨_, rfl⟩
  obtain ⟨secondFields, secondWritten⟩ :
      ∃ fields, Network.document machine.interfaces 2 = .ok fields := ⟨_, rfl⟩
  obtain ⟨records, secondRead, held⟩ := recordsOfSecond_document secondWritten
  refine ⟨Value.document firstFields, Value.document secondFields, records, ?_, ?_, ?_, ?_, held,
    (perm_records_iff held).trans (nodup_names_iff resolved)⟩
  · rw [networkConfig, firstWritten]
    rfl
  · rw [networkConfig, secondWritten]
    rfl
  · rw [reads 1 firstFields firstWritten]
    exact recordsOfFirst_document firstWritten
  · rw [reads 2 secondFields secondWritten]
    exact secondRead

/-! ### Two machines -/

def readerOf (documents : List (List (String × Value))) (text : String) : Option Value :=
  (documents.find? fun fields => Value.document fields == text).map .mapping

theorem readerOf_document {documents : List (List (String × Value))}
    (apart : (documents.map Value.document).Nodup) {fields : List (String × Value)}
    (member : fields ∈ documents) :
    readerOf documents (Value.document fields) = some (.mapping fields) := by
  unfold readerOf
  cases found : documents.find? fun other => Value.document other == Value.document fields with
  | none => exact absurd (List.find?_eq_none.mp found fields member) (by simp)
  | some other =>
    have same := List.find?_some found
    rw [List.inj_on_of_nodup_map apart (List.mem_of_find?_eq_some found) member (eq_of_beq same)]
    rfl

def networkFields (interfaces : List NetworkInterface) : List (List (String × Value)) :=
  [[("version", .number 1), ("config", .sequence (interfaces.map physical))],
    [("version", .number 2), ("ethernets", .mapping (ethernets interfaces))]]

theorem readerOf_networkFields {interfaces : List NetworkInterface}
    (apart : ((networkFields interfaces).map Value.document).Nodup) (version : Nat)
    (fields : List (String × Value)) (written : Network.document interfaces version = .ok fields) :
    readerOf (networkFields interfaces) (Value.document fields) = some (.mapping fields) := by
  refine readerOf_document apart ?_
  unfold Network.document at written
  split at written
  · obtain rfl := Except.ok.inj written
    exact List.mem_cons_self
  · obtain rfl := Except.ok.inj written
    exact List.mem_cons_of_mem _ List.mem_cons_self
  · cases written

def twoNetworks : MachineDeclaration where
  vmName := some "web"
  interfaces := [
    { name := some "lan", address := some "10.0.0.11/24", gateway := some "10.0.0.1",
      nameservers := some { addresses := ["10.0.0.1"], search := ["lab.local"] } },
    { network := some "storage" }]

theorem two_networks_read_back :
    ∃ machine, resolve pairEnvironment twoNetworks = .ok machine ∧
      ∃ first second records,
        networkConfig machine 1 = .ok first ∧ networkConfig machine 2 = .ok second ∧
        (readerOf (networkFields machine.interfaces) first).bind recordsOfFirst =
          some (machine.interfaces.map record) ∧
        (readerOf (networkFields machine.interfaces) second).bind recordsOfSecond =
          some records ∧
        records.Perm (machine.interfaces.map record) := by
  obtain ⟨machine, resolved⟩ : ∃ machine, resolve pairEnvironment twoNetworks = .ok machine :=
    ⟨_, rfl⟩
  have apart : ((networkFields machine.interfaces).map Value.document).Nodup := by
    obtain rfl := Except.ok.inj resolved
    decide +kernel
  obtain ⟨first, second, records, firstWritten, secondWritten, firstRead, secondRead, _, all⟩ :=
    network_documents_read_back resolved _ (readerOf_networkFields apart)
  refine ⟨machine, resolved, first, second, records, firstWritten, secondWritten, firstRead,
    secondRead, all.mpr ?_⟩
  apply (nodup_names_iff resolved).mp
  obtain rfl := Except.ok.inj resolved
  decide +kernel

def sharedName : MachineDeclaration where
  vmName := some "web"
  interfaces := [{ name := some "eth1", address := some "10.0.0.11/24" }, {}]

/-- The second document of this machine holds one of its two interfaces, also for a reader of both
its documents; the first holds both. -/
theorem shared_name_lost :
    ∃ machine, resolve pairEnvironment sharedName = .ok machine ∧
      (∀ version fields, Network.document machine.interfaces version = .ok fields →
        readerOf (networkFields machine.interfaces) (Value.document fields) =
          some (.mapping fields)) ∧
      machine.interfaces.map record =
        [⟨"eth1", .static "10.0.0.11/24" none [] []⟩, ⟨"eth1", .dhcp⟩] ∧
      ∃ second, networkConfig machine 2 = .ok second ∧
        (readerOf (networkFields machine.interfaces) second).bind recordsOfSecond =
          some [⟨"eth1", .dhcp⟩] := by
  obtain ⟨machine, resolved⟩ : ∃ machine, resolve pairEnvironment sharedName = .ok machine :=
    ⟨_, rfl⟩
  have apart : ((networkFields machine.interfaces).map Value.document).Nodup := by
    obtain rfl := Except.ok.inj resolved
    decide +kernel
  have reads := readerOf_networkFields apart
  refine ⟨machine, resolved, reads, ?_, _, rfl, ?_⟩
  · obtain rfl := Except.ok.inj resolved
    rfl
  · rw [reads 2 _ rfl]
    obtain rfl := Except.ok.inj resolved
    decide +kernel

end Machine

end VirtualLab
