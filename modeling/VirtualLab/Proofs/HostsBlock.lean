import VirtualLab.Hosts
import VirtualLab.Proofs.Listings

/-!
# The hosts block read back

The lines between the comments of a hosts block are the entries' own, and each is cut back into the
address and the names it was written from. So whoever reads the block finds the machines: one entry,
in their order, for each whose first interface is static, and no other.
-/

namespace VirtualLab

/-! ## Cutting a line into its fields -/

namespace Text

/-- A way to cut a line that parts words at the spaces between them. -/
structure CutsAtSpaces (fields : List Char → List (List Char)) : Prop where
  space : ∀ left right, fields (left ++ ' ' :: right) = fields left ++ fields right
  word : ∀ word, IsWord word → fields word = [word]

variable {word : List Char}

theorem cutsAtSpaces_pieces : CutsAtSpaces (pieces (· == ' ')) where
  space := pieces_append_separator rfl
  word _ isWord := pieces_of_plain (no_separator_of_notMem (isWord.notMem (by decide)))

theorem cutsAtSpaces_words : CutsAtSpaces words where
  space _ _ := words_append_blank (by decide)
  word _ isWord := words_of_plain isWord.nonempty isWord.plain

theorem dropEnding_of_isWord {ending : Char} (blank : isBlank ending = true) (isWord : IsWord word)
    (left : List Char) : dropEnding ending (left ++ word) = left ++ word := by
  rw [dropEnding, List.getLast?_append_of_ne_nil _ isWord.nonempty, if_neg]
  exact fun last => isWord.notMem blank (List.mem_of_mem_getLast? last)

end Text

namespace HostsEntry

variable {fields : List Char → List (List Char)} {entry : HostsEntry} {entries : List HostsEntry}

/-! ## Reading a block -/

def ofLine (fields : List Char → List (List Char)) (line : List Char) : Option HostsEntry :=
  match fields line with
  | [ip4, name] => some ⟨String.ofList ip4, String.ofList name, String.ofList name⟩
  | [ip4, fqdn, hostname] =>
    some ⟨String.ofList ip4, String.ofList fqdn, String.ofList hostname⟩
  | _ => none

def ofBlock (fields : List Char → List (List Char)) (block : String) : Option (List HostsEntry) :=
  (Text.lines block.toList).tail.dropLast.mapM (ofLine fields)

structure Legible (entry : HostsEntry) : Prop where
  ip4 : Text.IsWord entry.ip4.toList
  fqdn : Text.IsWord entry.fqdn.toList
  hostname : Text.IsWord entry.hostname.toList

/-! ### One line -/

/-- A line has the short name at its end, and the address before it, or the address and the long
name where that differs. -/
theorem exists_line (entry : HostsEntry) :
    ∃ front, entry.line.toList = front ++ ' ' :: entry.hostname.toList ∧
      (front = entry.ip4.toList ∧ entry.fqdn = entry.hostname ∨
        front = entry.ip4.toList ++ ' ' :: entry.fqdn.toList) := by
  unfold line
  split
  · rename_i same
    exact ⟨_, by simp, .inl ⟨rfl, same⟩⟩
  · exact ⟨_, by simp, .inr rfl⟩

theorem ofLine_line (cuts : Text.CutsAtSpaces fields) (legible : entry.Legible) :
    ofLine fields entry.line.toList = some entry := by
  obtain ⟨front, written, ⟨rfl, same⟩ | rfl⟩ := entry.exists_line
  · have cut : fields entry.line.toList = [entry.ip4.toList, entry.hostname.toList] := by
      rw [written, cuts.space, cuts.word _ legible.ip4, cuts.word _ legible.hostname]
      rfl
    obtain ⟨ip4, fqdn, hostname⟩ := entry
    cases same
    simp [ofLine, cut]
  · have cut : fields entry.line.toList =
        [entry.ip4.toList, entry.fqdn.toList, entry.hostname.toList] := by
      rw [written, cuts.space, cuts.space, cuts.word _ legible.ip4, cuts.word _ legible.fqdn,
        cuts.word _ legible.hostname]
      rfl
    simp [ofLine, cut]

theorem Legible.oneLine (legible : entry.Legible) : '\n' ∉ entry.line.toList := by
  have feed : Text.isBlank '\n' = true := by decide
  obtain ⟨front, written, ⟨rfl, -⟩ | rfl⟩ := entry.exists_line <;> rw [written] <;>
    simp [legible.ip4.notMem feed, legible.fqdn.notMem feed, legible.hostname.notMem feed]

theorem Legible.dropEnding_line (legible : entry.Legible) :
    Text.dropEnding '\r' entry.line.toList = entry.line.toList := by
  obtain ⟨front, written, -⟩ := entry.exists_line
  rw [written, List.append_cons, Text.dropEnding_of_isWord (by decide) legible.hostname]

/-! ### The whole block -/

def blockLines (environment : String) (entries : List HostsEntry) : List (List Char) :=
  ("# BEGIN lvlab " ++ environment).toList ::
    (entries.map (·.line.toList) ++ [("# END lvlab " ++ environment).toList])

theorem toList_lines (entries : List HostsEntry) :
    (String.join (entries.map fun entry => entry.line ++ "\n")).toList =
      (entries.map (·.line.toList)).flatMap (· ++ ['\n']) := by
  rw [String.toList_join, List.flatMap_map, List.flatMap_map]
  simp only [String.toList_append]
  rfl

theorem toList_block (environment : String) (entries : List HostsEntry) :
    (block environment entries).toList =
      (blockLines environment entries).flatMap (· ++ ['\n']) := by
  unfold block blockLines
  -- What the comments say plays no part; as literals they would be spelled out.
  generalize "# BEGIN lvlab " = opening
  generalize "# END lvlab " = closing
  rw [List.flatMap_cons, List.flatMap_append, List.flatMap_singleton, ← toList_lines]
  simp only [String.toList_append, List.append_assoc]
  rfl

theorem blockLines_plain {environment : String} (oneLine : '\n' ∉ environment.toList)
    (legible : ∀ entry ∈ entries, entry.Legible) :
    ∀ line ∈ blockLines environment entries, '\n' ∉ line := by
  have marked (mark : String) (plain : '\n' ∉ mark.toList) :
      '\n' ∉ (mark ++ environment).toList := by
    rw [String.toList_append, List.mem_append, not_or]
    exact ⟨plain, oneLine⟩
  refine List.forall_mem_cons.mpr ⟨marked _ (by decide), List.forall_mem_append.mpr ⟨?_, ?_⟩⟩
  · intro line member
    obtain ⟨entry, listed, rfl⟩ := List.mem_map.mp member
    exact (legible entry listed).oneLine
  · exact List.forall_mem_singleton.mpr (marked _ (by decide))

theorem ofBlock_block (cuts : Text.CutsAtSpaces fields) {environment : String}
    (oneLine : '\n' ∉ environment.toList) (legible : ∀ entry ∈ entries, entry.Legible) :
    ofBlock fields (block environment entries) = some entries := by
  have lines := Text.lines_flatMap (blockLines_plain oneLine legible) []
  rw [List.append_nil, ← toList_block] at lines
  have between : (Text.lines (block environment entries).toList).tail.dropLast =
      entries.map (·.line.toList) := by
    rw [lines, blockLines, List.map_cons, List.map_append, List.cons_append, List.tail_cons,
      List.map_singleton, show Text.lines [] = [] from rfl, List.append_nil, List.dropLast_concat,
      List.map_map]
    exact List.map_congr_left fun entry listed => (legible entry listed).dropEnding_line
  rw [ofBlock, between, mapM_map_eq_some_iff]
  exact fun entry listed => ofLine_line cuts (legible entry listed)

end HostsEntry

/-! ## The machines of a block -/

def Machine.HasFirstAddress (machine : Machine) (address : String) : Prop :=
  ∃ interface ∈ machine.interfaces.head?, ∃ gateway nameservers search,
    interface.addressing = .static address gateway nameservers search

def IsHostPart (address ip4 : String) : Prop :=
  '/' ∉ ip4.toList ∧ (address = ip4 ∨ ∃ length, address = ip4 ++ "/" ++ length)

theorem isHostPart_before (address : String) :
    IsHostPart address (String.ofList (Text.before '/' address.toList)) := by
  have split := List.takeWhile_append_dropWhile (p := (· != '/')) (l := address.toList)
  refine ⟨fun member => ?_, ?_⟩
  · rw [String.toList_ofList] at member
    simpa using List.mem_takeWhile_imp member
  · cases rest : address.toList.dropWhile (· != '/') with
    | nil =>
      left
      rw [rest, List.append_nil] at split
      rw [Text.before, split, String.ofList_toList]
    | cons slash length =>
      right
      have isSlash : slash = '/' := by
        have ends := List.head?_dropWhile_not (· != '/') address.toList
        rw [rest] at ends
        simpa using ends
      refine ⟨String.ofList length, ?_⟩
      rw [← String.toList_inj]
      rw [rest, isSlash] at split
      simp [Text.before, split]

theorem IsHostPart.subset {address ip4 : String} (host : IsHostPart address ip4) :
    ip4.toList ⊆ address.toList := by
  obtain ⟨-, rfl | ⟨length, rfl⟩⟩ := host
  · exact List.Subset.refl _
  · simp

structure Machine.Legible (machine : Machine) : Prop where
  fqdn : Text.IsWord machine.fqdn.toList
  hostname : Text.IsWord machine.hostname.toList
  address : ∀ address, machine.HasFirstAddress address →
    ∀ character ∈ address.toList, Text.isBlank character = false
  host : ∀ address, machine.HasFirstAddress address → ∀ ip4, IsHostPart address ip4 → ip4 ≠ ""

namespace HostsEntry

/-- The entries that some machines are to have: in their order one for each whose first interface is
static. -/
inductive Published : List Machine → List HostsEntry → Prop
  | none : Published [] []
  | skipped {machine : Machine} {machines : List Machine} {entries : List HostsEntry}
      (noAddress : ∀ interface ∈ machine.interfaces.head?, interface.addressing = .dhcp)
      (others : Published machines entries) : Published (machine :: machines) entries
  | listed {machine : Machine} {machines : List Machine} {entries : List HostsEntry}
      {address ip4 : String} (first : machine.HasFirstAddress address)
      (host : IsHostPart address ip4) (others : Published machines entries) :
      Published (machine :: machines) (⟨ip4, machine.fqdn, machine.hostname⟩ :: entries)

variable {machines : List Machine} {entries : List HostsEntry}

theorem ofMachine_cases (machine : Machine) :
    (∀ interface ∈ machine.interfaces.head?, interface.addressing = .dhcp) ∧
        ofMachine machine = none ∨
      ∃ address ip4, machine.HasFirstAddress address ∧ IsHostPart address ip4 ∧
        ofMachine machine = some ⟨ip4, machine.fqdn, machine.hostname⟩ := by
  cases first : machine.interfaces.head? with
  | none => exact .inl ⟨nofun, by simp [ofMachine, first]⟩
  | some interface =>
    cases addressing : interface.addressing with
    | dhcp => exact .inl ⟨by simpa using addressing,
        by simp [ofMachine, first, NetworkInterface.ip4, addressing]⟩
    | static address gateway nameservers search =>
      exact .inr ⟨address, _, ⟨interface, first, gateway, nameservers, search, addressing⟩,
        isHostPart_before address, by simp [ofMachine, first, NetworkInterface.ip4, addressing]⟩

theorem published_ofMachines (machines : List Machine) :
    Published machines (ofMachines machines) := by
  induction machines with
  | nil => exact .none
  | cons machine others induction =>
    rcases ofMachine_cases machine with ⟨noAddress, none⟩ | ⟨address, ip4, first, host, entry⟩
    · rw [ofMachines, List.filterMap_cons_none none]
      exact .skipped noAddress induction
    · rw [ofMachines, List.filterMap_cons_some entry]
      exact .listed first host induction

theorem legible_of_published (published : Published machines entries)
    (legible : ∀ machine ∈ machines, machine.Legible) : ∀ entry ∈ entries, entry.Legible := by
  induction published with
  | none => simp
  | skipped _ _ induction => exact induction (List.forall_mem_cons.mp legible).2
  | listed first host _ induction =>
    obtain ⟨machineLegible, othersLegible⟩ := List.forall_mem_cons.mp legible
    refine List.forall_mem_cons.mpr ⟨⟨⟨?_, ?_⟩, machineLegible.fqdn, machineLegible.hostname⟩,
      induction othersLegible⟩
    · simpa using machineLegible.host _ first _ host
    · exact fun character member =>
        machineLegible.address _ first character (host.subset member)

/-- The lines between the first and the last of the hosts block, cut at their spaces, give the
machines whose first interface is static, in their order, and no others; it makes no difference if
they are cut at any run of blanks. -/
theorem block_lists_machines (environment : String) (machines : List Machine)
    (oneLine : '\n' ∉ environment.toList) (legible : ∀ machine ∈ machines, machine.Legible) :
    ∃ entries, Published machines entries ∧
      ofBlock (Text.pieces (· == ' ')) (block environment (ofMachines machines)) = some entries ∧
      ofBlock Text.words (block environment (ofMachines machines)) = some entries := by
  have published := published_ofMachines machines
  have entriesLegible := legible_of_published published legible
  exact ⟨_, published, ofBlock_block Text.cutsAtSpaces_pieces oneLine entriesLegible,
    ofBlock_block Text.cutsAtSpaces_words oneLine entriesLegible⟩

/-! ### Machines of all kinds -/

def addressed (fqdn hostname : String) (addresses : List Addressing) : Machine where
  vmName := hostname
  hostname := hostname
  fqdn := fqdn
  os := "fedora40"
  cpus := 1
  memoryMib := 1024
  interfaces := addresses.map fun addressing => ⟨"eth0", "default", addressing⟩
  disks := []
  cloudInit := ⟨"lab", none, none, [], []⟩
  workDirectory := ⟨"/disks"⟩

/-- Two machines with an address, one under a single name, and two without. -/
def mixedMachines : List Machine := [
  addressed "web.lab" "web" [.static "10.0.0.11/24" none [] []],
  addressed "guest.lab" "guest" [.dhcp, .static "10.0.0.13" none [] []],
  addressed "db" "db" [.static "10.0.0.12" none [] [], .dhcp],
  addressed "lone" "lone" []]

theorem legible_addressed {fqdn hostname : String} {addresses : List Addressing}
    (long : Text.IsWord fqdn.toList) (short : Text.IsWord hostname.toList)
    (told : ∀ address gateway nameservers search,
      addresses.head? = some (.static address gateway nameservers search) →
        Text.IsWord address.toList ∧ address.toList.head? ≠ some '/') :
    (addressed fqdn hostname addresses).Legible := by
  have declared {address : String}
      (first : (addressed fqdn hostname addresses).HasFirstAddress address) :
      Text.IsWord address.toList ∧ address.toList.head? ≠ some '/' := by
    obtain ⟨interface, head, gateway, nameservers, search, static⟩ := first
    rw [addressed, List.head?_map] at head
    obtain ⟨addressing, stated, rfl⟩ := Option.map_eq_some_iff.mp head
    obtain rfl : addressing = .static address gateway nameservers search := static
    exact told address gateway nameservers search stated
  refine ⟨long, short, fun address first => (declared first).1.plain, ?_⟩
  rintro address first ip4 ⟨-, rfl | ⟨length, rfl⟩⟩ rfl
  · exact (declared first).1.nonempty rfl
  · exact (declared first).2 (by simp)

theorem legible_mixedMachines : ∀ machine ∈ mixedMachines, machine.Legible := by
  simp only [mixedMachines, List.forall_mem_cons]
  refine ⟨legible_addressed (by decide) (by decide) ?web,
    legible_addressed (by decide) (by decide) ?guest,
    legible_addressed (by decide) (by decide) ?database,
    legible_addressed (by decide) (by decide) ?lone, by simp⟩
  case web | database =>
    rintro _ _ _ _ ⟨⟩
    decide
  case guest | lone => rintro _ _ _ _ ⟨⟩

theorem mixed_machines_listed :
    block "lab" (ofMachines mixedMachines) =
      "# BEGIN lvlab lab\n10.0.0.11 web.lab web\n10.0.0.12 db\n# END lvlab lab\n" ∧
    ∃ entries, Published mixedMachines entries ∧
      ofBlock (Text.pieces (· == ' ')) (block "lab" (ofMachines mixedMachines)) = some entries ∧
      ofBlock Text.words (block "lab" (ofMachines mixedMachines)) = some entries :=
  ⟨by rfl, block_lists_machines "lab" mixedMachines (by decide) legible_mixedMachines⟩

end HostsEntry

end VirtualLab
