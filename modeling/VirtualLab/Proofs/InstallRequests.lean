import VirtualLab.Proofs.InstallOptions

/-!
# Requests read back

The arguments of the installation tool are read back to the request they were written for: its
single values, its disks in their order with the boot medium after them, its networks and the
directories it shares. The tool wants a comma in a property doubled and the arguments have it once,
so a request is read back exactly if there is no comma in a path, a network or a shared directory.
-/

namespace VirtualLab

/-! ## Numbers as they are written -/

namespace Text

theorem digitValue_of_isDigit {digit : Char} (isDigit : digit.isDigit = true) :
    digitValue digit = some (digit.toNat - '0'.toNat) ∧ digit.toNat - '0'.toNat < 10 := by
  obtain ⟨_, greatest⟩ := Char.isDigit_iff_toNat.mp isDigit
  have inRange : ('0' ≤ digit && digit ≤ '9') = true := by
    simpa [Char.isDigit, Char.le_def] using isDigit
  have nine : '9'.toNat = '0'.toNat + 9 := rfl
  exact ⟨by rw [digitValue, if_pos inRange], by omega⟩

theorem digitsValue_of_isDigit {digits : List Char} {value : Nat}
    (areDigits : ∀ digit ∈ digits, digit.isDigit = true) :
    digitsValue 10 value digits = some (Nat.ofDigitChars 10 digits value) := by
  induction digits generalizing value with
  | nil => rfl
  | cons digit digits induction =>
    obtain ⟨isDigit, others⟩ := List.forall_mem_cons.mp areDigits
    obtain ⟨shown, small⟩ := digitValue_of_isDigit isDigit
    rw [digitsValue, shown, Nat.ofDigitChars_cons]
    simp only [small, if_true]
    rw [induction others, Nat.mul_comm]

theorem readNatural_toString (number : Nat) :
    readNatural 10 (toString number).toList = some number := by
  have areDigits : ∀ digit ∈ Nat.toDigits 10 number, digit.isDigit = true :=
    fun digit member => Nat.isDigit_of_mem_toDigits (by decide) (by decide) member
  rw [Nat.toString_eq_repr, Nat.toList_repr, readNatural, if_neg (by simp),
    digitsValue_of_isDigit areDigits, Nat.ofDigitChars_ten_toDigits]

end Text

namespace InstallOptions

/-! ## Properties as they are written -/

def property (key content : String) : List Char := key.toList ++ '=' :: content.toList

def written : List (String × String) → List Char
  | [] => []
  | [(key, content)] => property key content
  | (key, content) :: next :: others => property key content ++ ',' :: written (next :: others)

/-- What some properties say under a key: the first of them that has it decides. -/
def contentOf (key : String) (given : List (List Char)) : Option String :=
  given.findSome? fun property => do
    let (name, content) ← Text.splitFirst ['='] property
    if name = key.toList then some (String.ofList content) else none

theorem propertyOf_eq (key value : String) :
    propertyOf key value = contentOf key (properties value.toList) := rfl

def PlainKey (key : String) : Prop := key.toList ≠ [] ∧ ',' ∉ key.toList ∧ '=' ∉ key.toList

instance (key : String) : Decidable (PlainKey key) := inferInstanceAs (Decidable (_ ∧ _))

section Properties

variable {key other content otherContent : String} {text rest first : List Char} {next : Char}
  {given others : List (List Char)} {pairs : List (String × String)}

@[simp] theorem contentOf_nil : contentOf key [] = none := rfl

theorem contentOf_property (plain : PlainKey other) :
    contentOf key (property other content :: given) =
      if other = key then some content else contentOf key given := by
  rw [contentOf, List.findSome?_cons, property, splitFirst_of_plain plain.2.2]
  by_cases same : other = key
  · simp [same]
  · simp [same, String.toList_inj, contentOf]

theorem exists_properties (text : List Char) : ∃ first others, properties text = first :: others := by
  fun_induction properties text with
  | case1 => exact ⟨_, _, rfl⟩
  | case2 rest induction =>
    obtain ⟨first, others, cut⟩ := induction
    exact ⟨_, _, by rw [cut, ahead]⟩
  | case3 => exact ⟨_, _, rfl⟩
  | case4 character rest _ _ induction =>
    obtain ⟨first, others, cut⟩ := induction
    exact ⟨_, _, by rw [cut, ahead]⟩

theorem properties_single (single : next ≠ ',') :
    properties (',' :: next :: rest) = [] :: properties (next :: rest) := by
  rw [properties]
  simp [single]

theorem properties_plain_append (plain : ',' ∉ text) (cut : properties rest = first :: others) :
    properties (text ++ rest) = (text ++ first) :: others := by
  induction text with
  | nil => exact cut
  | cons character text induction =>
    obtain ⟨different, plainText⟩ := List.ne_and_not_mem_of_not_mem_cons plain
    rw [List.cons_append, properties_cons different.symm, induction plainText]
    rfl

/-- A text that is cut off as a property has no comma, nor do commas come before it: what is lost
of doubled commas would have to come from what follows the text. -/
theorem plain_of_cut (commas : Nat) (single : next ≠ ',')
    (cut : properties (text ++ ',' :: next :: rest) =
      (List.replicate commas ',' ++ text) :: others) :
    commas = 0 ∧ ',' ∉ text := by
  fun_induction properties text generalizing commas others with
  | case1 =>
    rw [List.nil_append, properties_single single] at cut
    simpa using (List.cons.inj cut).1
  | case2 text induction =>
    -- One comma of the two is left, and the other has moved ahead of the text.
    have moved : List.replicate commas ',' ++ ',' :: ',' :: text =
        ',' :: (List.replicate (commas + 1) ',' ++ text) := by
      rw [← List.cons_append, ← List.replicate_succ, List.replicate_succ', List.replicate_succ',
        List.append_assoc, List.append_assoc]
      rfl
    obtain ⟨first, remaining, shown⟩ := exists_properties (text ++ ',' :: next :: rest)
    rw [List.cons_append, List.cons_append, properties, shown, ahead, moved] at cut
    have kept : first = List.replicate (commas + 1) ',' ++ text :=
      (List.cons.inj (List.cons.inj cut).1).2
    exact absurd (induction _ (kept ▸ shown)).1 (Nat.succ_ne_zero commas)
  | case3 text noneFollows _ =>
    cases text with
    | nil =>
      -- The last comma is doubled by the one that was to end the property.
      obtain ⟨first, remaining, shown⟩ := exists_properties rest
      rw [List.cons_append, List.nil_append, properties, properties_cons single, shown] at cut
      have member : next ∈ List.replicate commas ',' ++ [','] := by
        rw [← (List.cons.inj cut).1]
        simp
      simp [single] at member
    | cons character text =>
      have different : character ≠ ',' := fun equal => noneFollows text (equal ▸ rfl)
      rw [List.cons_append, List.cons_append, properties_single different] at cut
      simpa using (List.cons.inj cut).1
  | case4 character text _ different induction =>
    obtain ⟨first, remaining, shown⟩ := exists_properties (text ++ ',' :: next :: rest)
    rw [List.cons_append, properties_cons different, shown, ahead] at cut
    have kept := (List.cons.inj cut).1
    cases commas with
    | zero =>
      obtain rfl := (List.cons.inj kept).2
      exact ⟨rfl, by simpa [Ne.symm different] using (induction 0 shown).2⟩
    | succ commas => exact absurd (List.cons.inj kept).1 different

theorem exists_written (plain : PlainKey key) (content : String)
    (others : List (String × String)) :
    ∃ next tail, written ((key, content) :: others) = next :: tail ∧ next ≠ ',' := by
  obtain ⟨some, noComma, _⟩ := plain
  obtain ⟨next, tail, spelled⟩ := List.exists_cons_of_ne_nil some
  have single : next ≠ ',' := fun equal => noComma (by simp [spelled, equal])
  cases others with
  | nil => exact ⟨next, _, by rw [written, property, spelled, List.cons_append], single⟩
  | cons => exact ⟨next, _, by
      rw [written, property, spelled, List.cons_append, List.cons_append], single⟩

theorem not_mem_property (plainKey : PlainKey key) (plain : ',' ∉ content.toList) :
    ',' ∉ property key content := by
  simpa [property] using ⟨plainKey.2.1, plain⟩

theorem properties_of_plain (plain : ',' ∉ text) : properties text = [text] := by
  have cut : properties [] = [[]] := rfl
  simpa using properties_plain_append plain cut

theorem properties_written_cons (plainKey : PlainKey key) (plain : ',' ∉ content.toList)
    (plainOther : PlainKey other) :
    properties (written ((key, content) :: (other, otherContent) :: pairs)) =
      property key content :: properties (written ((other, otherContent) :: pairs)) := by
  obtain ⟨next, tail, begins, single⟩ := exists_written plainOther otherContent pairs
  rw [written, begins]
  exact properties_append (not_mem_property plainKey plain) single

/-- The content of the first of several properties is read back exactly if it has no comma. -/
theorem contentOf_written_iff (plainKey : PlainKey key) (plainOther : PlainKey other) :
    contentOf key (properties (written ((key, content) :: (other, otherContent) :: pairs))) =
        some content ↔
      ',' ∉ content.toList := by
  obtain ⟨next, tail, begins, single⟩ := exists_written plainOther otherContent pairs
  obtain ⟨first, others, cut⟩ := exists_properties (content.toList ++ ',' :: next :: tail)
  have whole : properties (written ((key, content) :: (other, otherContent) :: pairs)) =
      property key (String.ofList first) :: others := by
    have plain : ',' ∉ key.toList ++ ['='] := by simpa using plainKey.2.1
    rw [written, begins, property, List.append_assoc, List.cons_append, List.append_cons,
      properties_plain_append plain cut, property, String.toList_ofList, List.append_assoc]
    rfl
  rw [whole, contentOf_property plainKey, if_pos rfl, Option.some_inj, ← String.toList_inj,
    String.toList_ofList]
  constructor
  · rintro rfl
    exact (plain_of_cut 0 single cut).2
  · intro plain
    rw [properties_append plain single] at cut
    exact (List.cons.inj cut).1.symm

theorem contentOf_written (plain : ∀ pair ∈ pairs, PlainKey pair.1 ∧ ',' ∉ pair.2.toList) :
    contentOf key (properties (written pairs)) = pairs.lookup key := by
  have lookup_cons (other content : String) (others : List (String × String)) :
      ((other, content) :: others).lookup key =
        if other = key then some content else others.lookup key := by
    by_cases same : key = other
    · simp [same]
    · simp [List.lookup_cons, beq_false_of_ne same, Ne.symm same]
  induction pairs with
  | nil => rfl
  | cons first others induction =>
    obtain ⟨⟨plainKey, plainContent⟩, plainOthers⟩ := List.forall_mem_cons.mp plain
    cases others with
    | nil =>
      rw [written, properties_of_plain (not_mem_property plainKey plainContent),
        contentOf_property plainKey, contentOf_nil, lookup_cons, List.lookup_nil]
    | cons next others =>
      rw [properties_written_cons plainKey plainContent (plainOthers next List.mem_cons_self).1,
        contentOf_property plainKey, induction plainOthers, ← lookup_cons]

end Properties

def numberOf (value : String) : Option Nat := Text.readNatural 10 value.toList

def valueOf (option : String) (arguments : List String) : Option String :=
  match valuesOf option arguments with
  | [value] => some value
  | _ => none

end InstallOptions

namespace InstallRequest

open InstallOptions

/-! ## Values that are read back -/

def mediumValue (medium : Path) : String := "path=" ++ medium.text ++ ",device=cdrom"

def diskOf (value : String) : Option Path :=
  if propertyOf "format" value = some "qcow2" ∧ propertyOf "bus" value = some "virtio" ∧
      propertyOf "device" value = none then
    (propertyOf "path" value).map Path.mk
  else none

def mediumOf (value : String) : Option Path :=
  if propertyOf "device" value = some "cdrom" then (propertyOf "path" value).map Path.mk else none

def mountOf (value : String) : Option Mount := do
  return {
    source := ← propertyOf "source" value
    target := ← propertyOf "target" value
    readonly := propertyOf "readonly" value = some "on" }

theorem map_mk_eq_some_iff {text : Option String} {path : Path} :
    text.map Path.mk = some path ↔ text = some path.text := by
  cases path
  simp

theorem diskOf_diskValue_iff (disk : Path) :
    diskOf (diskValue disk) = some disk ↔ ',' ∉ disk.text.toList := by
  have asWritten : (diskValue disk).toList =
      written [("path", disk.text), ("format", "qcow2"), ("bus", "virtio")] := by
    simp [diskValue, property, written]
  have path : propertyOf "path" (diskValue disk) = some disk.text ↔ ',' ∉ disk.text.toList := by
    rw [propertyOf_eq, asWritten]
    exact contentOf_written_iff (by decide) (by decide)
  constructor
  · intro read
    rw [diskOf] at read
    split at read
    · exact path.mp (map_mk_eq_some_iff.mp read)
    · cases read
  · intro plain
    have plainAll : ∀ pair ∈ [("path", disk.text), ("format", "qcow2"), ("bus", "virtio")],
        PlainKey pair.1 ∧ ',' ∉ pair.2.toList := by
      simp only [List.forall_mem_cons]
      exact ⟨⟨by decide, plain⟩, by decide, by decide, by simp⟩
    have read (key : String) : propertyOf key (diskValue disk) = _ :=
      (propertyOf_eq key _).trans (asWritten ▸ contentOf_written plainAll)
    rw [diskOf, if_pos, map_mk_eq_some_iff]
    · exact path.mpr plain
    · simp [read, List.lookup_cons]

theorem mediumOf_mediumValue_iff (medium : Path) :
    mediumOf (mediumValue medium) = some medium ↔ ',' ∉ medium.text.toList := by
  have asWritten : (mediumValue medium).toList =
      written [("path", medium.text), ("device", "cdrom")] := by
    simp [mediumValue, property, written]
  have path : propertyOf "path" (mediumValue medium) = some medium.text ↔
      ',' ∉ medium.text.toList := by
    rw [propertyOf_eq, asWritten]
    exact contentOf_written_iff (by decide) (by decide)
  constructor
  · intro read
    rw [mediumOf] at read
    split at read
    · exact path.mp (map_mk_eq_some_iff.mp read)
    · cases read
  · intro plain
    have plainAll : ∀ pair ∈ [("path", medium.text), ("device", "cdrom")],
        PlainKey pair.1 ∧ ',' ∉ pair.2.toList := by
      simp only [List.forall_mem_cons]
      exact ⟨⟨by decide, plain⟩, by decide, by simp⟩
    rw [mediumOf, if_pos, map_mk_eq_some_iff]
    · exact path.mpr plain
    · rw [propertyOf_eq, asWritten, contentOf_written plainAll]
      rfl

theorem attachedNetwork_networkValue_iff (network : String) :
    attachedNetwork (networkValue network) = some network ↔ ',' ∉ network.toList := by
  have asWritten : (networkValue network).toList =
      written [("network", network), ("model", "virtio")] := by
    simp [networkValue, property, written]
  rw [attachedNetwork, propertyOf_eq, asWritten]
  exact contentOf_written_iff (by decide) (by decide)

def mountTraits (readonly : Bool) : List (String × String) :=
  ("accessmode", "passthrough") :: if readonly then [("readonly", "on")] else []

theorem mountOf_mountValue_iff (mount : Mount) :
    mountOf (mountValue mount) = some mount ↔
      ',' ∉ mount.source.toList ∧ ',' ∉ mount.target.toList := by
  let pairs := ("source", mount.source) :: ("target", mount.target) :: mountTraits mount.readonly
  have asWritten : (mountValue mount).toList = written pairs := by
    cases readonly : mount.readonly <;>
      simp [mountValue, property, written, pairs, mountTraits, readonly]
  have source : propertyOf "source" (mountValue mount) = some mount.source ↔
      ',' ∉ mount.source.toList := by
    rw [propertyOf_eq, asWritten]
    exact contentOf_written_iff (by decide) (by decide)
  have target (plain : ',' ∉ mount.source.toList) :
      propertyOf "target" (mountValue mount) = some mount.target ↔
        ',' ∉ mount.target.toList := by
    rw [propertyOf_eq, asWritten, properties_written_cons (by decide) plain (by decide),
      contentOf_property (by decide), if_neg (by decide)]
    exact contentOf_written_iff (by decide) (by decide)
  constructor
  · intro read
    simp only [mountOf, Option.bind_eq_bind, Option.bind_eq_some_iff, Option.pure_def,
      Option.some_inj] at read
    obtain ⟨_, sourceRead, _, targetRead, equal⟩ := read
    have plain := source.mp (sourceRead.trans (congrArg (some ·.source) equal))
    exact ⟨plain, (target plain).mp (targetRead.trans (congrArg (some ·.target) equal))⟩
  · rintro ⟨plainSource, plainTarget⟩
    have plainAll : ∀ pair ∈ pairs, PlainKey pair.1 ∧ ',' ∉ pair.2.toList := by
      simp only [pairs, List.forall_mem_cons]
      refine ⟨⟨by decide, plainSource⟩, ⟨by decide, plainTarget⟩, ?_⟩
      cases mount.readonly <;> decide
    have readonly : propertyOf "readonly" (mountValue mount) =
        if mount.readonly then some "on" else none := by
      rw [propertyOf_eq, asWritten, contentOf_written plainAll]
      cases shown : mount.readonly <;> simp [pairs, mountTraits, shown, List.lookup_cons]
    have same : decide ((if mount.readonly then some "on" else none) = some "on") =
        mount.readonly := by
      cases mount.readonly <;> rfl
    rw [mountOf, source.mpr plainSource, (target plainSource).mpr plainTarget]
    simp only [readonly, same]
    rfl

/-! ## Whole requests -/

/-- The request that the arguments were written for, as far as they are understood. The last disk
is the boot medium. -/
def ofArguments (arguments : List String) : Option InstallRequest := do
  let storage := valuesOf "--disk" arguments
  return {
    uri := ← valueOf "--connect" arguments
    name := ← valueOf "--name" arguments
    memoryMib := ← numberOf (← valueOf "--memory" arguments)
    vcpus := ← numberOf (← valueOf "--vcpus" arguments)
    disks := ← storage.dropLast.mapM diskOf
    bootMedium := ← mediumOf (← storage.getLast?)
    osVariant := ← valueOf "--os-variant" arguments
    networks := ← (valuesOf "--network" arguments).mapM attachedNetwork
    mounts := ← (valuesOf "--filesystem" arguments).mapM mountOf }

structure CommaFree (request : InstallRequest) : Prop where
  disks : ∀ disk ∈ request.disks, ',' ∉ disk.text.toList
  bootMedium : ',' ∉ request.bootMedium.text.toList
  networks : ∀ network ∈ request.networks, ',' ∉ network.toList
  mounts : ∀ mount ∈ request.mounts, ',' ∉ mount.source.toList ∧ ',' ∉ mount.target.toList

theorem ofArguments_arguments (request : InstallRequest) :
    ofArguments request.arguments = do
      let disks ← (request.disks.map diskValue).mapM diskOf
      let bootMedium ← mediumOf (mediumValue request.bootMedium)
      let networks ← (request.networks.map networkValue).mapM attachedNetwork
      let mounts ← (request.mounts.map mountValue).mapM mountOf
      return { request with disks, bootMedium, networks, mounts } := by
  have once {option value : String} (values : valuesOf option request.arguments = [value]) :
      valueOf option request.arguments = some value := by
    rw [valueOf, values]
  have uri : valueOf "--connect" request.arguments = some request.uri :=
    once (by simp [valuesOf, options_arguments])
  have name : valueOf "--name" request.arguments = some request.name :=
    once (by simp [valuesOf, options_arguments])
  have memory : valueOf "--memory" request.arguments = some (toString request.memoryMib) :=
    once (by simp [valuesOf, options_arguments])
  have vcpus : valueOf "--vcpus" request.arguments = some (toString request.vcpus) :=
    once (by simp [valuesOf, options_arguments])
  have osVariant : valueOf "--os-variant" request.arguments = some request.osVariant :=
    once (by simp [valuesOf, options_arguments])
  have storage : valuesOf "--disk" request.arguments =
      request.disks.map diskValue ++ [mediumValue request.bootMedium] := by
    simp [valuesOf, options_arguments, mediumValue]
  have networks : valuesOf "--network" request.arguments = request.networks.map networkValue :=
    networkCards_eq request
  have mounts : valuesOf "--filesystem" request.arguments = request.mounts.map mountValue := by
    simp [valuesOf, options_arguments]
  simp only [ofArguments, uri, name, memory, vcpus, osVariant, storage, networks, mounts,
    numberOf, Text.readNatural_toString, List.dropLast_concat, List.getLast?_concat, Option.bind_eq_bind,
    Option.bind_some]

/-- The arguments are read back to the request exactly if no comma stands where a property is
written. -/
theorem read_back_iff (request : InstallRequest) :
    ofArguments request.arguments = some request ↔ request.CommaFree := by
  have disks : (request.disks.map diskValue).mapM diskOf = some request.disks ↔
      ∀ disk ∈ request.disks, ',' ∉ disk.text.toList := by
    simp only [mapM_map_eq_some_iff, diskOf_diskValue_iff]
  have networks : (request.networks.map networkValue).mapM attachedNetwork =
      some request.networks ↔ ∀ network ∈ request.networks, ',' ∉ network.toList := by
    simp only [mapM_map_eq_some_iff, attachedNetwork_networkValue_iff]
  have mounts : (request.mounts.map mountValue).mapM mountOf = some request.mounts ↔
      ∀ mount ∈ request.mounts, ',' ∉ mount.source.toList ∧ ',' ∉ mount.target.toList := by
    simp only [mapM_map_eq_some_iff, mountOf_mountValue_iff]
  rw [ofArguments_arguments]
  constructor
  · intro read
    simp only [Option.bind_eq_bind, Option.bind_eq_some_iff, Option.pure_def, Option.some_inj]
      at read
    obtain ⟨_, disksRead, _, mediumRead, _, networksRead, _, mountsRead, equal⟩ := read
    have parts := InstallRequest.mk.inj equal
    obtain ⟨_, _, _, _, rfl, rfl, _, rfl, rfl⟩ := parts
    exact ⟨disks.mp disksRead, (mediumOf_mediumValue_iff _).mp mediumRead,
      networks.mp networksRead, mounts.mp mountsRead⟩
  · rintro ⟨plainDisks, plainMedium, plainNetworks, plainMounts⟩
    rw [disks.mpr plainDisks, (mediumOf_mediumValue_iff _).mpr plainMedium,
      networks.mpr plainNetworks, mounts.mpr plainMounts]
    rfl

def commaRequest : InstallRequest where
  uri := "qemu:///system"
  name := "a,b"
  memoryMib := 1024
  vcpus := 1
  disks := [⟨"/lab/a,b/disk0.qcow2"⟩]
  bootMedium := ⟨"/lab/a,b/cidata.iso"⟩
  osVariant := "fedora40"
  networks := ["default"]
  mounts := []

/-- The tool is told of other files: the paths end at the comma. -/
theorem paths_cut_at_comma :
    ofArguments commaRequest.arguments =
      some { commaRequest with disks := [⟨"/lab/a"⟩], bootMedium := ⟨"/lab/a"⟩ } ∧
    ofArguments commaRequest.arguments ≠ some commaRequest := by
  decide +kernel

end InstallRequest

end VirtualLab
