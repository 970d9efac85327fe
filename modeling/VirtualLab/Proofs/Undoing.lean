import VirtualLab.Proofs.DomainFiles
import VirtualLab.Proofs.Leftovers

/-!
# Undoing

Destroying a machine that was just brought up, at a site where nothing fails: the domain goes, and
with it every file that bringing the machine up has made. Directories above the machine's own stay.
-/

namespace VirtualLab

open BootConfig Hypervisor

/-! ## The directory of a machine -/

namespace Path

theorem segments_join_of_isName (base : Path) {text : String} (isName : IsName text) :
    ∃ earlier, segments (base.join text).text.toList = earlier ++ [text.toList] := by
  have last := segments_of_plain isName.2.2.2
  rcases join_text base (relative_of_plain isName.2.2.2) with ⟨_, joined⟩ | ⟨front, _, _, joined⟩
  · exact ⟨[], by rw [joined, last]; rfl⟩
  · exact ⟨segments front, by rw [joined, segments_append_slash, last]⟩

theorem isEmpty_join_of_isName (base : Path) {text : String} (isName : IsName text) :
    (base.join text).text.isEmpty = false := by
  rw [Bool.eq_false_iff]
  intro empty
  obtain ⟨earlier, whole⟩ := segments_join_of_isName base isName
  rw [String.toList_eq_nil_iff.mpr (String.isEmpty_iff.mp empty)] at whole
  have last := congrArg List.getLast? whole
  simp only [segments, Text.pieces, List.getLast?_singleton, List.getLast?_append_cons,
    Option.some_inj] at last
  exact isName.1 (String.toList_eq_nil_iff.mp last.symm)

end Path

namespace FileSystem

variable {base : Path} {text : String}

theorem endsInDot_join_of_isName (isName : Path.IsName text) :
    endsInDot (base.join text) = false := by
  obtain ⟨earlier, whole⟩ := Path.segments_join_of_isName base isName
  have nonempty : text.toList ≠ [] := fun empty =>
    isName.1 (String.toList_eq_nil_iff.mp empty)
  have notDot : text.toList ≠ ['.'] := fun dot =>
    isName.2.1 (String.toList_injective (dot.trans rfl))
  rw [endsInDot, whole, List.filter_append]
  simp [nonempty, notDot]

theorem Followable.of_join (nonempty : base.text.isEmpty = false) (isName : Path.IsName text)
    (followable : Followable (base.join text)) : Followable base := by
  have relative := Path.relative_of_plain isName.2.2.2
  refine ⟨nonempty, ?_, ?_, fun name member => followable.names name ?_⟩
  · have noNul := followable.noNul
    rw [List.contains_eq_mem, decide_eq_false_iff_not] at noNul ⊢
    intro nul
    refine noNul ?_
    rcases Path.join_text base relative with ⟨empty, _⟩ | ⟨front, form, _, joined⟩
    · rw [empty] at nul
      cases nul
    · rw [joined]
      rcases form with form | form <;> rw [form] at nul <;> simp at nul ⊢ <;> tauto
  · refine Nat.le_trans ?_ followable.short
    unfold Path.join
    rw [if_neg relative]
    split <;> simp only [String.utf8ByteSize_append] <;> omega
  · rw [Path.names_join relative]
    exact List.mem_append_left _ member

/-! ## Removing files that are there -/

def without (files : FileSystem) (path : Path) : FileSystem :=
  if files.pathExists path then
    match files.removeFile path with
    | .ok removed => removed
    | .error _ => files
  else files

/-- No directory is in the place of the file, and the file is found there if it is there. -/
structure Removable (files : FileSystem) (path : Path) : Prop where
  free : files.get? (path.place files.workingDirectory) ≠ some .directory
  found : ∀ content, files.get? (path.place files.workingDirectory) = some (.file content) →
    Machine.MeansFile path ∧
      ∀ place ∈ path.passes files.workingDirectory, files.get? place = some .directory

variable {files : FileSystem} {path : Path}

theorem without_eq_erase (removable : Removable files path) {content : Bytes}
    (held : files.get? (path.place files.workingDirectory) = some (.file content)) :
    files.without path = files.erase (path.place files.workingDirectory) := by
  obtain ⟨means, passed⟩ := removable.found content held
  have located := locate_eq_ok.mpr ⟨means.followable, passed, rfl⟩
  have found : files.find path = .ok (path.place files.workingDirectory, .file content) :=
    find_eq_ok.mpr ⟨fileLocation?_eq_some.mpr ⟨means.file, located⟩, held⟩
  simp [without, pathExists, removeFile, found, bind, Except.bind, pure, Except.pure, Except.isOk,
    Except.toBool]

theorem without_eq_self (absent : files.get? (path.place files.workingDirectory) = none) :
    files.without path = files := by
  rw [without, if_neg]
  intro found
  obtain ⟨location, entry, located, held, _⟩ := pathExists_iff.mp found
  rw [locate_eq_place located, absent] at held
  cases held

theorem workingDirectory_without (files : FileSystem) (path : Path) :
    (files.without path).workingDirectory = files.workingDirectory := by
  unfold without
  split
  · split
    · rename_i removed
      exact (removeFile_keeps removed).workingDirectory
    · rfl
  · rfl

theorem get?_without (removable : Removable files path) (location : Location) :
    (files.without path).get? location =
      if location = path.place files.workingDirectory then none else files.get? location := by
  cases held : files.get? (path.place files.workingDirectory) with
  | none =>
      rw [without_eq_self held]
      split
      · rename_i same
        rw [same, held]
      · rfl
  | some entry =>
      cases entry with
      | directory => exact absurd held removable.free
      | file content =>
          rw [without_eq_erase removable held]
          refine get?_erase (fun root => ?_) location
          simp [root] at held

theorem Removable.without {other : Path} (removable : Removable files path)
    (otherRemovable : Removable files other) : Removable (files.without path) other := by
  have get? := get?_without removable
  refine ⟨?_, fun content => ?_⟩ <;> rw [workingDirectory_without, get?]
  · split
    · simp
    · exact otherRemovable.free
  · split
    · simp
    · intro held
      obtain ⟨means, passed⟩ := otherRemovable.found content held
      refine ⟨means, fun place pass => ?_⟩
      rw [get?, if_neg]
      · exact passed place pass
      · rintro rfl
        exact removable.free (passed _ pass)

theorem get?_foldl_without {paths : List Path} (removable : ∀ path ∈ paths, Removable files path)
    (location : Location) :
    (paths.foldl FileSystem.without files).get? location =
      if location ∈ paths.map (Path.place files.workingDirectory) then none
      else files.get? location := by
  induction paths generalizing files with
  | nil => simp
  | cons path rest induction =>
      obtain ⟨first, others⟩ := List.forall_mem_cons.mp removable
      rw [List.foldl_cons, induction fun other member => first.without (others other member),
        workingDirectory_without, get?_without first]
      by_cases here : location = path.place files.workingDirectory <;> simp [here]

theorem workingDirectory_foldl_without (paths : List Path) (files : FileSystem) :
    (paths.foldl FileSystem.without files).workingDirectory = files.workingDirectory := by
  induction paths generalizing files with
  | nil => rfl
  | cons path rest induction =>
      rw [List.foldl_cons, induction, workingDirectory_without]

end FileSystem

namespace Site

open FileSystem

variable {craft : Craft}

theorem deleteAll_disks (disks : List VirtualDisk) :
    VirtualDisk.deleteAll disks = Bundle.deleteAll (disks.map (·.path)) := by
  induction disks with
  | nil => rfl
  | cons disk rest induction =>
      rw [VirtualDisk.deleteAll, induction, List.map_cons, Bundle.deleteAll, VirtualDisk.delete,
        bind_assoc]
      congr 1
      funext present
      cases present <;> rfl

theorem run_deleteAll (paths : List Path) (site : Site) :
    (Bundle.deleteAll paths).run (respond craft) site =
      ((), { site with files := paths.foldl FileSystem.without site.files }) := by
  induction paths generalizing site with
  | nil => rfl
  | cons path rest induction =>
      change (if site.files.pathExists path then _ else _ : Script Unit).run _ site = _
      rw [List.foldl_cons, FileSystem.without]
      split
      · change (Bundle.deleteAll rest).run _ (site.attempted (site.files.removeFile path)).2 = _
        rw [induction]
        cases site.files.removeFile path <;> rfl
      · exact induction site

theorem run_removeFiles {machine : Machine} {site : Site} {removed : FileSystem}
    (removes : (machine.files.foldl FileSystem.without site.files).removeDirectory
      machine.workDirectory = .ok removed) :
    (Lab.removeFiles machine).run (respond craft) site =
      (true, { site with files := removed }) := by
  rw [Lab.removeFiles, deleteAll_disks]
  change ((Bundle.deleteAll _).bind _).run (respond craft) site = _
  rw [Script.run_bind, run_deleteAll]
  change ((Bundle.deleteAll _).bind _).run (respond craft) _ = _
  rw [Script.run_bind, run_deleteAll]
  change ((Script.request _).bind _).run (respond craft) _ = _
  rw [Script.run_bind]
  have answered : (Script.request (.removeDirectory machine.workDirectory)).run (respond craft)
      { site with files := machine.files.foldl FileSystem.without site.files } =
        (.ok (), { site with files := removed }) := by
    change attempted _ _ = _
    rw [removes]
    rfl
  rw [Machine.files, List.foldl_append] at answered
  rw [answered]
  rfl

/-! ## Removing a domain that was just defined -/

structure Newest (craft : Craft) (machine : Machine) (others : List (String × Guest))
    (site : Site) : Prop where
  domains : site.domains = (machine.vmName, ⟨craft.running, []⟩) :: others
  unique : ∀ other ∈ others, other.1 ≠ machine.vmName

/-- Destroying a machine that was just deployed removes its domain and then its files. -/
theorem run_destroy {machine : Machine} {others : List (String × Guest)} {site final : Site}
    {gone : Bool} (newest : Newest craft machine others site)
    (removes : (Lab.removeFiles machine).run (respond craft) { site with domains := others } =
      (gone, final)) :
    (Lab.destroy machine).run.run (respond craft) site = (.ok (.destroyed 0 gone), final) := by
  have running : site.guest? machine.vmName = some ⟨craft.running, []⟩ := by
    rw [guest?, newest.domains, List.lookup_cons_self]
  let off : Site := { site with
    domains := (machine.vmName, ⟨⟨.shutOff, "forced poweroff"⟩, []⟩) :: others }
  have stops : (perform (.stop machine.vmName)).run.run (respond craft) site = (.ok (), off) := by
    rw [run_perform, call, onGuest, running]
    have kept : others.map (fun entry => if entry.1 = machine.vmName then
        (entry.1, { entry.2 with status := ⟨.shutOff, "forced poweroff"⟩ }) else entry) = others :=
      (List.map_congr_left fun other member => if_neg (newest.unique other member)).trans
        (List.map_id others)
    simp only [changeGuest, newest.domains, List.map_cons, if_true, kept, off]
  have stopped : off.guest? machine.vmName = some ⟨⟨.shutOff, "forced poweroff"⟩, []⟩ :=
    List.lookup_cons_self
  have looks : (lookup machine.vmName).run.run (respond craft) off =
      (.ok (some ⟨.shutOff, "forced poweroff"⟩), off) := by
    rw [run_lookup, stopped]
    rfl
  have requires : (Lab.require machine.vmName).run.run (respond craft) off =
      (.ok ⟨.shutOff, "forced poweroff"⟩, off) := by
    rw [Lab.require, Attempt.run_bind_of_ok looks]
    rfl
  have forces : (Lab.forceOff machine.vmName).run.run (respond craft) site = (.ok (), off) := by
    rw [Lab.forceOff, Attempt.run_bind_of_ok stops, Attempt.run_bind_of_ok requires]
    rfl
  have lists : (perform (.snapshots machine.vmName)).run.run (respond craft) off =
      (.ok [], off) := by
    rw [run_perform, call, onGuest, stopped]
  have undefines : (perform (.undefine machine.vmName)).run.run (respond craft) off =
      (.ok (), { site with domains := others }) := by
    have left : others.filter (·.1 ≠ machine.vmName) = others :=
      List.filter_eq_self.mpr fun other member => by simpa using newest.unique other member
    rw [run_perform, call, onGuest, stopped]
    simp only [List.isEmpty_nil, if_true, removeGuest, off, List.filter_cons, ne_eq, not_true,
      decide_false, Bool.false_eq_true, if_false]
    rw [left]
  rw [Lab.destroy_eq_removeDomain, Attempt.run_bind_of_ok (run_lookup _ _ _), running]
  simp only [Option.map_some, Craft.running, DomainState.isActive, if_true]
  rw [Attempt.run_bind_of_ok forces, Lab.removeDomain, Attempt.run_bind_of_ok lists]
  change (perform (.undefine machine.vmName) >>= fun _ =>
    ExceptT.lift (Lab.removeFiles machine) >>= fun gone =>
      pure (DestroyOutcome.destroyed 0 gone)).run.run (respond craft) off = _
  rw [Attempt.run_bind_of_ok undefines, Attempt.run_bind_of_ok (Attempt.run_lift _), removes]
  rfl

def DiskPlace (machine : Machine) (working : Location) (location : Location) (_ : Bytes) : Prop :=
  ∃ disk ∈ VirtualDisk.ofMachine machine,
    Machine.MeansFile disk.path ∧ location = disk.path.place working

/-- Nothing is at the place of the machine's directory or below it. -/
def Vacant (machine : Machine) (site : Site) : Prop :=
  ∀ location, machine.workDirectory.place site.files.workingDirectory <+: location →
    site.files.get? location = none

/-- The way to the machine's directory passes no place below it. -/
def Straight (machine : Machine) (working : Location) : Prop :=
  ∀ place ∈ machine.workDirectory.passes working,
    machine.workDirectory.place working <+: place → place = machine.workDirectory.place working

section Preparing

variable {machine : Machine} {start prepared : Site}

theorem Vacant.makes (vacant : Vacant machine start) {disk : VirtualDisk}
    (member : disk ∈ VirtualDisk.ofMachine machine) (backing : Option Path) :
    Makes machine (DiskPlace machine start.files.workingDirectory) craft start disk backing := by
  refine ⟨fun content held => ?_, fun means _ _ => ⟨disk, member, means, rfl⟩⟩
  obtain ⟨file, place⟩ := (Lab.owns_of_mem_ofMachine member).place start.files.workingDirectory
  rw [place, vacant _ (List.prefix_append _ _)] at held
  cases held

variable {location : Location}

theorem inside_of_prepared (vacant : Vacant machine start)
    (straight : Straight machine start.files.workingDirectory)
    (isPrepared : Prepared machine (DiskPlace machine start.files.workingDirectory) start prepared)
    (inside : machine.workDirectory.place start.files.workingDirectory <+: location)
    (differs : location ≠ machine.workDirectory.place start.files.workingDirectory) :
    prepared.files.get? location = none ∨
      (∃ content, prepared.files.get? location = some (.file content)) ∧
        ∃ path ∈ machine.files, Machine.MeansFile path ∧
          location = path.place start.files.workingDirectory := by
  have lead := isPrepared.2.ahead.lead location
  rw [vacant location inside] at lead
  generalize prepared.files.get? location = entry at lead ⊢
  cases lead with
  | same => exact .inl rfl
  | directory stop =>
      rcases List.mem_append.mp stop with passed | last
      · exact absurd (straight location passed inside) differs
      · exact absurd (List.mem_singleton.mp last) differs
  | loose _ boot _ =>
      obtain ⟨path, member, means, place⟩ := boot
      exact .inr ⟨⟨_, rfl⟩, path, List.mem_append_right _ member, means, place⟩
  | made _ isMade =>
      obtain ⟨disk, member, means, place⟩ := isMade
      exact .inr ⟨⟨_, rfl⟩, disk.path, List.mem_append_left _ (List.mem_map_of_mem member), means,
        place⟩

theorem removable_of_prepared (vacant : Vacant machine start)
    (straight : Straight machine start.files.workingDirectory)
    (isPrepared : Prepared machine (DiskPlace machine start.files.workingDirectory) start prepared)
    {path : Path} (member : path ∈ machine.files) : prepared.files.Removable path := by
  have owns := Machine.owns_of_mem_files member
  have same := isPrepared.2.ahead.workingDirectory
  obtain ⟨file, place⟩ := owns.place start.files.workingDirectory
  have inside : machine.workDirectory.place start.files.workingDirectory <+:
      path.place start.files.workingDirectory := by
    rw [place]
    exact List.prefix_append _ _
  have differs : path.place start.files.workingDirectory ≠
      machine.workDirectory.place start.files.workingDirectory := by
    rw [place]
    simp
  have held := inside_of_prepared vacant straight isPrepared inside differs
  constructor
  · rw [same]
    rcases held with none | ⟨⟨content, held⟩, _⟩
    · simp [none]
    · simp [held]
  · intro content there
    rw [same] at there
    rcases held with none | ⟨_, other, otherMember, means, equal⟩
    · rw [none] at there
      cases there
    · have otherOwns := Machine.owns_of_mem_files otherMember
      rw [owns.eq_of_place otherOwns equal, otherOwns.passes]
      exact ⟨means, isPrepared.1.made⟩

def emptied (machine : Machine) (prepared : Site) : FileSystem :=
  machine.files.foldl FileSystem.without prepared.files

theorem get?_emptied (vacant : Vacant machine start)
    (straight : Straight machine start.files.workingDirectory)
    (isPrepared : Prepared machine (DiskPlace machine start.files.workingDirectory) start prepared)
    (location : Location) :
    (emptied machine prepared).get? location =
      if machine.workDirectory.place start.files.workingDirectory <+: location ∧
          location ≠ machine.workDirectory.place start.files.workingDirectory then none
      else prepared.files.get? location := by
  have removable : ∀ path ∈ machine.files, prepared.files.Removable path := fun _ =>
    removable_of_prepared vacant straight isPrepared
  rw [emptied, get?_foldl_without removable, isPrepared.2.ahead.workingDirectory]
  by_cases within : machine.workDirectory.place start.files.workingDirectory <+: location ∧
      location ≠ machine.workDirectory.place start.files.workingDirectory
  · rw [if_pos within]
    split
    · rfl
    · rename_i other
      rcases inside_of_prepared vacant straight isPrepared within.1 within.2 with
        none | ⟨_, path, member, _, place⟩
      · exact none
      · exact absurd (place ▸ List.mem_map_of_mem member) other
  · rw [if_neg within, if_neg]
    intro member
    obtain ⟨path, among, rfl⟩ := List.mem_map.mp member
    obtain ⟨file, place⟩ := (Machine.owns_of_mem_files among).place start.files.workingDirectory
    exact within ⟨place ▸ List.prefix_append _ _, by simp [place]⟩

theorem removeDirectory_emptied {base : Path} (vacant : Vacant machine start)
    (straight : Straight machine start.files.workingDirectory)
    (isPrepared : Prepared machine (DiskPlace machine start.files.workingDirectory) start prepared)
    (named : Path.IsName machine.vmName)
    (directory : machine.workDirectory = base.join machine.vmName) :
    (emptied machine prepared).removeDirectory machine.workDirectory =
      .ok ((emptied machine prepared).erase
        (machine.workDirectory.place start.files.workingDirectory)) := by
  have same : (emptied machine prepared).workingDirectory = start.files.workingDirectory :=
    (workingDirectory_foldl_without _ _).trans isPrepared.2.ahead.workingDirectory
  have get? := get?_emptied vacant straight isPrepared
  have stops : ∀ stop ∈ machine.workDirectory.stops start.files.workingDirectory,
      (emptied machine prepared).get? stop = some .directory := by
    intro stop member
    have made := isPrepared.1.made
    rw [isPrepared.2.ahead.workingDirectory] at made
    rw [get?, if_neg, made stop member]
    rintro ⟨inside, differs⟩
    rcases List.mem_append.mp member with passed | last
    · exact differs (straight stop passed inside)
    · exact differs (List.mem_singleton.mp last)
  obtain ⟨path, owns, followable⟩ := isPrepared.1.followed
  obtain ⟨file, isName, rfl⟩ := owns.eq_join
  have nonempty : machine.workDirectory.text.isEmpty = false := by
    rw [directory]
    exact Path.isEmpty_join_of_isName _ named
  have located : (emptied machine prepared).locate machine.workDirectory =
      .ok (machine.workDirectory.place start.files.workingDirectory) := by
    refine locate_eq_ok.mpr ⟨followable.of_join nonempty isName, ?_, by rw [same]⟩
    rw [same]
    exact fun place passed => stops place (Path.mem_stops_of_mem_passes passed)
  refine removeDirectory_eq_ok.mpr ⟨_, located, stops _ (Path.place_mem_stops _ _), ?_, ?_, ?_, rfl⟩
  · rw [directory]
    exact endsInDot_join_of_isName named
  · rw [Bool.eq_false_iff, Ne, isOccupied_iff]
    rintro ⟨name, occupied⟩
    rw [get?, if_pos ⟨List.prefix_append _ _, by simp⟩] at occupied
    cases occupied
  · rw [directory, Path.names_join (Path.relative_of_plain named.2.2.2),
      Path.names_of_isName named]
    simpa using named.2.2.1

/-- Removing the files of a prepared machine leaves what was there and directories above it. -/
theorem removeFiles_of_prepared {base : Path} (vacant : Vacant machine start)
    (straight : Straight machine start.files.workingDirectory)
    (isPrepared : Prepared machine (DiskPlace machine start.files.workingDirectory) start prepared)
    (named : Path.IsName machine.vmName)
    (directory : machine.workDirectory = base.join machine.vmName) :
    ∃ final, (Lab.removeFiles machine).run (respond craft) prepared = (true, final) ∧
      final.domains = prepared.domains ∧ ∀ location,
        final.files.get? location = start.files.get? location ∨
          start.files.get? location = none ∧ final.files.get? location = some .directory ∧
            location ∈ machine.workDirectory.passes start.files.workingDirectory ∧
              location ≠ machine.workDirectory.place start.files.workingDirectory := by
  have removed := removeDirectory_emptied vacant straight isPrepared named directory
  have get? := get?_emptied vacant straight isPrepared
  have below : machine.workDirectory.place start.files.workingDirectory ≠ [] := by
    intro root
    have absent := vacant _ List.prefix_rfl
    simp [root] at absent
  let final : Site := { prepared with
    files := (emptied machine prepared).erase
      (machine.workDirectory.place start.files.workingDirectory) }
  refine ⟨final, ?_, rfl, fun location => ?_⟩
  · exact run_removeFiles removed
  · change ((emptied machine prepared).erase _).get? location = _ ∨
      _ ∧ ((emptied machine prepared).erase _).get? location = _ ∧ _
    rw [get?_erase below, get?]
    by_cases inside : machine.workDirectory.place start.files.workingDirectory <+: location
    · left
      rw [vacant location inside]
      by_cases whole : location = machine.workDirectory.place start.files.workingDirectory
      · rw [if_pos whole]
      · rw [if_neg whole, if_pos ⟨inside, whole⟩]
    · have differs : location ≠ machine.workDirectory.place start.files.workingDirectory := by
        rintro rfl
        exact inside List.prefix_rfl
      rw [if_neg differs, if_neg fun both => inside both.1]
      have outside : ∀ path, machine.Owns path →
          location ≠ path.place start.files.workingDirectory := by
        rintro path owns rfl
        obtain ⟨file, place⟩ := owns.place start.files.workingDirectory
        exact inside (place ▸ List.prefix_append _ _)
      have lead := isPrepared.2.ahead.lead location
      generalize start.files.get? location = earlier at lead ⊢
      generalize prepared.files.get? location = later at lead ⊢
      cases lead with
      | same => exact .inl rfl
      | directory stop =>
          refine .inr ⟨rfl, rfl, ?_, differs⟩
          exact (List.mem_append.mp stop).resolve_right fun last =>
            differs (List.mem_singleton.mp last)
      | loose _ boot _ =>
          obtain ⟨path, member, _, place⟩ := boot
          exact absurd place (outside path (.boot member))
      | made _ isMade =>
          obtain ⟨disk, member, _, place⟩ := isMade
          exact absurd place (outside _ (Lab.owns_of_mem_ofMachine member))

end Preparing

/-! ## Bringing up and destroying a machine -/

/-- Destroying undoes bringing up. If a machine whose name is a single name is deployed where
nothing was at its directory or below, and the way to its directory passes no place below it, then
where nothing fails it is destroyed with its directory, and of all that was done only directories
remain that the way passes. -/
theorem destroy_undoes_up {lab : Lab} {declaration : MachineDeclaration} {machine : Machine}
    (resolved : Machine.resolve lab.environment declaration = .ok machine)
    (named : Path.IsName machine.vmName) {start deployed : Site} {events : List (Event Site)}
    (vacant : Vacant machine start) (straight : Straight machine start.files.workingDirectory)
    (run : (lab.up machine).run.Runs (conduct craft) start events (.ok .deployed) deployed) :
    ∃ final, (Lab.destroy machine).run.run (respond craft) deployed =
        (.ok (.destroyed 0 true), final) ∧
      final.domains = start.domains ∧ ∀ location,
        final.files.get? location = start.files.get? location ∨
          start.files.get? location = none ∧ final.files.get? location = some .directory ∧
            location ∈ machine.workDirectory.passes start.files.workingDirectory ∧
              location ≠ machine.workDirectory.place start.files.workingDirectory := by
  rcases up_cases run with ⟨guest, late, _, powered⟩ | ⟨absent, late, result, deploys, deployed⟩
  · exact absurd powered Lab.not_deployed_of_powerOn
  · have makes : ∀ image, lab.imageFor machine = .ok image →
        ∀ disk ∈ VirtualDisk.ofMachine machine,
          Makes machine (DiskPlace machine start.files.workingDirectory) craft start disk
            (Lab.backingFor image.imagePath disk) := fun _ _ _ member => vacant.makes member _
    rcases deploying_or_strewn makes deploys with
      ⟨_, prepared, isPrepared, _, rfl⟩ | ⟨⟨failure, rfl⟩, _⟩
    · have directory : machine.workDirectory =
          (lab.environment.diskImageDirectory.join lab.environment.name).join machine.vmName :=
        (Machine.resolve_eq_ok resolved).2
      obtain ⟨final, removes, domains, files⟩ :=
        removeFiles_of_prepared vacant straight isPrepared named directory
      have newest : Newest craft machine prepared.domains (deploying craft machine prepared) := by
        refine ⟨rfl, fun other member equal => ?_⟩
        have defined := mem_domains_iff.mp (List.mem_map.mpr ⟨other, member, equal⟩)
        rw [guest?, isPrepared.2.domains] at defined
        rw [guest?] at absent
        rw [absent] at defined
        cases defined
      exact ⟨final, run_destroy newest removes, domains.trans isPrepared.2.domains, files⟩
    · cases deployed

/-! ## A machine with two disks -/

def plainCraft : Craft := ⟨fun _ _ => [], fun _ _ => [], "normal startup from boot"⟩

def labIn (directory : Path) : Lab where
  home := none
  environment := {
    name := "l"
    uri := Environment.defaultUri
    domain := none
    defaults := {}
    diskImageDirectory := directory
    cloudImageDirectory := ⟨"/"⟩
  }
  images := [{ name := Machine.defaultOs, imageUrl := "https://h/i" }]
  uri := Environment.defaultUri
  hostsCommands := []

def imageSite : Site where
  files := { entries := [(["cloud-images"], .directory), (["cloud-images", "i"], .file [])] }

def twoDisks : MachineDeclaration where
  vmName := some "w"
  disks := [{ name := "root" }, { name := "data" }]

def twoDiskMachine (lab : Lab) : Machine :=
  (Machine.resolve lab.environment twoDisks).toOption.getD default

theorem isName_twoDiskMachine (directory : Path) :
    Path.IsName (twoDiskMachine (labIn directory)).vmName := by
  change Path.IsName "w"
  unfold Path.IsName
  decide

theorem vacant_of_entries {machine : Machine} {site : Site}
    (free : ∀ entry ∈ site.files.entries,
      ¬ machine.workDirectory.place site.files.workingDirectory <+: entry.1)
    (below : machine.workDirectory.place site.files.workingDirectory ≠ []) :
    Vacant machine site := by
  intro location inside
  by_contra held
  have root : location ≠ [] := by
    rintro rfl
    exact below (List.prefix_nil.mp inside)
  rw [FileSystem.get?, if_neg root, ← Ne, ← Option.isSome_iff_ne_none,
    List.lookup_isSome_iff] at held
  obtain ⟨entry, member, equal⟩ := held
  rw [beq_iff_eq] at equal
  exact free entry member (equal ▸ inside)

instance (machine : Machine) (working : Location) : Decidable (Straight machine working) :=
  inferInstanceAs (Decidable (∀ place ∈ _, _ → _))

theorem two_disks_undone : ∃ events deployed final,
    ((labIn ⟨"/"⟩).up (twoDiskMachine (labIn ⟨"/"⟩))).run.Runs (conduct plainCraft) imageSite events
      (.ok .deployed) deployed ∧
    (Lab.destroy (twoDiskMachine (labIn ⟨"/"⟩))).run.run (respond plainCraft) deployed =
      (.ok (.destroyed 0 true), final) ∧ final.domains = [] := by
  obtain ⟨events, run⟩ := Script.runs_run (conduct_respond plainCraft)
    ((labIn ⟨"/"⟩).up (twoDiskMachine (labIn ⟨"/"⟩))).run imageSite
  have deployed : (((labIn ⟨"/"⟩).up (twoDiskMachine (labIn ⟨"/"⟩))).run.run (respond plainCraft)
      imageSite).1 = .ok .deployed := by
    decide +kernel
  rw [deployed] at run
  have vacant : Vacant (twoDiskMachine (labIn ⟨"/"⟩)) imageSite :=
    vacant_of_entries (by decide +kernel) (by decide +kernel)
  have resolved : Machine.resolve (labIn ⟨"/"⟩).environment twoDisks =
      .ok (twoDiskMachine (labIn ⟨"/"⟩)) := by
    decide +kernel
  obtain ⟨final, destroyed, domains, _⟩ := destroy_undoes_up resolved (isName_twoDiskMachine _)
    vacant (by decide +kernel) run
  exact ⟨events, _, final, run, destroyed, domains⟩

-- Stated for any pair, so that using it does not evaluate a run.
theorem eq_pair_of_fst {α β : Type} {pair : α × β} {first : α} (equal : pair.1 = first) :
    pair = (first, pair.2) := by
  rw [← equal]

def detourLab : Lab := labIn ⟨"/l/w/disk1.qcow2/../../.."⟩

/-- On a way through the place of a disk a directory is made there that is not removed: the machine
is deployed where nothing was, and its directory stays when it is destroyed. -/
theorem detour_not_undone :
    Machine.resolve detourLab.environment twoDisks = .ok (twoDiskMachine detourLab) ∧
    Path.IsName (twoDiskMachine detourLab).vmName ∧ Vacant (twoDiskMachine detourLab) imageSite ∧
    imageSite.guest? (twoDiskMachine detourLab).vmName = none ∧
    ∃ deployed final,
      (detourLab.up (twoDiskMachine detourLab)).run.run (respond plainCraft) imageSite =
        (.ok .deployed, deployed) ∧
      (Lab.destroy (twoDiskMachine detourLab)).run.run (respond plainCraft) deployed =
        (.ok (.destroyed 0 false), final) ∧
      final.files.get? ["l", "w"] = some .directory := by
  have vacant : Vacant (twoDiskMachine detourLab) imageSite :=
    vacant_of_entries (by decide +kernel) (by decide +kernel)
  have ran : ((detourLab.up (twoDiskMachine detourLab)).run.run (respond plainCraft)
        imageSite).1 = .ok .deployed ∧
      ((Lab.destroy (twoDiskMachine detourLab)).run.run (respond plainCraft)
        ((detourLab.up (twoDiskMachine detourLab)).run.run (respond plainCraft)
          imageSite).2).1 = .ok (.destroyed 0 false) ∧
      ((Lab.destroy (twoDiskMachine detourLab)).run.run (respond plainCraft)
        ((detourLab.up (twoDiskMachine detourLab)).run.run (respond plainCraft)
          imageSite).2).2.files.get? ["l", "w"] = some .directory := by
    decide +kernel
  exact ⟨by decide +kernel, isName_twoDiskMachine _, vacant, by decide +kernel, _, _,
    eq_pair_of_fst ran.1, eq_pair_of_fst ran.2.1, ran.2.2⟩

end Site

end VirtualLab
