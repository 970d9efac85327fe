import VirtualLab.Proofs.DomainFiles
import VirtualLab.Proofs.Leftovers

/-!
# Sites side by side

Two sites with nothing but what is left of a machine, of which one has all that the other has. What
can be done at the site with less can be done at the other; and where all files of the machine are
made at both, they have the same files.
-/

namespace VirtualLab

open BootConfig FileSystem

namespace Site

variable {craft : Craft} {machine : Machine} {image : Path} {start : Site}

theorem not_bootPlace_of_disk {disk : VirtualDisk} (member : disk ∈ VirtualDisk.ofMachine machine)
    {working : Location} : ¬ BootPlace machine working (disk.path.place working) := by
  rintro ⟨path, boot, _, equal⟩
  have same := (Lab.owns_of_mem_ofMachine member).eq_of_place (.boot boot) equal
  obtain ⟨index, _, rfl⟩ := List.mem_mapIdx.mp member
  rw [← same] at boot
  exact Machine.pathAt_not_mem_paths _ _ boot

/-! ## What is to be made -/

/-- A disk of the machine in its place, as it is made from these files. -/
def Due (craft : Craft) (machine : Machine) (image : Path) (files : FileSystem)
    (location : Location) (content : Bytes) : Prop :=
  ∃ disk ∈ VirtualDisk.ofMachine machine, location = disk.path.place files.workingDirectory ∧
    content = craft.diskFrom files (disk.creationArguments (Lab.backingFor image disk))

theorem Due.unique {files : FileSystem} {location : Location} {content other : Bytes}
    (due : Due craft machine image files location content)
    (otherDue : Due craft machine image files location other) : content = other := by
  obtain ⟨disk, member, place, rfl⟩ := due
  obtain ⟨otherDisk, otherMember, otherPlace, rfl⟩ := otherDue
  have path := (Lab.owns_of_mem_ofMachine member).eq_of_place
    (Lab.owns_of_mem_ofMachine otherMember) (place.symm.trans otherPlace)
  rw [VirtualDisk.eq_of_path member otherMember path]

/-- A site from which a machine can be brought up: the image is there and is no file that the
machine boots from, disks that are in their places are found there, and no file is on the way. -/
structure Ready (machine : Machine) (image : Path) (start : Site) : Prop where
  pictured : start.files.isFile image = true
  apart : ¬ BootPlace machine start.files.workingDirectory
    (image.place start.files.workingDirectory)
  found : ∀ disk ∈ VirtualDisk.ofMachine machine, ∀ content,
    start.files.get? (disk.path.place start.files.workingDirectory) = some (.file content) →
      start.files.pathExists disk.path = true
  clear : ∀ stop ∈ machine.workDirectory.stops start.files.workingDirectory, ∀ content,
    start.files.get? stop ≠ some (.file content)

abbrev Left (craft : Craft) (machine : Machine) (image : Path) (start now : Site) : Prop :=
  Strewn machine (Due craft machine image start.files) start now

theorem content_image {made : Location → Bytes → Prop} (ready : Ready machine image start)
    {now : Site} (strewn : Strewn machine made start now) :
    now.files.content image = start.files.content image := by
  obtain ⟨content, reads⟩ := isFile_iff.mp ready.pictured
  obtain ⟨location, found, held⟩ := read_eq_ok.mp reads
  obtain ⟨means, located⟩ := fileLocation?_eq_some.mp found
  have lead := strewn.ahead.lead location
  rw [held] at lead
  have still : now.files.get? location = some (.file content) := by
    generalize now.files.get? location = entry at lead ⊢
    cases lead with
    | same => rfl
    | loose _ boot _ => exact absurd (locate_eq_place located ▸ boot) ready.apart
  have again : now.files.read image = .ok content := read_eq_ok.mpr ⟨location,
    fileLocation?_eq_some.mpr ⟨means, strewn.ahead.keepsDirectories.locate located⟩, still⟩
  rw [FileSystem.content, FileSystem.content, reads, again]

theorem backingOf_creationArguments (disk : VirtualDisk) (backing : Option Path) :
    Craft.backingOf (disk.creationArguments backing) = backing := by
  cases backing with
  | none =>
      unfold Craft.backingOf
      split
      · rename_i shape
        cases congrArg List.length shape
      · rfl
  | some image => rfl

theorem diskFrom_eq {made : Location → Bytes → Prop} (ready : Ready machine image start)
    {now : Site} (strewn : Strewn machine made start now) (disk : VirtualDisk) :
    craft.diskFrom now.files (disk.creationArguments (Lab.backingFor image disk)) =
      craft.diskFrom start.files (disk.creationArguments (Lab.backingFor image disk)) := by
  rw [Craft.diskFrom, Craft.diskFrom, backingOf_creationArguments, Lab.backingFor]
  split
  · exact congrArg _ (content_image ready strewn)
  · rfl

theorem Ready.makes (ready : Ready machine image start) {disk : VirtualDisk}
    (member : disk ∈ VirtualDisk.ofMachine machine) :
    Makes machine (Due craft machine image start.files) craft start disk
      (Lab.backingFor image disk) :=
  ⟨ready.found disk member, fun _ _ strewn => ⟨disk, member, rfl, diskFrom_eq ready strewn disk⟩⟩

theorem equal_of_disk {disk : VirtualDisk} {site other : Site}
    (member : disk ∈ VirtualDisk.ofMachine machine)
    (left : Left craft machine image start site) (otherLeft : Left craft machine image start other)
    {entry otherEntry : Entry}
    (held : site.files.get? (disk.path.place start.files.workingDirectory) = some entry)
    (otherHeld :
      other.files.get? (disk.path.place start.files.workingDirectory) = some otherEntry) :
    entry = otherEntry := by
  have noBoot : ¬ BootPlace machine start.files.workingDirectory
      (disk.path.place start.files.workingDirectory) := not_bootPlace_of_disk member
  have lead := left.ahead.lead (disk.path.place start.files.workingDirectory)
  have otherLead := otherLeft.ahead.lead (disk.path.place start.files.workingDirectory)
  rw [held] at lead
  rw [otherHeld] at otherLead
  generalize start.files.get? (disk.path.place start.files.workingDirectory) = earlier
    at lead otherLead
  cases lead with
  | same =>
      cases otherLead with
      | same => rfl
      | loose _ boot _ => exact absurd boot noBoot
  | directory stop =>
      cases otherLead with
      | directory => rfl
      | loose off => exact absurd stop off
      | made off => exact absurd stop off
  | loose _ boot _ => exact absurd boot noBoot
  | made off due =>
      cases otherLead with
      | directory stop => exact absurd stop off
      | loose _ boot _ => exact absurd boot noBoot
      | made _ otherDue => rw [due.unique otherDue]

/-! ## Two sites side by side -/

/-- Two sites with nothing but what is left of the machine, where the other has all that the first
has, and both have the same at these paths. -/
structure Abreast (craft : Craft) (machine : Machine) (image : Path) (start : Site)
    (paths : List Path) (site other : Site) : Prop where
  left : Left craft machine image start site
  otherLeft : Left craft machine image start other
  covers : Covers site.files other.files
  equal : ∀ path ∈ paths, ∃ entry,
    site.files.get? (path.place start.files.workingDirectory) = some entry ∧
      other.files.get? (path.place start.files.workingDirectory) = some entry

namespace Abreast

variable {paths : List Path} {site other after : Site} {path : Path}

theorem settled (abreast : Abreast craft machine image start paths site other)
    (settled : ∀ stop ∈ machine.workDirectory.stops site.files.workingDirectory,
      site.files.get? stop = some .directory) :
    ∀ stop ∈ machine.workDirectory.stops other.files.workingDirectory,
      other.files.get? stop = some .directory := by
  rw [abreast.covers.workingDirectory]
  exact fun stop member => abreast.covers.kept stop (settled stop member)

theorem writable (abreast : Abreast craft machine image start paths site other)
    (writable : machine.Writable site.files path) : machine.Writable other.files path := by
  refine ⟨writable.means, abreast.settled writable.settled, fun held => ?_⟩
  have off := writable.off
  have free := writable.free
  rw [abreast.covers.workingDirectory] at held
  rw [abreast.left.ahead.workingDirectory] at off free held
  have lead := abreast.otherLeft.ahead.lead (path.place start.files.workingDirectory)
  rw [held] at lead
  generalize equal : start.files.get? (path.place start.files.workingDirectory) = entry at lead
  cases lead with
  | same => exact free (abreast.left.ahead.keepsDirectories.kept _ equal)
  | directory stop => exact off stop

theorem write {content : Bytes} (abreast : Abreast craft machine image start paths site other)
    (owns : machine.Owns path)
    (leaves : ∀ {now after}, Left craft machine image start now → Wrote path content now after →
      Left craft machine image start after)
    (wrote : Wrote path content site after) :
    ∃ ended, Wrote path content other ended ∧
      Abreast craft machine image start (path :: paths) after ended := by
  have left := leaves abreast.left wrote
  obtain ⟨changed, written, rfl⟩ := wrote
  obtain ⟨writable, rfl⟩ := owns.write_eq_ok.mp written
  have again : Wrote path content other _ :=
    ⟨_, owns.write_eq_ok.mpr ⟨abreast.writable writable, rfl⟩, rfl⟩
  have otherLeft := leaves abreast.otherLeft again
  have place := abreast.left.ahead.workingDirectory
  have otherPlace := abreast.otherLeft.ahead.workingDirectory
  have below : path.place start.files.workingDirectory ≠ [] := fun root =>
    writable.free (by rw [place, root, get?_root])
  refine ⟨_, again, left, otherLeft, ?_, fun this member => ?_⟩
  · rw [place, otherPlace]
    exact abreast.covers.put below
  · simp only [place, otherPlace, get?_put below]
    split
    · exact ⟨_, rfl, rfl⟩
    · rename_i differs
      rcases List.mem_cons.mp member with rfl | among
      · exact absurd rfl differs
      · exact abreast.equal this among

theorem createDirectories (abreast : Abreast craft machine image start paths site other)
    (ready : Ready machine image start) (owns : machine.Owns path) {directory : Path}
    (above : path.parent = some directory) {changed : FileSystem}
    (made : site.files.createDirectories directory = (.ok (), changed)) :
    ∃ otherChanged, other.files.createDirectories directory = (.ok (), otherChanged) ∧
      Abreast craft machine image start paths { site with files := changed }
        { other with files := otherChanged } := by
  have stops : directory.stops site.files.workingDirectory =
      machine.workDirectory.stops start.files.workingDirectory := by
    rw [abreast.left.ahead.workingDirectory]
    exact owns.stops_parent above _
  have free : ∀ place ∈ directory.stops site.files.workingDirectory, ∀ content,
      other.files.get? place ≠ some (.file content) := by
    intro place stop content held
    rw [stops] at stop
    have lead := abreast.otherLeft.ahead.lead place
    rw [held] at lead
    generalize equal : start.files.get? place = entry at lead
    cases lead with
    | same => exact ready.clear place stop content equal
    | loose off => exact off stop
    | made off => exact off stop
  obtain ⟨otherChanged, otherMade, keeps⟩ :=
    createDirectoriesWithin_of_keepsDirectories abreast.covers.toKeepsDirectories free made
  have adds := createDirectories_adds site.files directory
  have otherAdds := createDirectories_adds other.files directory
  rw [made] at adds
  rw [FileSystem.createDirectories, otherMade] at otherAdds
  refine ⟨otherChanged, otherMade, ?_, ?_, ⟨keeps, fun location content held => ?_⟩, ?_⟩
  · exact abreast.left.createDirectories owns above
      (.inl (by rw [respond, made]) : conduct craft (.createDirectories directory) site (.ok ()) _)
  · exact abreast.otherLeft.createDirectories owns above
      (.inl (by rw [respond, FileSystem.createDirectories, otherMade]) :
        conduct craft (.createDirectories directory) other (.ok ()) _)
  · obtain ⟨already, there⟩ := abreast.covers.file location content (adds.file held)
    exact ⟨already, otherAdds.kept location _ there⟩
  · intro this member
    obtain ⟨entry, held, there⟩ := abreast.equal this member
    exact ⟨entry, adds.kept _ _ held, otherAdds.kept _ _ there⟩

theorem mono (abreast : Abreast craft machine image start paths site other)
    {fewer : List Path} (among : ∀ path ∈ fewer, path ∈ paths) :
    Abreast craft machine image start fewer site other :=
  { abreast with equal := fun path member => abreast.equal path (among path member) }

/-- Where all disks are made, a file that the machine does not boot from is the same at both
sites. -/
theorem file (abreast : Abreast craft machine image start paths site other)
    (stocked : ∀ disk ∈ VirtualDisk.ofMachine machine, disk.path ∈ paths) {location : Location}
    {content : Bytes} (apart : ¬ BootPlace machine start.files.workingDirectory location)
    (held : site.files.get? location = some (.file content)) :
    other.files.get? location = some (.file content) := by
  have lead := abreast.left.ahead.lead location
  have otherLead := abreast.otherLeft.ahead.lead location
  rw [held] at lead
  generalize start.files.get? location = earlier at lead otherLead
  cases lead with
  | same =>
      generalize other.files.get? location = there at otherLead ⊢
      cases otherLead with
      | same => rfl
      | loose _ boot _ => exact absurd boot apart
  | loose _ boot _ => exact absurd boot apart
  | made _ due =>
      obtain ⟨disk, member, rfl, _⟩ := due
      obtain ⟨entry, there, otherThere⟩ := abreast.equal _ (stocked disk member)
      rw [otherThere, ← there, held]

theorem read (abreast : Abreast craft machine image start paths site other)
    (stocked : ∀ disk ∈ VirtualDisk.ofMachine machine, disk.path ∈ paths) {content : Bytes}
    (apart : ¬ BootPlace machine start.files.workingDirectory
      (path.place start.files.workingDirectory))
    (reads : site.files.read path = .ok content) : other.files.read path = .ok content := by
  obtain ⟨location, found, held⟩ := read_eq_ok.mp reads
  obtain ⟨means, located⟩ := fileLocation?_eq_some.mp found
  have place := locate_eq_place located
  rw [abreast.left.ahead.workingDirectory] at place
  subst place
  exact read_eq_ok.mpr ⟨_, fileLocation?_eq_some.mpr ⟨means, abreast.covers.locate located⟩,
    abreast.file stocked apart held⟩

theorem sameDirectories
    (abreast : Abreast craft machine image start paths site other)
    (settled : ∀ stop ∈ machine.workDirectory.stops start.files.workingDirectory,
      site.files.get? stop = some .directory) : SameDirectories site.files other.files := by
  refine ⟨abreast.covers.workingDirectory, fun location =>
    ⟨fun held => ?_, abreast.covers.kept location⟩⟩
  have lead := abreast.otherLeft.ahead.lead location
  rw [held] at lead
  generalize equal : start.files.get? location = earlier at lead
  cases lead with
  | same => exact abreast.left.ahead.keepsDirectories.kept location equal
  | directory stop => exact settled location stop

theorem content
    (abreast : Abreast craft machine image start paths site other)
    (same : SameDirectories site.files other.files) (member : path ∈ paths) :
    other.files.content path = site.files.content path := by
  obtain ⟨entry, held, otherHeld⟩ := abreast.equal path member
  have reads : ∀ content, other.files.read path = .ok content ↔
      site.files.read path = .ok content := by
    intro content
    rw [read_eq_ok, read_eq_ok, same.fileLocation?]
    refine exists_congr fun location => and_congr_right fun found => ?_
    have place := locate_eq_place (fileLocation?_eq_some.mp found).2
    rw [place, abreast.left.ahead.workingDirectory, held, otherHeld]
  unfold FileSystem.content
  cases read : site.files.read path with
  | ok content => rw [(reads content).mpr read]
  | error cause =>
      cases otherRead : other.files.read path with
      | ok content =>
          rw [(reads content).mp otherRead] at read
          cases read
      | error => rfl

/-- Where the way is made and all files of the machine are there, the files are the same. -/
theorem get?_eq (abreast : Abreast craft machine image start machine.files site other)
    (settled : Settled machine site) (location : Location) :
    other.files.get? location = site.files.get? location := by
  have made := settled.made
  rw [abreast.left.ahead.workingDirectory] at made
  have own : ∀ path ∈ machine.files, location = path.place start.files.workingDirectory →
      other.files.get? location = site.files.get? location := by
    rintro path member rfl
    obtain ⟨entry, held, otherHeld⟩ := abreast.equal path member
    rw [held, otherHeld]
  have boot : BootPlace machine start.files.workingDirectory location →
      other.files.get? location = site.files.get? location := by
    rintro ⟨path, member, _, place⟩
    exact own path (List.mem_append_right _ member) place
  have disk : ∀ content, Due craft machine image start.files location content →
      other.files.get? location = site.files.get? location := by
    rintro content ⟨disk, member, place, _⟩
    exact own disk.path (List.mem_append_left _ (List.mem_map_of_mem member)) place
  by_cases stop : location ∈ machine.workDirectory.stops start.files.workingDirectory
  · rw [made location stop, abreast.covers.kept location (made location stop)]
  · have lead := abreast.left.ahead.lead location
    have otherLead := abreast.otherLeft.ahead.lead location
    generalize start.files.get? location = earlier at lead otherLead
    generalize site.files.get? location = here at lead boot disk ⊢
    generalize other.files.get? location = there at otherLead boot disk ⊢
    cases lead with
    | same =>
        cases otherLead with
        | same => rfl
        | directory isStop => exact absurd isStop stop
        | loose _ isBoot _ => exact boot isBoot
        | made _ due => exact disk _ due
    | directory isStop => exact absurd isStop stop
    | loose _ isBoot _ => exact boot isBoot
    | made _ due => exact disk _ due

end Abreast

end Site

end VirtualLab
