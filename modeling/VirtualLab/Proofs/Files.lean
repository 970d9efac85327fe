import VirtualLab.Proofs.Places

/-!
# Operations on files

What the operations of a file system change and what they leave. Operations on single files keep
all directories, so a path that could be followed before leads to the same place afterwards.
-/

namespace VirtualLab

namespace FileSystem

/-! ## Locations -/

@[simp] theorem get?_root (files : FileSystem) : files.get? [] = some .directory := by
  simp [get?]

private theorem lookup_erased (entries : List (Location × Entry)) (location other : Location) :
    (entries.filter (·.1 != location)).lookup other =
      if other = location then none else entries.lookup other := by
  induction entries with
  | nil => simp
  | cons entry rest induction =>
      obtain ⟨here, content⟩ := entry
      by_cases same : here = location <;> by_cases found : other = here <;>
        simp_all [List.lookup_cons] <;> grind

theorem get?_erase {files : FileSystem} {location : Location} (below : location ≠ [])
    (other : Location) :
    (files.erase location).get? other = if other = location then none else files.get? other := by
  by_cases root : other = []
  · subst root
    simp [Ne.symm below]
  · simpa [get?, root, erase] using lookup_erased files.entries location other

theorem get?_erase_of_ne (files : FileSystem) {location other : Location}
    (differs : other ≠ location) : (files.erase location).get? other = files.get? other := by
  by_cases root : other = []
  · simp [root]
  · simpa [get?, root, erase, differs] using lookup_erased files.entries location other

theorem get?_put {files : FileSystem} {location : Location} (below : location ≠ [])
    (other : Location) (entry : Entry) :
    (files.put location entry).get? other =
      if other = location then some entry else files.get? other := by
  by_cases same : other = location
  · subst same
    simp [get?, put, below]
  · have erased : (files.erase location).get? other = _ := get?_erase below other
    by_cases root : other = []
    · simp [root, Ne.symm below]
    · have differs : (other == location) = false := by simpa using same
      simpa [get?, put, root, same, List.lookup_cons, differs] using erased

/-! ## Following paths in two file systems -/

theorem follow_of_passed_kept {before after : FileSystem} {here location : Location}
    {names : List String}
    (kept : ∀ place ∈ Path.passed here names, before.get? place = some .directory →
      after.get? place = some .directory)
    (followed : before.follow here names = .ok location) :
    after.follow here names = .ok location := by
  fun_induction follow before here names with
  | case1 => exact followed
  | case2 => cases followed
  | case3 => cases followed
  | case4 here rest directory induction =>
      have parts := List.forall_mem_cons.mp kept
      rw [follow, parts.1 directory]
      simpa using induction parts.2 followed
  | case5 => cases followed
  | case6 here name rest directory notUp short induction =>
      have parts := List.forall_mem_cons.mp kept
      rw [Path.step, if_neg notUp] at parts
      rw [follow, parts.1 directory]
      simpa [notUp, short] using induction parts.2 followed

theorem locate_of_passed_kept {before after : FileSystem} {path : Path} {location : Location}
    (workingDirectory : after.workingDirectory = before.workingDirectory)
    (kept : ∀ place ∈ path.passes before.workingDirectory, before.get? place = some .directory →
      after.get? place = some .directory)
    (located : before.locate path = .ok location) : after.locate path = .ok location := by
  unfold locate at located ⊢
  split at located
  · cases located
  · split at located
    · cases located
    · split at located
      · cases located
      · rw [workingDirectory]
        have followed := follow_of_passed_kept kept located
        simp_all [Path.origin]

theorem locate_of_directories_kept {before after : FileSystem}
    (workingDirectory : after.workingDirectory = before.workingDirectory)
    (kept : ∀ location, before.get? location = some .directory →
      after.get? location = some .directory)
    {path : Path} {location : Location} (located : before.locate path = .ok location) :
    after.locate path = .ok location :=
  locate_of_passed_kept workingDirectory (fun place _ => kept place) located

structure SameDirectories (before after : FileSystem) : Prop where
  workingDirectory : after.workingDirectory = before.workingDirectory
  directory_iff : ∀ location,
    after.get? location = some .directory ↔ before.get? location = some .directory

namespace SameDirectories

variable {before middle after : FileSystem}

theorem refl (files : FileSystem) : SameDirectories files files := ⟨rfl, fun _ => Iff.rfl⟩

theorem symm (same : SameDirectories before after) : SameDirectories after before :=
  ⟨same.workingDirectory.symm, fun location => (same.directory_iff location).symm⟩

theorem trans (first : SameDirectories before middle) (second : SameDirectories middle after) :
    SameDirectories before after :=
  ⟨second.workingDirectory.trans first.workingDirectory,
    fun location => (second.directory_iff location).trans (first.directory_iff location)⟩

theorem locate (same : SameDirectories before after) {path : Path} {location : Location} :
    after.locate path = .ok location ↔ before.locate path = .ok location :=
  ⟨locate_of_directories_kept same.symm.workingDirectory
      fun location => (same.directory_iff location).mp,
    locate_of_directories_kept same.workingDirectory
      fun location => (same.directory_iff location).mpr⟩

theorem fileLocation? (same : SameDirectories before after) (path : Path) :
    after.fileLocation? path = before.fileLocation? path := by
  apply Option.ext
  intro location
  rw [fileLocation?_eq_some, fileLocation?_eq_some, same.locate]

end SameDirectories

/-! ## Reading -/

variable {files : FileSystem} {path : Path}

theorem find_eq_ok {location : Location} {content : Bytes} :
    files.find path = .ok (location, .file content) ↔
      files.fileLocation? path = some location ∧ files.get? location = some (.file content) := by
  rw [fileLocation?_eq_some, find]
  cases located : files.locate path with
  | error cause => simp [bind, Except.bind]
  | ok here =>
      simp only [bind, Except.bind]
      cases entry : files.get? here with
      | none =>
          simp [throw, throwThe, MonadExceptOf.throw]
          grind
      | some kind =>
          cases kind with
          | directory =>
              simp [pure, Except.pure]
              grind
          | file held =>
              cases meansDirectory path
              · simp [pure, Except.pure]
                grind
              · simp [throw, throwThe, MonadExceptOf.throw]

theorem read_eq_ok {content : Bytes} :
    files.read path = .ok content ↔
      ∃ location, files.fileLocation? path = some location ∧
        files.get? location = some (.file content) := by
  simp only [← find_eq_ok]
  unfold read
  cases files.find path with
  | error cause => simp [bind, Except.bind]
  | ok found =>
      obtain ⟨location, entry⟩ := found
      cases entry <;>
        simp [bind, Except.bind, pure, Except.pure, throw, throwThe, MonadExceptOf.throw]

theorem isFile_iff : files.isFile path = true ↔ ∃ content, files.read path = .ok content := by
  simp only [read_eq_ok, ← find_eq_ok]
  unfold isFile
  split
  · rename_i location content found
    exact ⟨fun _ => ⟨content, location, found⟩, fun _ => rfl⟩
  · rename_i other
    exact ⟨fun impossible => (Bool.false_ne_true impossible).elim,
      fun ⟨content, location, found⟩ => absurd found (other location content)⟩

theorem pathExists_of_isFile (file : files.isFile path = true) : files.pathExists path = true := by
  obtain ⟨content, reads⟩ := isFile_iff.mp file
  obtain ⟨location, found⟩ := read_eq_ok.mp reads
  rw [pathExists, find_eq_ok.mpr found]
  rfl

/-! ## Changing files -/

/-- The second file system has the directories of the first and, except where these paths mean a
file, its files. -/
structure DiffersOnlyAt (paths : List Path) (before after : FileSystem) : Prop extends
    SameDirectories before after where
  elsewhere : ∀ location, (∀ path ∈ paths, before.fileLocation? path ≠ some location) →
    after.get? location = before.get? location

namespace DiffersOnlyAt

variable {paths : List Path} {before middle after : FileSystem}

theorem refl (paths : List Path) (files : FileSystem) : DiffersOnlyAt paths files files :=
  ⟨.refl files, fun _ _ => rfl⟩

theorem trans (first : DiffersOnlyAt paths before middle)
    (second : DiffersOnlyAt paths middle after) : DiffersOnlyAt paths before after where
  toSameDirectories := first.toSameDirectories.trans second.toSameDirectories
  elsewhere location outside := by
    rw [second.elsewhere location, first.elsewhere location outside]
    intro path member
    rw [first.toSameDirectories.fileLocation?]
    exact outside path member

theorem mono {more : List Path} (differs : DiffersOnlyAt paths before after)
    (included : ∀ path ∈ paths, path ∈ more) : DiffersOnlyAt more before after where
  toSameDirectories := differs.toSameDirectories
  elsewhere location outside :=
    differs.elsewhere location fun path member => outside path (included path member)

theorem read (differs : DiffersOnlyAt paths before after) {path : Path}
    (apart : ∀ other ∈ paths, other.Apart path) {content : Bytes} :
    after.read path = .ok content ↔ before.read path = .ok content := by
  have same : ∀ location, before.fileLocation? path = some location →
      after.get? location = before.get? location := fun location found =>
    differs.elsewhere location fun other member meant =>
      apart other member before location meant found
  rw [read_eq_ok, read_eq_ok, differs.toSameDirectories.fileLocation?]
  constructor
  · rintro ⟨location, found, entry⟩
    exact ⟨location, found, same location found ▸ entry⟩
  · rintro ⟨location, found, entry⟩
    exact ⟨location, found, (same location found).trans entry⟩

theorem isFile (differs : DiffersOnlyAt paths before after) {path : Path}
    (apart : ∀ other ∈ paths, other.Apart path) : after.isFile path = before.isFile path := by
  rw [Bool.eq_iff_iff, isFile_iff, isFile_iff]
  exact exists_congr fun content => differs.read apart

end DiffersOnlyAt

variable {after : FileSystem}

private theorem ne_root {location : Location} (free : files.get? location ≠ some .directory) :
    location ≠ [] := fun root => free (root ▸ files.get?_root)

theorem differsOnlyAt_put {location : Location} {content : Bytes} {paths : List Path}
    (found : files.fileLocation? path = some location) (member : path ∈ paths)
    (free : files.get? location ≠ some .directory) :
    DiffersOnlyAt paths files (files.put location (.file content)) where
  workingDirectory := rfl
  directory_iff other := by
    rw [get?_put (ne_root free)]
    by_cases same : other = location
    · simp [same, free]
    · simp [same]
  elsewhere other outside := by
    rw [get?_put (ne_root free), if_neg]
    intro same
    exact outside path member (same ▸ found)

theorem differsOnlyAt_erase {location : Location} {content : Bytes} {paths : List Path}
    (found : files.fileLocation? path = some location) (member : path ∈ paths)
    (held : files.get? location = some (.file content)) :
    DiffersOnlyAt paths files (files.erase location) := by
  have free : files.get? location ≠ some .directory := by simp [held]
  refine ⟨⟨rfl, fun other => ?_⟩, fun other outside => ?_⟩
  · rw [get?_erase (ne_root free)]
    by_cases same : other = location
    · simp [same, free]
    · simp [same]
  · rw [get?_erase (ne_root free), if_neg]
    intro same
    exact outside path member (same ▸ found)

theorem modifyFile_eq_ok {change : Bytes → Bytes}
    (changed : files.modifyFile path change = .ok after) :
    ∃ location content, files.fileLocation? path = some location ∧
      files.get? location ≠ some .directory ∧
        after = files.put location (.file (change content)) := by
  unfold modifyFile at changed
  cases located : files.locate path with
  | error cause => simp [located, bind, Except.bind] at changed
  | ok location =>
      have found : meansDirectory path = false → files.fileLocation? path = some location :=
        fun file => fileLocation?_eq_some.mpr ⟨file, located⟩
      simp only [located, bind, Except.bind] at changed
      cases entry : files.get? location with
      | none =>
          cases file : meansDirectory path with
          | true => simp [entry, file, throw, throwThe, MonadExceptOf.throw] at changed
          | false =>
              simp [entry, file, pure, Except.pure] at changed
              exact ⟨location, [], found file, by simp [entry], changed.symm⟩
      | some kind =>
          cases kind with
          | directory => simp [entry, throw, throwThe, MonadExceptOf.throw] at changed
          | file content =>
              cases file : meansDirectory path with
              | true => simp [entry, file, throw, throwThe, MonadExceptOf.throw] at changed
              | false =>
                  simp [entry, file, pure, Except.pure] at changed
                  exact ⟨location, content, found file, by simp [entry], changed.symm⟩

theorem modifyFile_differs {change : Bytes → Bytes} {paths : List Path}
    (changed : files.modifyFile path change = .ok after) (member : path ∈ paths) :
    DiffersOnlyAt paths files after := by
  obtain ⟨location, content, found, free, rfl⟩ := modifyFile_eq_ok changed
  exact differsOnlyAt_put found member free

theorem read_of_write {content : Bytes} (written : files.write path content = .ok after) :
    after.read path = .ok content := by
  obtain ⟨location, _, found, free, rfl⟩ := modifyFile_eq_ok written
  have differs : DiffersOnlyAt [path] files (files.put location (.file content)) :=
    differsOnlyAt_put found (List.mem_singleton.mpr rfl) free
  refine read_eq_ok.mpr ⟨location, ?_, ?_⟩
  · rw [differs.toSameDirectories.fileLocation?, found]
  · rw [get?_put (ne_root free), if_pos rfl]

theorem removeFile_eq_ok (removed : files.removeFile path = .ok after) :
    ∃ location content, files.fileLocation? path = some location ∧
      files.get? location = some (.file content) ∧ after = files.erase location := by
  unfold removeFile at removed
  cases found : files.find path with
  | error cause => simp [found, bind, Except.bind] at removed
  | ok result =>
      obtain ⟨location, entry⟩ := result
      cases entry with
      | directory =>
          simp [found, bind, Except.bind, throw, throwThe, MonadExceptOf.throw] at removed
      | file content =>
          obtain ⟨here, held⟩ := find_eq_ok.mp found
          simp [found, bind, Except.bind, pure, Except.pure] at removed
          exact ⟨location, content, here, held, removed.symm⟩

theorem removeFile_differs {paths : List Path} (removed : files.removeFile path = .ok after)
    (member : path ∈ paths) : DiffersOnlyAt paths files after := by
  obtain ⟨location, content, found, held, rfl⟩ := removeFile_eq_ok removed
  exact differsOnlyAt_erase found member held

theorem not_isFile_of_removeFile (removed : files.removeFile path = .ok after) :
    after.isFile path = false := by
  obtain ⟨location, content, found, held, rfl⟩ := removeFile_eq_ok removed
  have differs : DiffersOnlyAt [path] files (files.erase location) :=
    differsOnlyAt_erase found (List.mem_singleton.mpr rfl) held
  have free : files.get? location ≠ some .directory := by simp [held]
  rw [Bool.eq_false_iff, Ne, isFile_iff]
  rintro ⟨other, reads⟩
  obtain ⟨here, meant, entry⟩ := read_eq_ok.mp reads
  rw [differs.toSameDirectories.fileLocation?, found, Option.some_inj] at meant
  rw [get?_erase (ne_root free), if_pos meant.symm] at entry
  cases entry

theorem not_isFile_of_not_removeFile {cause : FileError}
    (failed : files.removeFile path = .error cause) : files.isFile path = false := by
  unfold removeFile at failed
  unfold isFile
  split
  · rename_i found
    simp [found, bind, Except.bind, pure, Except.pure] at failed
  · rfl

theorem rename_differs {source target : Path} {paths : List Path}
    (renamed : files.rename source target = .ok after) (sourceMember : source ∈ paths)
    (targetMember : target ∈ paths) : DiffersOnlyAt paths files after := by
  unfold rename at renamed
  cases content : files.read source with
  | error cause => simp [content, bind, Except.bind] at renamed
  | ok bytes =>
      obtain ⟨location, found, held⟩ := read_eq_ok.mp content
      have located := (fileLocation?_eq_some.mp found).2
      simp only [content, located, bind, Except.bind] at renamed
      exact (differsOnlyAt_erase found sourceMember held).trans
        (modifyFile_differs renamed targetMember)

theorem not_isFile_of_rename {source target : Path} (apart : source.Apart target)
    (renamed : files.rename source target = .ok after) : after.isFile source = false := by
  unfold rename at renamed
  cases content : files.read source with
  | error cause => simp [content, bind, Except.bind] at renamed
  | ok bytes =>
      obtain ⟨location, found, held⟩ := read_eq_ok.mp content
      have located := (fileLocation?_eq_some.mp found).2
      simp only [content, located, bind, Except.bind] at renamed
      have removed : files.removeFile source = .ok (files.erase location) := by
        simp [removeFile, find_eq_ok.mpr ⟨found, held⟩, bind, Except.bind, pure, Except.pure]
      have differs : DiffersOnlyAt [target] (files.erase location) after :=
        modifyFile_differs renamed (List.mem_singleton.mpr rfl)
      rw [differs.isFile (by simpa using apart.symm)]
      exact not_isFile_of_removeFile removed

/-! ## Making directories -/

/-- The second file system is the first with more directories. -/
structure AddsDirectories (before after : FileSystem) : Prop where
  workingDirectory : after.workingDirectory = before.workingDirectory
  kept : ∀ location entry, before.get? location = some entry → after.get? location = some entry
  added : ∀ location entry, before.get? location = none → after.get? location = some entry →
    entry = .directory

namespace AddsDirectories

variable {before middle after : FileSystem}

theorem refl (files : FileSystem) : AddsDirectories files files :=
  ⟨rfl, fun _ _ held => held, fun location entry absent held => by simp [absent] at held⟩

theorem trans (first : AddsDirectories before middle) (second : AddsDirectories middle after) :
    AddsDirectories before after where
  workingDirectory := second.workingDirectory.trans first.workingDirectory
  kept location entry held := second.kept location entry (first.kept location entry held)
  added location entry absent held := by
    cases between : middle.get? location with
    | none => exact second.added location entry between held
    | some other =>
        have equal : some other = some entry :=
          (second.kept location other between).symm.trans held
        exact Option.some_inj.mp equal ▸ first.added location other absent between

theorem fileLocation? (adds : AddsDirectories before after) {path : Path} {location : Location}
    (found : before.fileLocation? path = some location) :
    after.fileLocation? path = some location := by
  obtain ⟨file, located⟩ := fileLocation?_eq_some.mp found
  exact fileLocation?_eq_some.mpr ⟨file, locate_of_directories_kept adds.workingDirectory
    (fun place => adds.kept place .directory) located⟩

theorem read (adds : AddsDirectories before after) {path : Path} {content : Bytes}
    (reads : before.read path = .ok content) : after.read path = .ok content := by
  obtain ⟨location, found, held⟩ := read_eq_ok.mp reads
  exact read_eq_ok.mpr ⟨location, adds.fileLocation? found, adds.kept location _ held⟩

/-- Where a file could be read before, no other content can be read afterwards. -/
theorem read_of_isFile (adds : AddsDirectories before after) {path : Path}
    (file : before.isFile path = true) {content : Bytes} (reads : after.read path = .ok content) :
    before.read path = .ok content := by
  obtain ⟨earlier, was⟩ := isFile_iff.mp file
  have equal := (adds.read was).symm.trans reads
  cases equal
  exact was

end AddsDirectories

theorem makeDirectory_adds (made : files.makeDirectory path = .ok after) :
    AddsDirectories files after := by
  unfold makeDirectory at made
  cases located : files.locate path with
  | error cause => simp [located, bind, Except.bind] at made
  | ok location =>
      simp only [located, bind, Except.bind] at made
      cases absent : files.get? location with
      | some entry => simp [absent, throw, throwThe, MonadExceptOf.throw] at made
      | none =>
          have below : location ≠ [] := fun root => by simp [root] at absent
          cases dot : endsInDot path with
          | true => simp [absent, dot, throw, throwThe, MonadExceptOf.throw] at made
          | false =>
              simp [absent, dot, pure, Except.pure] at made
              subst made
              refine ⟨rfl, fun other entry held => ?_, fun other entry free held => ?_⟩
              · rw [get?_put below, if_neg]
                · exact held
                · rintro rfl
                  simp [absent] at held
              · rw [get?_put below] at held
                split at held
                · exact (Option.some_inj.mp held).symm
                · simp [free] at held

theorem makeOrKeep_adds (path : Path) (files : FileSystem) :
    AddsDirectories files (createDirectoriesWithin.makeOrKeep path files).2 := by
  unfold createDirectoriesWithin.makeOrKeep
  cases made : files.makeDirectory path with
  | ok after => exact makeDirectory_adds made
  | error cause => exact .refl files

theorem createDirectoriesWithin_adds (bound : Nat) (path : Path) (files : FileSystem) :
    AddsDirectories files (createDirectoriesWithin bound path files).2 := by
  fun_induction createDirectoriesWithin bound path files with
  | case1 => exact .refl _
  | case2 => exact .refl _
  | case3 bound path files _ made equal => exact makeDirectory_adds equal
  | case4 bound path files _ directory _ _ cause between equal induction =>
      rwa [equal] at induction
  | case5 bound path files _ directory _ _ between equal induction =>
      rw [equal] at induction
      exact induction.trans (makeOrKeep_adds path between)
  | case6 bound path files => exact makeOrKeep_adds path files

theorem createDirectories_adds (files : FileSystem) (path : Path) :
    AddsDirectories files (files.createDirectories path).2 :=
  createDirectoriesWithin_adds _ path files

/-- Making a directory brings no file to light at this path. A path that goes up again from a
directory that is missing could. -/
def InView (files : FileSystem) (directory path : Path) : Prop :=
  (files.createDirectories directory).2.isFile path = true → files.isFile path = true

theorem InView.read {files : FileSystem} {directory path : Path}
    (inView : files.InView directory path) {content : Bytes} :
    (files.createDirectories directory).2.read path = .ok content ↔
      files.read path = .ok content := by
  have adds := createDirectories_adds files directory
  constructor
  · intro reads
    exact adds.read_of_isFile (inView (isFile_iff.mpr ⟨content, reads⟩)) reads
  · exact adds.read

/-! ## Keeping what is there -/

def HasFile (files : FileSystem) (location : Location) : Prop :=
  ∃ content, files.get? location = some (.file content)

/-- Except at lost locations, directories are directories and files are files. -/
structure Keeps (lost : Location → Prop) (before after : FileSystem) : Prop where
  workingDirectory : after.workingDirectory = before.workingDirectory
  directory : ∀ location, ¬ lost location → before.get? location = some .directory →
    after.get? location = some .directory
  file : ∀ location, ¬ lost location → before.HasFile location → after.HasFile location

namespace Keeps

variable {lost more : Location → Prop} {before middle after : FileSystem}

theorem refl (lost : Location → Prop) (files : FileSystem) : Keeps lost files files :=
  ⟨rfl, fun _ _ held => held, fun _ _ held => held⟩

theorem trans (first : Keeps lost before middle) (second : Keeps lost middle after) :
    Keeps lost before after where
  workingDirectory := second.workingDirectory.trans first.workingDirectory
  directory location kept held :=
    second.directory location kept (first.directory location kept held)
  file location kept held := second.file location kept (first.file location kept held)

theorem mono (keeps : Keeps lost before after)
    (included : ∀ location, lost location → more location) : Keeps more before after where
  workingDirectory := keeps.workingDirectory
  directory location kept := keeps.directory location fun loses => kept (included location loses)
  file location kept := keeps.file location fun loses => kept (included location loses)

theorem occupied {location : Location} (keeps : Keeps lost before after) (kept : ¬ lost location)
    (held : (before.get? location).isSome) : (after.get? location).isSome := by
  obtain ⟨entry, equal⟩ := Option.isSome_iff_exists.mp held
  cases entry with
  | directory => rw [keeps.directory location kept equal, Option.isSome_some]
  | file content =>
      obtain ⟨_, remains⟩ := keeps.file location kept ⟨content, equal⟩
      rw [remains, Option.isSome_some]

end Keeps

theorem AddsDirectories.keeps {before after : FileSystem} (adds : AddsDirectories before after)
    (lost : Location → Prop) : Keeps lost before after where
  workingDirectory := adds.workingDirectory
  directory location _ held := adds.kept location _ held
  file location _ held := held.imp fun _ equal => adds.kept location _ equal

theorem keeps_put {location : Location} (free : files.get? location ≠ some .directory)
    (content : Bytes) (lost : Location → Prop) :
    Keeps lost files (files.put location (.file content)) := by
  refine ⟨rfl, fun other _ held => ?_, fun other _ ⟨earlier, held⟩ => ?_⟩
  · rw [get?_put (ne_root free), if_neg]
    · exact held
    · rintro rfl
      exact free held
  · rw [HasFile, get?_put (ne_root free)]
    split
    · exact ⟨content, rfl⟩
    · exact ⟨earlier, held⟩

theorem keeps_erase (files : FileSystem) (location : Location) :
    Keeps (· = location) files (files.erase location) := by
  refine ⟨rfl, fun other differs held => ?_, fun other differs held => ?_⟩
  · rw [get?_erase_of_ne files differs, held]
  · rwa [HasFile, get?_erase_of_ne files differs]

theorem modifyFile_keeps {change : Bytes → Bytes}
    (changed : files.modifyFile path change = .ok after) (lost : Location → Prop) :
    Keeps lost files after := by
  obtain ⟨location, content, _, free, rfl⟩ := modifyFile_eq_ok changed
  exact keeps_put free _ lost

theorem isFile_of_write {content : Bytes} (written : files.write path content = .ok after) :
    after.isFile path = true :=
  isFile_iff.mpr ⟨content, read_of_write written⟩

theorem removeFile_keeps (removed : files.removeFile path = .ok after) :
    Keeps (· = path.place files.workingDirectory) files after := by
  obtain ⟨location, content, found, _, rfl⟩ := removeFile_eq_ok removed
  rw [← locate_eq_place (fileLocation?_eq_some.mp found).2]
  exact keeps_erase files location

theorem locate_of_find {location : Location} {entry : Entry}
    (found : files.find path = .ok (location, entry)) : files.locate path = .ok location := by
  unfold find at found
  cases located : files.locate path with
  | error cause => simp [located, bind, Except.bind] at found
  | ok here =>
      simp only [located, bind, Except.bind] at found
      split at found
      · cases found
      · cases found
        rfl
      · split at found <;> cases found
        rfl

theorem removeDirectory_keeps (removed : files.removeDirectory path = .ok after) :
    Keeps (· = path.place files.workingDirectory) files after := by
  unfold removeDirectory at removed
  cases found : files.find path with
  | error cause => simp [found, bind, Except.bind] at removed
  | ok result =>
      obtain ⟨location, entry⟩ := result
      cases entry with
      | file content =>
          simp [found, bind, Except.bind, throw, throwThe, MonadExceptOf.throw] at removed
      | directory =>
          simp only [found, bind, Except.bind] at removed
          split at removed
          · cases removed
          · split at removed
            · cases removed
            · cases removed
              rw [← locate_eq_place (locate_of_find found)]
              exact keeps_erase files location

theorem rename_keeps {source target : Path} (renamed : files.rename source target = .ok after) :
    Keeps (· = source.place files.workingDirectory) files after := by
  unfold rename at renamed
  cases content : files.read source with
  | error cause => simp [content, bind, Except.bind] at renamed
  | ok bytes =>
      obtain ⟨location, found, held⟩ := read_eq_ok.mp content
      have located := (fileLocation?_eq_some.mp found).2
      simp only [content, located, bind, Except.bind] at renamed
      rw [← locate_eq_place located]
      exact (keeps_erase files location).trans (modifyFile_keeps renamed _)

/-- Something is where the path leads; while the way there is clear, the path is also found to
exist. -/
structure Holds (clear : Prop) (files : FileSystem) (path : Path) : Prop where
  occupied : (files.get? (path.place files.workingDirectory)).isSome
  found : clear → files.pathExists path = true

theorem pathExists_iff : files.pathExists path = true ↔
    ∃ location entry, files.locate path = .ok location ∧ files.get? location = some entry ∧
      (meansDirectory path = true → entry = .directory) := by
  unfold pathExists find
  cases located : files.locate path with
  | error cause => simp [bind, Except.bind, Except.isOk, Except.toBool]
  | ok location =>
      cases held : files.get? location with
      | none => simp [bind, Except.bind, held, throw, throwThe, MonadExceptOf.throw, Except.isOk,
          Except.toBool]
      | some entry =>
          cases entry <;> cases file : meansDirectory path <;>
            simp [bind, Except.bind, held, pure, Except.pure, throw, throwThe, MonadExceptOf.throw,
              Except.isOk, Except.toBool]

theorem holds_of_pathExists (clear : Prop) (found : files.pathExists path = true) :
    Holds clear files path := by
  obtain ⟨location, entry, located, held, _⟩ := pathExists_iff.mp found
  refine ⟨?_, fun _ => found⟩
  rw [← locate_eq_place located, held]
  rfl

/-- A path holds on if what is lost is not where it leads and, for a clear way, not on the way. -/
theorem Keeps.holds {lost : Location → Prop} {clear : Prop} {before after : FileSystem}
    (keeps : Keeps lost before after)
    (away : ¬ lost (path.place before.workingDirectory))
    (passable : clear → ∀ place ∈ path.passes before.workingDirectory, ¬ lost place)
    (holds : Holds clear before path) : Holds clear after path := by
  refine ⟨?_, fun way => ?_⟩
  · rw [keeps.workingDirectory]
    exact keeps.occupied away holds.occupied
  · obtain ⟨location, entry, located, held, kind⟩ := pathExists_iff.mp (holds.found way)
    have free : ¬ lost location := by rwa [locate_eq_place located]
    have relocated := locate_of_passed_kept keeps.workingDirectory
      (fun place passed => keeps.directory place (passable way place passed)) located
    obtain ⟨left, remains⟩ :=
      Option.isSome_iff_exists.mp (keeps.occupied free (by rw [held]; rfl))
    refine pathExists_iff.mpr ⟨location, left, relocated, remains, fun directory => ?_⟩
    rw [kind directory] at held
    exact Option.some_inj.mp (remains.symm.trans (keeps.directory location free held))

structure HoldsFile (clear : Prop) (files : FileSystem) (path : Path) : Prop extends
    Holds clear files path where
  hasFile : files.HasFile (path.place files.workingDirectory)

theorem HoldsFile.isFile {clear : Prop} (holds : HoldsFile clear files path) (way : clear) :
    files.isFile path = true := by
  obtain ⟨location, entry, located, held, kind⟩ := pathExists_iff.mp (holds.found way)
  obtain ⟨content, here⟩ := holds.hasFile
  rw [← locate_eq_place located, held] at here
  cases here
  have file : meansDirectory path = false := by
    rw [Bool.eq_false_iff]
    exact fun directory => nomatch kind directory
  exact isFile_iff.mpr ⟨content, read_eq_ok.mpr
    ⟨location, fileLocation?_eq_some.mpr ⟨file, located⟩, held⟩⟩

theorem holdsFile_of_isFile (clear : Prop) (file : files.isFile path = true) :
    HoldsFile clear files path := by
  refine ⟨holds_of_pathExists clear (pathExists_of_isFile file), ?_⟩
  obtain ⟨content, read⟩ := isFile_iff.mp file
  obtain ⟨location, found, held⟩ := read_eq_ok.mp read
  rw [← locate_eq_place (fileLocation?_eq_some.mp found).2]
  exact ⟨content, held⟩

theorem Keeps.holdsFile {lost : Location → Prop} {clear : Prop} {before after : FileSystem}
    (keeps : Keeps lost before after)
    (away : ¬ lost (path.place before.workingDirectory))
    (passable : clear → ∀ place ∈ path.passes before.workingDirectory, ¬ lost place)
    (holds : HoldsFile clear before path) : HoldsFile clear after path := by
  refine ⟨keeps.holds away passable holds.toHolds, ?_⟩
  rw [keeps.workingDirectory]
  exact keeps.file _ away holds.hasFile

end FileSystem

end VirtualLab
