import VirtualLab.Proofs.Files
import VirtualLab.Proofs.Parents

/-!
# Directories

When a path can be followed, when a directory is found, what making it adds and what removing it
does. Making a directory adds directories on the way to it only, and succeeds again where more of
them are there already.
-/

namespace VirtualLab

namespace FileSystem

variable {files after : FileSystem} {path : Path} {location : Location}

theorem find_eq_directory :
    files.find path = .ok (location, .directory) ↔
      files.locate path = .ok location ∧ files.get? location = some .directory := by
  unfold find
  cases located : files.locate path with
  | error cause => simp [bind, Except.bind]
  | ok here =>
      simp only [bind, Except.bind]
      split
      · rename_i absent
        simp [throw, throwThe, MonadExceptOf.throw]
        rintro rfl
        simp [absent]
      · rename_i held
        simp [pure, Except.pure]
        rintro rfl
        exact held
      · rename_i content held
        split <;> simp [pure, Except.pure, throw, throwThe, MonadExceptOf.throw]
        all_goals
          rintro rfl
          simp [held]

theorem isDirectory_iff :
    files.isDirectory path = true ↔
      ∃ location, files.locate path = .ok location ∧ files.get? location = some .directory := by
  simp only [← find_eq_directory]
  unfold isDirectory
  split
  · rename_i location found
    exact ⟨fun _ => ⟨location, found⟩, fun _ => rfl⟩
  · rename_i other
    exact ⟨fun impossible => (Bool.false_ne_true impossible).elim,
      fun ⟨location, found⟩ => absurd found (other location)⟩

theorem pathExists_eq : files.pathExists path = (files.isFile path || files.isDirectory path) := by
  unfold pathExists isFile isDirectory
  cases files.find path with
  | error cause => rfl
  | ok found =>
      obtain ⟨location, entry⟩ := found
      cases entry <;> rfl

theorem not_isFile_of_isDirectory (directory : files.isDirectory path = true) :
    files.isFile path = false := by
  obtain ⟨location, located, held⟩ := isDirectory_iff.mp directory
  rw [isFile, find_eq_directory.mpr ⟨located, held⟩]

theorem SameDirectories.isDirectory (same : SameDirectories files after) :
    after.isDirectory path = files.isDirectory path := by
  rw [Bool.eq_iff_iff, isDirectory_iff, isDirectory_iff]
  exact exists_congr fun location => and_congr same.locate (same.directory_iff location)

theorem isOccupied_iff :
    files.isOccupied location = true ↔ ∃ name, (files.get? (location ++ [name])).isSome := by
  unfold isOccupied
  rw [List.any_eq_true]
  constructor
  · rintro ⟨⟨place, entry⟩, member, within⟩
    obtain ⟨length, isPrefix⟩ : place.length = location.length + 1 ∧ location <+: place := by
      simpa using within
    obtain ⟨rest, rfl⟩ := isPrefix
    obtain ⟨name, rfl⟩ := List.length_eq_one_iff.mp (by simpa using length)
    refine ⟨name, ?_⟩
    rw [get?, if_neg (by simp), List.lookup_isSome_iff]
    exact ⟨_, member, by simp⟩
  · rintro ⟨name, held⟩
    rw [get?, if_neg (by simp), List.lookup_isSome_iff] at held
    obtain ⟨⟨place, entry⟩, member, equal⟩ := held
    have same : location ++ [name] = place := by simpa using equal
    subst same
    exact ⟨_, member, by simp⟩

theorem removeDirectory_eq_ok :
    files.removeDirectory path = .ok after ↔
      ∃ location, files.locate path = .ok location ∧ files.get? location = some .directory ∧
        endsInDot path = false ∧ files.isOccupied location = false ∧
          path.names.getLast? ≠ some ".." ∧ after = files.erase location := by
  unfold removeDirectory
  constructor
  · intro removed
    cases found : files.find path with
    | error cause => simp [found, bind, Except.bind] at removed
    | ok result =>
        obtain ⟨location, entry⟩ := result
        cases entry with
        | file content =>
            simp [found, bind, Except.bind, throw, throwThe, MonadExceptOf.throw] at removed
        | directory =>
            obtain ⟨located, held⟩ := find_eq_directory.mp found
            simp only [found, bind, Except.bind] at removed
            split at removed
            · cases removed
            · rename_i dot
              split at removed
              · cases removed
              · rename_i free
                cases removed
                have parts := not_or.mp (Bool.or_eq_true_iff.not.mp free)
                refine ⟨location, located, held, by simpa using dot, by simpa using parts.1, ?_,
                  rfl⟩
                simpa using parts.2
  · rintro ⟨location, located, held, dot, free, notUp, rfl⟩
    simp [find_eq_directory.mpr ⟨located, held⟩, bind, Except.bind, dot, free, notUp, pure,
      Except.pure]

/-! ## Following a path -/

/-- The path can be followed wherever the directories are there. -/
structure Followable (path : Path) : Prop where
  nonempty : path.text.isEmpty = false
  noNul : path.text.toList.contains '\x00' = false
  short : path.text.utf8ByteSize ≤ pathLimit
  names : ∀ name ∈ path.names, name = ".." ∨ name.utf8ByteSize ≤ nameLimit

theorem follow_eq_ok {here : Location} {names : List String} :
    files.follow here names = .ok location ↔
      (∀ place ∈ Path.passed here names, files.get? place = some .directory) ∧
        (∀ name ∈ names, name = ".." ∨ name.utf8ByteSize ≤ nameLimit) ∧
          location = Path.walk here names := by
  induction names generalizing here with
  | nil => simp [follow, Path.passed, Path.walk, eq_comm]
  | cons name rest induction =>
      rw [follow, Path.passed, List.forall_mem_cons, List.forall_mem_cons]
      change _ ↔ _ ∧ _ ∧ location = Path.walk (Path.step here name) rest
      cases held : files.get? here with
      | none => simp
      | some entry =>
          cases entry with
          | file content => simp
          | directory =>
              by_cases up : name = ".."
              · simp [up, induction, Path.step]
              · by_cases long : nameLimit < name.utf8ByteSize
                · simp [up, long, Nat.not_le.mpr long]
                · simp [up, long, induction, Path.step, Nat.not_lt.mp long]

/-- Where no file is on the way, names lead on or to what is missing. -/
theorem follow_of_free {here : Location} {names : List String}
    (free : ∀ place ∈ Path.passed here names, ∀ content, files.get? place ≠ some (.file content))
    (short : ∀ name ∈ names, name = ".." ∨ name.utf8ByteSize ≤ nameLimit) :
    files.follow here names = .ok (Path.walk here names) ∨
      files.follow here names = .error .notFound := by
  induction names generalizing here with
  | nil => exact .inl rfl
  | cons name rest induction =>
      obtain ⟨first, later⟩ := List.forall_mem_cons.mp free
      obtain ⟨fits, others⟩ := List.forall_mem_cons.mp short
      change files.follow here (name :: rest) = .ok (Path.walk (Path.step here name) rest) ∨ _
      rw [follow]
      cases held : files.get? here with
      | none => exact .inr rfl
      | some entry =>
          cases entry with
          | file content => exact absurd held (first content)
          | directory =>
              have onward := induction later others
              by_cases up : name = ".."
              · simpa [up, Path.step] using onward
              · have within := Nat.not_lt.mpr (fits.resolve_left up)
                simpa [up, within, Path.step] using onward

theorem locate_of_followable (followable : Followable path) :
    files.locate path = files.follow (path.origin files.workingDirectory) path.names := by
  rw [locate, if_neg (by simp [followable.nonempty]), if_neg (by simpa using followable.noNul),
    if_neg (Nat.not_lt.mpr followable.short)]
  rfl

theorem locate_eq_ok :
    files.locate path = .ok location ↔
      Followable path ∧
        (∀ place ∈ path.passes files.workingDirectory, files.get? place = some .directory) ∧
          location = path.place files.workingDirectory := by
  constructor
  · intro located
    unfold locate at located
    split at located
    · cases located
    · rename_i nonempty
      split at located
      · cases located
      · rename_i noNul
        split at located
        · cases located
        · rename_i short
          obtain ⟨passed, names, place⟩ := follow_eq_ok.mp located
          have followable : Followable path :=
            ⟨by simpa using nonempty, by simpa using noNul, Nat.le_of_not_lt short, names⟩
          exact ⟨followable, passed, place⟩
  · rintro ⟨followable, passed, place⟩
    rw [locate_of_followable followable]
    exact follow_eq_ok.mpr ⟨passed, followable.names, place⟩

/-! ## Where directories are made -/

theorem makeDirectory_eq_ok :
    files.makeDirectory path = .ok after ↔
      ∃ location, files.locate path = .ok location ∧ files.get? location = none ∧
        endsInDot path = false ∧ after = files.put location .directory := by
  unfold makeDirectory
  cases located : files.locate path with
  | error cause => simp [bind, Except.bind]
  | ok location =>
      simp only [bind, Except.bind]
      cases held : files.get? location with
      | some entry =>
          simp [throw, throwThe, MonadExceptOf.throw, held]
      | none =>
          cases dot : endsInDot path <;>
            simp [pure, Except.pure, throw, throwThe, MonadExceptOf.throw, held, eq_comm]

theorem added_of_makeDirectory (made : files.makeDirectory path = .ok after) {entry : Entry}
    (absent : files.get? location = none) (added : after.get? location = some entry) :
    location = path.place files.workingDirectory := by
  obtain ⟨place, located, free, _, rfl⟩ := makeDirectory_eq_ok.mp made
  have below : place ≠ [] := fun root => by simp [root] at free
  rw [get?_put below] at added
  split at added
  · rename_i same
    rw [same]
    exact locate_eq_place located
  · simp [absent] at added

theorem added_of_makeOrKeep {entry : Entry} (absent : files.get? location = none)
    (added : (createDirectoriesWithin.makeOrKeep path files).2.get? location = some entry) :
    location = path.place files.workingDirectory := by
  unfold createDirectoriesWithin.makeOrKeep at added
  split at added
  · rename_i made
    exact added_of_makeDirectory made absent added
  · rw [absent] at added
    cases added

/-- Directories are made on the way to a path only. -/
theorem added_of_createDirectoriesWithin {bound : Nat} {entry : Entry}
    (absent : files.get? location = none)
    (added : (createDirectoriesWithin bound path files).2.get? location = some entry) :
    location ∈ path.stops files.workingDirectory := by
  fun_induction createDirectoriesWithin bound path files generalizing entry with
  | case1 => simp [absent] at added
  | case2 => simp [absent] at added
  | case3 bound path files _ made equal =>
      rw [added_of_makeDirectory equal absent added]
      exact Path.place_mem_stops _ _
  | case4 bound path files _ directory isParent _ cause between equal induction =>
      rw [equal] at induction
      exact Path.stops_subset_of_parent isParent _ (induction absent added)
  | case5 bound path files _ directory isParent _ between equal induction =>
      rw [equal] at induction
      cases already : between.get? location with
      | some earlier => exact Path.stops_subset_of_parent isParent _ (induction absent already)
      | none =>
          have adds := createDirectoriesWithin_adds bound directory files
          rw [equal] at adds
          rw [added_of_makeOrKeep already added, adds.workingDirectory]
          exact Path.place_mem_stops _ _
  | case6 bound path files =>
      rw [added_of_makeOrKeep absent added]
      exact Path.place_mem_stops _ _

theorem directory_of_createDirectoriesWithin {bound : Nat}
    (held : (createDirectoriesWithin bound path files).2.get? location = some .directory) :
    files.get? location = some .directory ∨ location ∈ path.stops files.workingDirectory := by
  cases was : files.get? location with
  | none => exact .inr (added_of_createDirectoriesWithin was held)
  | some entry =>
      have kept := (createDirectoriesWithin_adds bound path files).kept location entry was
      rw [held] at kept
      exact .inl kept.symm

theorem AddsDirectories.file {content : Bytes} (adds : AddsDirectories files after)
    (held : after.get? location = some (.file content)) :
    files.get? location = some (.file content) := by
  cases was : files.get? location with
  | none => cases adds.added location _ was held
  | some entry => rw [← held, adds.kept location entry was]

/-! ## Making directories where more of them are there -/

structure KeepsDirectories (before after : FileSystem) : Prop where
  workingDirectory : after.workingDirectory = before.workingDirectory
  kept : ∀ location, before.get? location = some .directory →
    after.get? location = some .directory

variable {more : FileSystem}

theorem KeepsDirectories.locate (keeps : KeepsDirectories files more)
    (located : files.locate path = .ok location) : more.locate path = .ok location :=
  locate_of_directories_kept keeps.workingDirectory keeps.kept located

theorem KeepsDirectories.isDirectory (keeps : KeepsDirectories files more)
    (directory : files.isDirectory path = true) : more.isDirectory path = true := by
  obtain ⟨location, located, held⟩ := isDirectory_iff.mp directory
  exact isDirectory_iff.mpr ⟨location, keeps.locate located, keeps.kept _ held⟩

theorem makeDirectory_of_isDirectory (directory : files.isDirectory path = true) :
    files.makeDirectory path = .error .alreadyExists := by
  obtain ⟨location, located, held⟩ := isDirectory_iff.mp directory
  simp [makeDirectory, located, held, bind, Except.bind, throw, throwThe, MonadExceptOf.throw]

theorem makeOrKeep_of_isDirectory (directory : files.isDirectory path = true) :
    createDirectoriesWithin.makeOrKeep path files = (.ok (), files) := by
  rw [createDirectoriesWithin.makeOrKeep, makeDirectory_of_isDirectory directory]
  simp [directory]

theorem makeOrKeep_of_keepsDirectories (keeps : KeepsDirectories files more)
    (free : ∀ content, more.get? (path.place files.workingDirectory) ≠ some (.file content))
    (made : createDirectoriesWithin.makeOrKeep path files = (.ok (), after)) :
    more.makeDirectory path ≠ .error .notFound ∧ ∃ made,
      createDirectoriesWithin.makeOrKeep path more = (.ok (), made) ∧
        KeepsDirectories after made := by
  unfold createDirectoriesWithin.makeOrKeep at made
  split at made
  · rename_i changed making
    cases made
    obtain ⟨location, located, absent, dot, rfl⟩ := makeDirectory_eq_ok.mp making
    have below : location ≠ [] := fun root => by simp [root] at absent
    rw [← locate_eq_place located] at free
    have relocated := keeps.locate located
    cases held : more.get? location with
    | none =>
        have remade : more.makeDirectory path = .ok (more.put location .directory) :=
          makeDirectory_eq_ok.mpr ⟨location, relocated, held, dot, rfl⟩
        refine ⟨by simp [remade], more.put location .directory, ?_, keeps.workingDirectory, ?_⟩
        · rw [createDirectoriesWithin.makeOrKeep, remade]
        · intro other
          rw [get?_put below, get?_put below]
          split
          · exact id
          · exact keeps.kept other
    | some entry =>
        cases entry with
        | file content => exact absurd held (free content)
        | directory =>
            have directory := isDirectory_iff.mpr ⟨location, relocated, held⟩
            refine ⟨by simp [makeDirectory_of_isDirectory directory], more,
              makeOrKeep_of_isDirectory directory, keeps.workingDirectory, fun other is => ?_⟩
            rw [get?_put below] at is
            split at is
            · rename_i same
              rwa [same]
            · exact keeps.kept other is
  · cases directory : files.isDirectory path with
    | false => simp [directory] at made
    | true =>
        have same : after = files := by simpa [directory, eq_comm] using made
        subst same
        have stays := keeps.isDirectory directory
        exact ⟨by simp [makeDirectory_of_isDirectory stays], more, makeOrKeep_of_isDirectory stays,
          keeps⟩

theorem followable_of_makeOrKeep
    (made : createDirectoriesWithin.makeOrKeep path files = (.ok (), after)) :
    Followable path ∧
      ∀ place ∈ path.passes files.workingDirectory, files.get? place = some .directory := by
  unfold createDirectoriesWithin.makeOrKeep at made
  split at made
  · rename_i making
    obtain ⟨location, located, _⟩ := makeDirectory_eq_ok.mp making
    obtain ⟨followable, passed, _⟩ := locate_eq_ok.mp located
    exact ⟨followable, passed⟩
  · cases directory : files.isDirectory path with
    | false => simp [directory] at made
    | true =>
        obtain ⟨location, located, _⟩ := isDirectory_iff.mp directory
        obtain ⟨followable, passed, _⟩ := locate_eq_ok.mp located
        exact ⟨followable, passed⟩

theorem createDirectoriesWithin_eq_makeOrKeep {bound : Nat} (nonempty : path.text.isEmpty = false)
    (found : files.makeDirectory path ≠ .error .notFound) :
    createDirectoriesWithin (bound + 1) path files =
      createDirectoriesWithin.makeOrKeep path files := by
  rw [createDirectoriesWithin, if_neg (by simp [nonempty])]
  split
  · rename_i made
    rw [createDirectoriesWithin.makeOrKeep, made]
  · rename_i missing _
    exact absurd missing found
  · rfl

theorem makeOrKeep_of_free (followable : Followable path)
    (free : ∀ place ∈ path.stops files.workingDirectory, ∀ content,
      files.get? place ≠ some (.file content))
    (found : files.makeDirectory path ≠ .error .notFound) :
    ∃ made, createDirectoriesWithin.makeOrKeep path files = (.ok (), made) ∧
      ∀ place ∈ path.stops files.workingDirectory, made.get? place = some .directory := by
  have located : files.locate path = .ok (path.place files.workingDirectory) := by
    rw [locate_of_followable followable]
    refine (follow_of_free ?_ followable.names).resolve_right fun missing => found ?_
    · exact fun place passed => free place (Path.mem_stops_of_mem_passes passed)
    · simp [makeDirectory, locate_of_followable followable, missing, bind, Except.bind]
  obtain ⟨_, passed, _⟩ := locate_eq_ok.mp located
  cases held : files.get? (path.place files.workingDirectory) with
  | none =>
      have dot : endsInDot path = false := by
        by_contra dot
        refine found ?_
        simp [makeDirectory, located, held, dot, bind, Except.bind, throw, throwThe,
          MonadExceptOf.throw]
      have made := makeDirectory_eq_ok.mpr ⟨_, located, held, dot, rfl⟩
      have below : path.place files.workingDirectory ≠ [] := fun root => by simp [root] at held
      refine ⟨_, by rw [createDirectoriesWithin.makeOrKeep, made], fun place stop => ?_⟩
      rw [get?_put below]
      split
      · rfl
      · rename_i differs
        rcases List.mem_append.mp stop with pass | last
        · exact passed place pass
        · exact absurd (List.mem_singleton.mp last) differs
  | some entry =>
      cases entry with
      | file content => exact absurd held (free _ (Path.place_mem_stops _ _) content)
      | directory =>
          refine ⟨files, makeOrKeep_of_isDirectory (isDirectory_iff.mpr ⟨_, located, held⟩), ?_⟩
          intro place stop
          rcases List.mem_append.mp stop with pass | last
          · exact passed place pass
          · rwa [List.mem_singleton.mp last]

/-- Where a whole way of directories was made, one more is enough if the rest of the way is there
already. -/
theorem makeOrKeep_of_found {bound : Nat} (keeps : KeepsDirectories files more)
    (followable : Followable path)
    (free : ∀ place ∈ path.stops files.workingDirectory, ∀ content,
      more.get? place ≠ some (.file content))
    (found : more.makeDirectory path ≠ .error .notFound)
    (whole : createDirectoriesWithin bound path files = (.ok (), after)) :
    ∃ made, createDirectoriesWithin.makeOrKeep path more = (.ok (), made) ∧
      KeepsDirectories after made := by
  rw [← keeps.workingDirectory] at free
  obtain ⟨last, remade, stops⟩ := makeOrKeep_of_free followable free found
  have addsLast := makeOrKeep_adds path more
  have addsAfter := createDirectoriesWithin_adds bound path files
  rw [remade] at addsLast
  rw [whole] at addsAfter
  refine ⟨last, remade, ?_, fun location is => ?_⟩
  · rw [addsLast.workingDirectory, keeps.workingDirectory, addsAfter.workingDirectory]
  · have held : (createDirectoriesWithin bound path files).2.get? location = some .directory := by
      rw [whole]
      exact is
    rcases directory_of_createDirectoriesWithin held with was | stop
    · exact addsLast.kept _ _ (keeps.kept _ was)
    · rw [← keeps.workingDirectory] at stop
      exact stops _ stop

/-- Where directories could be made, they can be with more directories and no files on the way. -/
theorem createDirectoriesWithin_of_keepsDirectories {bound : Nat}
    (keeps : KeepsDirectories files more)
    (free : ∀ place ∈ path.stops files.workingDirectory, ∀ content,
      more.get? place ≠ some (.file content))
    (made : createDirectoriesWithin bound path files = (.ok (), after)) :
    ∃ made, createDirectoriesWithin bound path more = (.ok (), made) ∧
      KeepsDirectories after made := by
  fun_induction createDirectoriesWithin bound path files generalizing more after with
  | case1 => cases made
  | case2 bound path files empty =>
      cases made
      exact ⟨more, by rw [createDirectoriesWithin, if_pos empty], keeps⟩
  | case3 bound path files nonempty changed making =>
      cases made
      have kept : createDirectoriesWithin.makeOrKeep path files = (.ok (), changed) := by
        rw [createDirectoriesWithin.makeOrKeep, making]
      obtain ⟨found, again, remade, keeps⟩ :=
        makeOrKeep_of_keepsDirectories keeps (free _ (Path.place_mem_stops _ _)) kept
      rw [createDirectoriesWithin_eq_makeOrKeep (by simpa using nonempty) found]
      exact ⟨again, remade, keeps⟩
  | case4 => cases made
  | case5 bound path files nonempty directory isParent missing between equal induction =>
      have nonempty : path.text.isEmpty = false := by simpa using nonempty
      have adds := createDirectoriesWithin_adds bound directory files
      rw [equal] at adds
      by_cases found : more.makeDirectory path = .error .notFound
      · obtain ⟨further, again, keepsFurther⟩ := induction keeps (fun place stop =>
          free place (Path.stops_subset_of_parent isParent _ stop)) equal
        have addsMore := createDirectoriesWithin_adds bound directory more
        rw [again] at addsMore
        have freeThere : ∀ content, further.get? (path.place between.workingDirectory) ≠
            some (.file content) := by
          intro content held
          rw [adds.workingDirectory] at held
          exact free _ (Path.place_mem_stops _ _) content (addsMore.file held)
        obtain ⟨_, last, remade, keepsLast⟩ :=
          makeOrKeep_of_keepsDirectories keepsFurther freeThere made
        refine ⟨last, ?_, keepsLast⟩
        rw [createDirectoriesWithin, if_neg (by simp [nonempty]), found, isParent]
        simp only [again, remade]
      · have whole : createDirectoriesWithin (bound + 1) path files = (.ok (), after) := by
          rw [createDirectoriesWithin, if_neg (by simp [nonempty]), missing, isParent]
          simp only [equal, made]
        obtain ⟨followable, _⟩ := followable_of_makeOrKeep made
        obtain ⟨last, remade, keepsLast⟩ :=
          makeOrKeep_of_found keeps followable free found whole
        exact ⟨last, by rw [createDirectoriesWithin_eq_makeOrKeep nonempty found, remade],
          keepsLast⟩
  | case6 bound path files nonempty cause _ _ =>
      obtain ⟨found, again, remade, keeps⟩ :=
        makeOrKeep_of_keepsDirectories keeps (free _ (Path.place_mem_stops _ _)) made
      rw [createDirectoriesWithin_eq_makeOrKeep (by simpa using nonempty) found]
      exact ⟨again, remade, keeps⟩

/-! ## Entries that stay -/

/-- What is in the first file system is in the second: directories, and files with any content. -/
structure Covers (files more : FileSystem) : Prop extends KeepsDirectories files more where
  file : ∀ location content, files.get? location = some (.file content) →
    ∃ other, more.get? location = some (.file other)

namespace Covers

theorem refl (files : FileSystem) : Covers files files :=
  ⟨⟨rfl, fun _ held => held⟩, fun _ content held => ⟨content, held⟩⟩

theorem trans {between : FileSystem} (first : Covers files between) (second : Covers between more) :
    Covers files more := by
  refine ⟨⟨second.workingDirectory.trans first.workingDirectory, fun location held =>
    second.kept location (first.kept location held)⟩, fun location content held => ?_⟩
  obtain ⟨other, still⟩ := first.file location content held
  exact second.file location other still

theorem isFile (covers : Covers files more) (file : files.isFile path = true) :
    more.isFile path = true := by
  obtain ⟨content, reads⟩ := isFile_iff.mp file
  obtain ⟨location, found, held⟩ := read_eq_ok.mp reads
  obtain ⟨means, located⟩ := fileLocation?_eq_some.mp found
  obtain ⟨other, still⟩ := covers.file location content held
  exact isFile_iff.mpr ⟨other, read_eq_ok.mpr
    ⟨location, fileLocation?_eq_some.mpr ⟨means, covers.locate located⟩, still⟩⟩

theorem pathExists (covers : Covers files more) (found : files.pathExists path = true) :
    more.pathExists path = true := by
  obtain ⟨location, entry, located, held, kind⟩ := pathExists_iff.mp found
  have relocated := covers.locate located
  cases entry with
  | directory =>
      exact pathExists_iff.mpr ⟨location, .directory, relocated, covers.kept location held,
        fun _ => rfl⟩
  | file content =>
      obtain ⟨other, still⟩ := covers.file location content held
      exact pathExists_iff.mpr ⟨location, .file other, relocated, still, fun directory =>
        nomatch kind directory⟩

theorem put {content : Bytes} (covers : Covers files more) (below : location ≠ []) :
    Covers (files.put location (.file content)) (more.put location (.file content)) := by
  refine ⟨⟨covers.workingDirectory, fun other held => ?_⟩, fun other earlier held => ?_⟩ <;>
    rw [get?_put below] at held ⊢ <;> split at held
  · cases held
  · rename_i differs
    rw [if_neg differs]
    exact covers.kept other held
  · rename_i same
    exact ⟨content, if_pos same⟩
  · rename_i differs
    rw [if_neg differs]
    exact covers.file other earlier held

end Covers

theorem AddsDirectories.covers (adds : AddsDirectories files after) : Covers files after :=
  ⟨⟨adds.workingDirectory, fun location => adds.kept location _⟩,
    fun location content held => ⟨content, adds.kept location _ held⟩⟩

theorem covers_put {content : Bytes} (free : files.get? location ≠ some .directory) :
    Covers files (files.put location (.file content)) := by
  have below : location ≠ [] := fun root => free (root ▸ files.get?_root)
  refine ⟨⟨rfl, fun other held => ?_⟩, fun other earlier held => ?_⟩ <;> rw [get?_put below] <;>
    split
  · rename_i same
    exact absurd (same ▸ held) free
  · exact held
  · exact ⟨content, rfl⟩
  · exact ⟨earlier, held⟩

theorem covers_of_modifyFile {change : Bytes → Bytes}
    (modified : files.modifyFile path change = .ok after) : Covers files after := by
  obtain ⟨location, _, _, free, rfl⟩ := modifyFile_eq_ok modified
  exact covers_put free

/-! ## Directories that are made once -/

def Made (files : FileSystem) (path : Path) : Prop :=
  path.text.isEmpty = true ∨ files.isDirectory path = true

theorem isDirectory_of_makeOrKeep
    (made : createDirectoriesWithin.makeOrKeep path files = (.ok (), after)) :
    after.isDirectory path = true := by
  unfold createDirectoriesWithin.makeOrKeep at made
  split at made
  · rename_i changed making
    cases made
    obtain ⟨location, located, absent, _, rfl⟩ := makeDirectory_eq_ok.mp making
    have adds := makeDirectory_adds making
    have below : location ≠ [] := fun root => by simp [root] at absent
    have relocated : (files.put location .directory).locate path = .ok location :=
      locate_of_directories_kept adds.workingDirectory (fun place => adds.kept place _) located
    exact isDirectory_iff.mpr ⟨location, relocated, by rw [get?_put below, if_pos rfl]⟩
  · cases directory : files.isDirectory path with
    | false => simp [directory] at made
    | true =>
        simp only [directory, if_true, Prod.mk.injEq, true_and] at made
        exact made ▸ directory

theorem made_of_createDirectories (making : files.createDirectories path = (.ok (), after)) :
    after.Made path := by
  rw [createDirectories, createDirectoriesWithin] at making
  split at making
  · rename_i empty
    exact .inl empty
  · right
    split at making
    · rename_i changed makes
      cases making
      exact isDirectory_of_makeOrKeep (by rw [createDirectoriesWithin.makeOrKeep, makes])
    · split at making
      · cases making
      · exact isDirectory_of_makeOrKeep making
    · exact isDirectory_of_makeOrKeep making

theorem createDirectories_of_made (made : files.Made path) :
    files.createDirectories path = (.ok (), files) := by
  rw [createDirectories]
  by_cases empty : path.text.isEmpty = true
  · rw [createDirectoriesWithin, if_pos empty]
  · have directory := made.resolve_left empty
    have there := makeDirectory_of_isDirectory directory
    rw [createDirectoriesWithin_eq_makeOrKeep (by simpa using empty) (by simp [there]),
      makeOrKeep_of_isDirectory directory]

theorem Covers.made (covers : Covers files more) (made : files.Made path) : more.Made path :=
  made.imp_right covers.isDirectory

end FileSystem

end VirtualLab
