import VirtualLab.Proofs.SideBySide

/-!
# Catching up

A machine is brought up from two sites, of which one may have more of what is left of the machine.
Where that succeeds from the site with less, and nothing fails, it succeeds from the other, and the
files are the same then.
-/

namespace VirtualLab

open BootConfig FileSystem

namespace PublicKey

def file? (home : Option Path) (value : String) : Option Path :=
  if isKeyLine (Text.trim value) || !looksLikePath (Text.trim value) then none
  else some (Path.expandHome home (Text.trim value))

end PublicKey

namespace Machine

def keyFile? (home : Option Path) (machine : Machine) : Option Path :=
  machine.cloudInit.pubkey.bind (PublicKey.file? home)

end Machine

namespace BootConfig.Bundle

def documents (bundle : Bundle) : List Path :=
  [bundle.userData, bundle.metaData, bundle.networkConfig]

end BootConfig.Bundle

namespace Site

variable {craft : Craft} {machine : Machine} {image : Path} {start : Site}

/-! ## Attempts side by side -/

section Attempts

variable {paths : List Path} {path : Path} {site after : Site} {ε : Type}

def makeParent (wrap : Path → FileError → ε) (path : Path) : Attempt ε Unit :=
  match path.parent with
  | some directory =>
      Attempt.ask (.createDirectories directory) >>= fun answer =>
        Attempt.orFail (wrap directory) answer
  | none => pure ()

theorem run_makeDirectories {wrap : FileError → ε} {directory : Path} :
    (Attempt.ask (.createDirectories directory) >>= fun answer =>
      Attempt.orFail wrap answer).run.run (respond craft) site = (.ok (), after) ↔
        ∃ changed, site.files.createDirectories directory = (.ok (), changed) ∧
          after = { site with files := changed } := by
  rw [Attempt.run_bind_of_ok (Attempt.run_ask _), Attempt.run_orFail, respond]
  cases made : site.files.createDirectories directory with
  | mk answer changed =>
      cases answer with
      | error cause => simp [Except.mapError]
      | ok => simp [Except.mapError, eq_comm]

theorem adds_of_makeParent {wrap : Path → FileError → ε}
    (ran : (makeParent wrap path).run.run (respond craft) site = (.ok (), after)) :
    AddsDirectories site.files after.files := by
  unfold makeParent at ran
  split at ran
  · rename_i directory _
    obtain ⟨changed, made, rfl⟩ := run_makeDirectories.mp ran
    have adds := createDirectories_adds site.files directory
    rwa [made] at adds
  · cases ran
    exact .refl _

theorem makeParent_tracks (ready : Ready machine image start) (owns : machine.Owns path)
    (wrap : Path → FileError → ε) :
    (makeParent wrap path).Tracks (respond craft) (Abreast craft machine image start paths)
      fun _ => Abreast craft machine image start paths := by
  unfold makeParent
  split
  · rename_i directory above
    constructor
    intro site other after value abreast ran
    obtain ⟨changed, made, rfl⟩ := run_makeDirectories.mp ran
    obtain ⟨otherChanged, otherMade, still⟩ := abreast.createDirectories ready owns above made
    exact ⟨_, run_makeDirectories.mpr ⟨otherChanged, otherMade, rfl⟩, still⟩
  · exact Attempt.tracks_pure fun _ _ abreast => abreast

theorem run_write {wrap : FileError → ε} {content : Bytes} :
    (Attempt.ask (.writeFile path content) >>= fun answer =>
      Attempt.orFail wrap answer).run.run (respond craft) site = (.ok (), after) ↔
        Wrote path content site after := by
  rw [Attempt.run_bind_of_ok (Attempt.run_ask _), Attempt.run_orFail, respond, Wrote]
  cases site.files.write path content with
  | error cause => simp [attempted, Except.mapError]
  | ok changed => simp [attempted, Except.mapError, eq_comm]

theorem run_craft {wrap : ToolFailure → ε} {tool : String} {arguments : List String}
    {content : Bytes}
    (crafts : site.runTool craft tool arguments = site.crafted tool arguments path content) :
    (Attempt.ask (.runTool tool arguments) >>= fun answer =>
      Attempt.orFail wrap answer >>= fun _ => pure ()).run.run (respond craft) site =
        (.ok (), after) ↔ Wrote path content site after := by
  rw [Attempt.run_bind_of_ok (Attempt.run_ask _), respond, crafts, crafted, Wrote]
  cases site.files.write path content with
  | error cause =>
      change (Except.error _, site) = (Except.ok (), after) ↔ _
      simp
  | ok changed =>
      change (Except.ok (), { site with files := changed }) = (Except.ok (), after) ↔ _
      simp [eq_comm]

/-- A file that the machine boots from may be written at any time. -/
theorem left_of_boot (boot : path ∈ (Bundle.inDirectory machine.workDirectory).paths)
    {content : Bytes} (left : Left craft machine image start site)
    (wrote : Wrote path content site after) : Left craft machine image start after := by
  obtain ⟨changed, written, rfl⟩ := wrote
  exact left.write (.boot boot) (fun means => .inl ⟨path, boot, means, rfl⟩) written

theorem stageDocument_tracks (ready : Ready machine image start)
    (boot : path ∈ (Bundle.inDirectory machine.workDirectory).paths) (content : String) :
    (Bundle.stageDocument path content).Tracks (respond craft)
      (Abreast craft machine image start paths)
      fun _ => Abreast craft machine image start (path :: paths) := by
  have form : Bundle.stageDocument path content = makeParent .staging path >>= fun _ =>
      Attempt.ask (.writeFile path (Bytes.ofText content)) >>= fun answer =>
        Attempt.orFail (.staging path) answer := by
    rw [Bundle.stageDocument, makeParent]
    cases path.parent <;> simp only [bind_assoc, pure_bind]
  rw [form]
  refine Attempt.tracks_bind (makeParent_tracks ready (.boot boot) _) fun _ => ?_
  constructor
  intro site other after value abreast ran
  obtain ⟨ended, wrote, still⟩ := abreast.write (.boot boot) (left_of_boot boot) (run_write.mp ran)
  exact ⟨ended, run_write.mpr wrote, still⟩

/-! ### Disks -/

section Disks

variable {disk : VirtualDisk} {other : Site}

theorem create_eq (disk : VirtualDisk) (backing : Option Path) :
    disk.create backing = Attempt.ask (.pathExists disk.path) >>= fun present =>
      if present then pure ()
      else makeParent .directory disk.path >>= fun _ =>
        Attempt.ask (.runTool VirtualDisk.creationTool (disk.creationArguments backing)) >>=
          fun answer => Attempt.orFail (.tool disk.path) answer >>= fun _ => pure () := by
  rw [VirtualDisk.create, makeParent]
  cases disk.path.parent <;> simp only [bind_assoc, pure_bind]

theorem run_create {backing : Option Path} :
    (disk.create backing).run.run (respond craft) site = (.ok (), after) ↔
      (site.files.pathExists disk.path = true ∧ after = site) ∨
      site.files.pathExists disk.path = false ∧ ∃ between,
        (makeParent DiskFailure.directory disk.path).run.run (respond craft) site =
          (.ok (), between) ∧
        Wrote disk.path (craft.diskFrom between.files (disk.creationArguments backing)) between
          after := by
  rw [create_eq, Attempt.run_bind_of_ok (Attempt.run_ask _), respond]
  cases present : site.files.pathExists disk.path with
  | true =>
      rw [if_pos rfl, Attempt.run_pure]
      simp [eq_comm]
  | false =>
      rw [if_neg Bool.false_ne_true, Attempt.run_bind_eq_ok]
      simp only [run_craft (runTool_disk _ _ _), Bool.false_eq_true, false_and, false_or, true_and]
      constructor
      · rintro ⟨⟨⟩, between, made, wrote⟩
        exact ⟨between, made, wrote⟩
      · rintro ⟨between, made, wrote⟩
        exact ⟨(), between, made, wrote⟩

theorem left_of_create (ready : Ready machine image start)
    (member : disk ∈ VirtualDisk.ofMachine machine) (left : Left craft machine image start site)
    (ran : (disk.create (Lab.backingFor image disk)).run.run (respond craft) site =
      (.ok (), after)) : Left craft machine image start after := by
  obtain ⟨events, run⟩ := Script.runs_run (conduct_respond craft)
    (disk.create (Lab.backingFor image disk)).run site
  rw [ran] at run
  exact (create_strews (Lab.owns_of_mem_ofMachine member) (ready.makes member)).final left left run

theorem file_of_create (ready : Ready machine image start)
    (member : disk ∈ VirtualDisk.ofMachine machine) (left : Left craft machine image start site)
    (ran : (disk.create (Lab.backingFor image disk)).run.run (respond craft) site =
      (.ok (), after)) :
    (after.files.get? (disk.path.place start.files.workingDirectory)).isSome ∧
      ∀ location ≠ disk.path.place start.files.workingDirectory,
        (∀ entry, site.files.get? location = some entry →
          after.files.get? location = some entry) ∧
        ∀ content, after.files.get? location = some (.file content) →
          site.files.get? location = some (.file content) := by
  have place := (left_of_create ready member left ran).ahead.workingDirectory
  rcases run_create.mp ran with ⟨present, rfl⟩ | ⟨_, between, made, changed, written, rfl⟩
  · have occupied := (holds_of_pathExists True present).occupied
    rw [place] at occupied
    exact ⟨occupied, fun _ _ => ⟨fun _ held => held, fun _ held => held⟩⟩
  · have adds := adds_of_makeParent made
    obtain ⟨writable, rfl⟩ := (Lab.owns_of_mem_ofMachine member).write_eq_ok.mp written
    have betweenPlace : between.files.workingDirectory = start.files.workingDirectory := place
    have below : disk.path.place between.files.workingDirectory ≠ [] := fun root =>
      writable.free (root ▸ get?_root _)
    rw [betweenPlace] at below ⊢
    refine ⟨by rw [get?_put below, if_pos rfl]; rfl, fun location elsewhere => ?_⟩
    rw [get?_put below, if_neg elsewhere]
    exact ⟨adds.kept location, fun _ => adds.file⟩

/-- A disk that is only missing at the first site is made there. -/
theorem Abreast.catchUp (ready : Ready machine image start)
    (abreast : Abreast craft machine image start paths site other)
    (member : disk ∈ VirtualDisk.ofMachine machine)
    (present : other.files.pathExists disk.path = true)
    (ran : (disk.create (Lab.backingFor image disk)).run.run (respond craft) site =
      (.ok (), after)) :
    Abreast craft machine image start (disk.path :: paths) after other := by
  have left := left_of_create ready member abreast.left ran
  have otherPlace := abreast.otherLeft.ahead.workingDirectory
  obtain ⟨occupied, elsewhere⟩ := file_of_create ready member abreast.left ran
  obtain ⟨entry, held⟩ := Option.isSome_iff_exists.mp occupied
  obtain ⟨location, otherEntry, located, otherHeld, _⟩ := pathExists_iff.mp present
  obtain ⟨_, passed, rfl⟩ := locate_eq_ok.mp located
  rw [otherPlace] at otherHeld
  rw [otherPlace, (Lab.owns_of_mem_ofMachine member).passes] at passed
  obtain rfl := equal_of_disk member left abreast.otherLeft held otherHeld
  refine ⟨left, abreast.otherLeft, ⟨⟨?_, fun location directory => ?_⟩,
    fun location content file => ?_⟩, fun path among => ?_⟩
  · rw [otherPlace, left.ahead.workingDirectory]
  · have lead := left.ahead.lead location
    rw [directory] at lead
    generalize equal : start.files.get? location = earlier at lead
    cases lead with
    | same => exact abreast.otherLeft.ahead.keepsDirectories.kept _ equal
    | directory stop => exact passed location stop
  · by_cases here : location = disk.path.place start.files.workingDirectory
    · subst here
      exact ⟨content, otherHeld.trans (held.symm.trans file)⟩
    · exact abreast.covers.file location content ((elsewhere location here).2 content file)
  · by_cases here : path.place start.files.workingDirectory =
        disk.path.place start.files.workingDirectory
    · rw [here]
      exact ⟨entry, held, otherHeld⟩
    · have earlier : path ∈ paths := (List.mem_cons.mp among).resolve_left fun same =>
        here (congrArg _ same)
      obtain ⟨already, there, otherThere⟩ := abreast.equal path earlier
      exact ⟨already, (elsewhere _ here).1 already there, otherThere⟩

/-- A disk is in its place at both sites after it is created where it is missing. -/
theorem create_tracks (ready : Ready machine image start)
    (member : disk ∈ VirtualDisk.ofMachine machine) :
    (disk.create (Lab.backingFor image disk)).Tracks (respond craft)
      (Abreast craft machine image start paths)
      fun _ => Abreast craft machine image start (disk.path :: paths) := by
  have owns := Lab.owns_of_mem_ofMachine member
  constructor
  intro site other after value abreast ran
  cases present : other.files.pathExists disk.path with
  | true =>
      exact ⟨other, run_create.mpr (.inl ⟨present, rfl⟩),
        abreast.catchUp ready member present ran⟩
  | false =>
      have missing : ∀ {files : FileSystem}, Covers files other.files →
          files.pathExists disk.path = false := by
        intro files covers
        rw [Bool.eq_false_iff]
        exact fun found => Bool.eq_false_iff.mp present (covers.pathExists found)
      rcases run_create.mp ran with ⟨impossible, _⟩ | ⟨_, between, made, wrote⟩
      · rw [missing abreast.covers] at impossible
        cases impossible
      · obtain ⟨otherBetween, otherMade, still⟩ :=
          (makeParent_tracks ready owns DiskFailure.directory).run abreast made
        have absent := missing abreast.otherLeft.ahead.covers
        have leaves : ∀ {now after}, Left craft machine image start now →
            Wrote disk.path (craft.diskFrom start.files
              (disk.creationArguments (Lab.backingFor image disk))) now after →
            Left craft machine image start after := by
          rintro now _ left ⟨changed, written, rfl⟩
          have free := left.free (owns.write_eq_ok.mp written).1 (ready.found disk member) absent
          exact left.write owns (fun _ => .inr ⟨free, disk, member, rfl, rfl⟩) written
        rw [diskFrom_eq ready still.left] at wrote
        obtain ⟨ended, otherWrote, done⟩ := still.write owns leaves wrote
        rw [← diskFrom_eq ready still.otherLeft disk] at otherWrote
        exact ⟨ended, run_create.mpr (.inr ⟨present, otherBetween, otherMade, otherWrote⟩), done⟩

theorem run_createAll_cons {backing : VirtualDisk → Option Path} {rest : List VirtualDisk} :
    (VirtualDisk.createAll backing (disk :: rest)).run (respond craft) site = ([], after) ↔
      ∃ between, (disk.create (backing disk)).run.run (respond craft) site = (.ok (), between) ∧
        (VirtualDisk.createAll backing rest).run (respond craft) between = ([], after) := by
  change ((disk.create (backing disk)).run.bind _).run (respond craft) site = _ ↔ _
  rw [Script.run_bind]
  cases (disk.create (backing disk)).run.run (respond craft) site with
  | mk created between =>
      change ((VirtualDisk.createAll backing rest).bind _).run (respond craft) between = _ ↔ _
      rw [Script.run_bind]
      cases created with
      | error failure =>
          change (failure :: _, _) = _ ↔ _
          simp
      | ok =>
          change ((VirtualDisk.createAll backing rest).run (respond craft) between) = _ ↔ _
          simp

theorem createAll_catchesUp (ready : Ready machine image start) {disks : List VirtualDisk}
    (members : ∀ disk ∈ disks, disk ∈ VirtualDisk.ofMachine machine)
    (abreast : Abreast craft machine image start paths site other)
    (ran : (VirtualDisk.createAll (Lab.backingFor image) disks).run (respond craft) site =
      ([], after)) :
    ∃ ended, (VirtualDisk.createAll (Lab.backingFor image) disks).run (respond craft) other =
        ([], ended) ∧
      Abreast craft machine image start (disks.map (·.path) ++ paths) after ended := by
  induction disks generalizing paths site other with
  | nil =>
      cases ran
      exact ⟨other, rfl, abreast⟩
  | cons disk rest induction =>
      obtain ⟨member, others⟩ := List.forall_mem_cons.mp members
      obtain ⟨between, created, createdRest⟩ := run_createAll_cons.mp ran
      obtain ⟨otherBetween, otherCreated, still⟩ :=
        (create_tracks ready member).run abreast created
      obtain ⟨ended, otherRest, done⟩ := induction others still createdRest
      refine ⟨ended, run_createAll_cons.mpr ⟨otherBetween, otherCreated, otherRest⟩, ?_⟩
      refine done.mono fun path among => ?_
      simp only [List.map_cons, List.cons_append, List.mem_cons, List.mem_append] at among ⊢
      tauto

theorem run_createDisks :
    (Lab.createDisks machine image).run.run (respond craft) site = (.ok (), after) ↔
      (VirtualDisk.createAll (Lab.backingFor image) (VirtualDisk.ofMachine machine)).run
        (respond craft) site = ([], after) := by
  rw [Lab.createDisks, Attempt.run_bind_of_ok (Attempt.run_lift _)]
  cases (VirtualDisk.createAll (Lab.backingFor image) (VirtualDisk.ofMachine machine)).run
      (respond craft) site with
  | mk failures between =>
      cases failures with
      | nil =>
          change (Except.ok (), between) = _ ↔ _
          simp
      | cons failure rest =>
          change (Except.error _, between) = _ ↔ _
          simp

theorem createDisks_tracks (ready : Ready machine image start) :
    (Lab.createDisks machine image).Tracks (respond craft) (Abreast craft machine image start [])
      fun _ => Abreast craft machine image start
        ((VirtualDisk.ofMachine machine).map (·.path)) := by
  constructor
  intro site other after value abreast ran
  obtain ⟨ended, otherRan, done⟩ :=
    createAll_catchesUp ready (fun _ member => member) abreast (run_createDisks.mp ran)
  exact ⟨ended, run_createDisks.mpr otherRan, by simpa using done⟩

end Disks

/-! ### The image and the key -/

theorem run_requireTrusted {cloudImage : CloudImage} {backing : Path} :
    cloudImage.requireTrusted.run.run (respond craft) site = (.ok backing, after) ↔
      site.files.isFile cloudImage.imagePath = true ∧
        (cloudImage.checksumUrl.isNone || site.files.isFile cloudImage.markerPath) = true ∧
          backing = cloudImage.imagePath ∧ after = site := by
  have trusted : site.files.isFile cloudImage.imagePath = true →
      cloudImage.isTrusted.run (respond craft) site =
        (cloudImage.checksumUrl.isNone || site.files.isFile cloudImage.markerPath, site) := by
    intro present
    change (if site.files.isFile cloudImage.imagePath then
      if cloudImage.checksumUrl.isNone then pure true
      else Script.request (.isFile cloudImage.markerPath) else pure false : Script Bool).run _ _ = _
    rw [present]
    cases cloudImage.checksumUrl <;> rfl
  rw [CloudImage.requireTrusted, Attempt.run_bind_of_ok (Attempt.run_ask _), respond]
  cases present : site.files.isFile cloudImage.imagePath with
  | false =>
      change (Except.error _, site) = _ ↔ _
      simp
  | true =>
      change (ExceptT.lift cloudImage.isTrusted >>= _ : LabTask Path).run.run _ _ = _ ↔ _
      rw [Attempt.run_bind_of_ok (Attempt.run_lift _), trusted present]
      cases cloudImage.checksumUrl.isNone || site.files.isFile cloudImage.markerPath with
      | false =>
          change (Except.error _, site) = _ ↔ _
          simp
      | true =>
          change (Except.ok cloudImage.imagePath, site) = _ ↔ _
          simp [eq_comm]

/-- A trusted image is trusted where there is more of the machine. -/
theorem requireTrusted_tracks (cloudImage : CloudImage) :
    cloudImage.requireTrusted.Tracks (respond craft) (Abreast craft machine image start paths)
      fun backing site other => backing = cloudImage.imagePath ∧
        Abreast craft machine image start paths site other := by
  constructor
  intro site other after backing abreast ran
  obtain ⟨present, trusted, rfl, rfl⟩ := run_requireTrusted.mp ran
  refine ⟨other, run_requireTrusted.mpr ⟨abreast.covers.isFile present, ?_, rfl, rfl⟩, rfl, abreast⟩
  rw [Bool.or_eq_true] at trusted ⊢
  exact trusted.imp_right abreast.covers.isFile

theorem readText_tracks {wrap : FileError → ε}
    (stocked : ∀ disk ∈ VirtualDisk.ofMachine machine, disk.path ∈ paths)
    (apart : ¬ BootPlace machine start.files.workingDirectory
      (path.place start.files.workingDirectory)) :
    (ExceptT.lift (Script.readText path) >>= fun content =>
      Attempt.orFail wrap content : Attempt ε String).Tracks (respond craft)
      (Abreast craft machine image start paths)
      fun _ => Abreast craft machine image start paths := by
  obtain ⟨decode, decodes⟩ : ∃ decode : Bytes → Except FileError String, ∀ site : Site,
      (Script.readText path).run (respond craft) site =
        ((site.files.read path).bind decode, site) :=
    ⟨_, fun _ => rfl⟩
  have form : ∀ site : Site, (ExceptT.lift (Script.readText path) >>= fun content =>
      Attempt.orFail wrap content : Attempt ε String).run.run (respond craft) site =
        (((site.files.read path).bind decode).mapError wrap, site) := by
    intro site
    rw [Attempt.run_bind_of_ok (Attempt.run_lift _), Attempt.run_orFail, decodes]
  constructor
  intro site other after text abreast ran
  rw [form] at ran
  obtain ⟨answered, rfl⟩ := Prod.mk.inj ran
  cases reads : site.files.read path with
  | error cause =>
      rw [reads] at answered
      cases answered
  | ok content =>
      refine ⟨other, ?_, abreast⟩
      rw [form, abreast.read stocked apart reads, ← reads, answered]

/-- The key of the machine's user is the same where there is more of the machine, unless it is read
from a file that the machine boots from. -/
theorem resolveKey_tracks {home : Option Path} {value : String}
    (stocked : ∀ disk ∈ VirtualDisk.ofMachine machine, disk.path ∈ paths)
    (apart : ∀ path, PublicKey.file? home value = some path →
      ¬ BootPlace machine start.files.workingDirectory
        (path.place start.files.workingDirectory)) :
    (PublicKey.resolve home value).Tracks (respond craft)
      (Abreast craft machine image start paths)
      fun _ => Abreast craft machine image start paths := by
  unfold PublicKey.file? at apart
  unfold PublicKey.resolve
  dsimp only at apart ⊢
  split
  · exact Attempt.tracks_pure fun _ _ abreast => abreast
  · rename_i noKey
    split
    · exact Attempt.tracks_throw _
    · rename_i isPath
      have noBoot := apart _ (if_neg (by simp [noKey, isPath]))
      rw [← bind_assoc]
      refine Attempt.tracks_bind (readText_tracks stocked noBoot) fun content => ?_
      split
      · exact Attempt.tracks_pure fun _ _ abreast => abreast
      · exact Attempt.tracks_throw _

theorem render_tracks {home : Option Path} (version : Nat) (commands : List String)
    (stocked : ∀ disk ∈ VirtualDisk.ofMachine machine, disk.path ∈ paths)
    (apart : ∀ path, machine.keyFile? home = some path →
      ¬ BootPlace machine start.files.workingDirectory
        (path.place start.files.workingDirectory)) :
    (Documents.render home machine version commands).Tracks (respond craft)
      (Abreast craft machine image start paths)
      fun _ => Abreast craft machine image start paths := by
  have keys : (authorizedKeys home machine).Tracks (respond craft)
      (Abreast craft machine image start paths)
      fun _ => Abreast craft machine image start paths := by
    unfold Machine.keyFile? at apart
    unfold authorizedKeys
    split
    · exact Attempt.tracks_pure fun _ _ abreast => abreast
    · rename_i value configured
      rw [configured, Option.bind_some] at apart
      exact Attempt.tracks_bind (resolveKey_tracks stocked apart) fun _ =>
        Attempt.tracks_pure fun _ _ abreast => abreast
  have written : (userData home machine commands).Tracks (respond craft)
      (Abreast craft machine image start paths)
      fun _ => Abreast craft machine image start paths :=
    Attempt.tracks_bind keys fun _ => Attempt.tracks_pure fun _ _ abreast => abreast
  have network : Attempt.Tracks (respond craft) (Abreast craft machine image start paths)
      (Attempt.orFail (ε := LabError) id (networkConfig machine version))
      fun _ => Abreast craft machine image start paths :=
    Attempt.tracks_orFail fun _ _ _ abreast => abreast
  exact Attempt.tracks_bind written fun _ => Attempt.tracks_bind network fun _ =>
    Attempt.tracks_pure fun _ _ abreast => abreast

/-! ### The files to boot from -/

theorem stage_tracks (ready : Ready machine image start) (documents : Documents) :
    ((Bundle.inDirectory machine.workDirectory).stage documents).Tracks (respond craft)
      (Abreast craft machine image start paths)
      fun _ => Abreast craft machine image start
        ((Bundle.inDirectory machine.workDirectory).networkConfig ::
          (Bundle.inDirectory machine.workDirectory).userData ::
            (Bundle.inDirectory machine.workDirectory).metaData :: paths) := by
  refine Attempt.tracks_bind (stageDocument_tracks ready (by simp [Bundle.paths]) _) fun _ => ?_
  refine Attempt.tracks_bind (stageDocument_tracks ready (by simp [Bundle.paths]) _) fun _ => ?_
  exact stageDocument_tracks ready (by simp [Bundle.paths]) _

theorem package_tracks
    (documents : ∀ path ∈ (Bundle.inDirectory machine.workDirectory).documents, path ∈ paths) :
    (Bundle.inDirectory machine.workDirectory).package.Tracks (respond craft)
      (Abreast craft machine image start paths)
      fun _ => Abreast craft machine image start
        ((Bundle.inDirectory machine.workDirectory).medium :: paths) := by
  have boot : (Bundle.inDirectory machine.workDirectory).medium ∈
      (Bundle.inDirectory machine.workDirectory).paths := by
    simp [Bundle.paths]
  constructor
  intro site other after value abreast ran
  have wrote := (run_craft (runTool_medium _ site)).mp ran
  have same : SameDirectories site.files other.files := by
    obtain ⟨changed, written, _⟩ := wrote
    have settled := ((Machine.Owns.boot boot).write_eq_ok.mp written).1.settled
    rw [abreast.left.ahead.workingDirectory] at settled
    exact abreast.sameDirectories settled
  have contents : craft.mediumFrom other.files
      (Bundle.inDirectory machine.workDirectory).packingArguments =
        craft.mediumFrom site.files
          (Bundle.inDirectory machine.workDirectory).packingArguments :=
    congrArg (craft.medium _) (List.map_congr_left
      (l := (Bundle.inDirectory machine.workDirectory).documents) fun path member =>
        abreast.content same (documents path member))
  obtain ⟨ended, otherWrote, done⟩ := abreast.write (.boot boot) (left_of_boot boot) wrote
  rw [← contents] at otherWrote
  exact ⟨ended, (run_craft (runTool_medium _ other)).mpr otherWrote, done⟩

end Attempts

/-! ## The whole preparation -/

section Whole

variable {lab : Lab} {cloudImage : CloudImage} {site other : Site}

theorem prepare_tracks (found : lab.imageFor machine = .ok cloudImage)
    (ready : Ready machine cloudImage.imagePath start)
    (apart : ∀ path, machine.keyFile? lab.home = some path →
      ¬ BootPlace machine start.files.workingDirectory
        (path.place start.files.workingDirectory)) :
    (lab.prepare machine).Tracks (respond craft)
      (Abreast craft machine cloudImage.imagePath start [])
      fun _ => Abreast craft machine cloudImage.imagePath start machine.files := by
  have stocked : ∀ disk ∈ VirtualDisk.ofMachine machine,
      disk.path ∈ (VirtualDisk.ofMachine machine).map (·.path) := fun disk =>
    List.mem_map_of_mem
  unfold Lab.prepare
  rw [found, Attempt.orFail, pure_bind]
  refine Attempt.tracks_bind (requireTrusted_tracks cloudImage) fun backing =>
    Attempt.tracks_of_fact fun same => ?_
  subst same
  refine Attempt.tracks_bind (createDisks_tracks ready) fun _ => ?_
  refine Attempt.tracks_bind (render_tracks _ _ stocked apart) fun documents => ?_
  refine Attempt.tracks_bind (stage_tracks ready documents) fun _ => ?_
  refine Attempt.tracks_bind (Attempt.tracks_mapError (package_tracks ?_)) fun _ => ?_
  · simp [Bundle.documents]
  · refine Attempt.tracks_pure fun site other abreast => ?_
    refine abreast.mono fun path member => ?_
    rcases List.mem_append.mp member with disk | boot
    · exact List.mem_append_right (Bundle.inDirectory machine.workDirectory).paths.reverse disk
    · exact List.mem_append_left _ (List.mem_reverse.mpr boot)

end Whole

end Site

end VirtualLab
