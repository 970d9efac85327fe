import VirtualLab.Proofs.CatchingUp
import VirtualLab.Proofs.Undoing

/-!
# Retrying

Bringing a machine up once more after it failed. What the first attempt has left is taken up, and
where nothing fails it comes to the same as if the first attempt had not been made.
-/

namespace VirtualLab

open BootConfig FileSystem

namespace Request

def Grows : Request → Prop
  | .renameFile _ _ => False
  | .removeFile _ => False
  | .removeDirectory _ => False
  | _ => True

theorem Makes.grows {machine : Machine} {request : Request} (makes : request.Makes machine) :
    request.Grows := by
  cases request with
  | renameFile | removeFile | removeDirectory => exact makes
  | _ => trivial

def Spares (request : Request) : Prop :=
  request.Grows ∧ ∀ arguments, request ≠ .runTool VirtualDisk.creationTool arguments

theorem Looks.spares {request : Request} (looks : request.Looks) : request.Spares := by
  cases request with
  | pathExists | isFile | readFile => exact ⟨trivial, nofun⟩
  | _ => exact looks.elim

theorem Stages.spares {machine : Machine} {request : Request} (stages : request.Stages machine) :
    request.Spares := by
  refine ⟨stages.makes.grows, ?_⟩
  rintro arguments rfl
  exact absurd stages.1 (by decide)

theorem Installs.spares {machine : Machine} {request : Request}
    (installs : request.Installs machine) : request.Spares := by
  obtain ⟨install, _, rfl⟩ := installs
  exact ⟨trivial, fun arguments equal => absurd (Request.runTool.inj equal).1 (by decide)⟩

def AsksState (domain : String) : Request → Prop
  | .hypervisor .domains => True
  | .hypervisor (.status name) => name = domain
  | _ => False

end Request

namespace Site

variable {craft : Craft} {lab : Lab} {machine : Machine} {site after : Site}

/-! ## Bringing a machine up where nothing fails -/

theorem run_installation {image : CloudImage} :
    (Attempt.mapError LabError.tool (lab.installation machine image).install).run.run
        (respond craft) site = (.ok (), after) ↔
      site.guest? machine.vmName = none ∧ after = deploying craft machine site := by
  rw [Attempt.run_mapError, InstallRequest.install, Attempt.run_bind_of_ok (Attempt.run_ask _),
    respond, runTool_install]
  change _ ↔ site.guest? (lab.installation machine image).name = none ∧ _
  cases site.guest? (lab.installation machine image).name with
  | some guest =>
      change (Except.error _, site) = _ ↔ _
      simp
  | none =>
      change (Except.ok (), deploying craft machine site) = _ ↔ _
      simp [eq_comm]

theorem run_deploy :
    (lab.deploy machine).run.run (respond craft) site = (.ok (), after) ↔
      ∃ image prepared, (lab.prepare machine).run.run (respond craft) site =
        (.ok image, prepared) ∧ prepared.guest? machine.vmName = none ∧
          after = deploying craft machine prepared := by
  rw [Lab.deploy_eq_prepare, Attempt.run_bind_eq_ok]
  simp only [run_installation]

theorem run_up_of_absent {outcome : UpOutcome} (absent : site.guest? machine.vmName = none) :
    (lab.up machine).run.run (respond craft) site = (.ok outcome, after) ↔
      outcome = .deployed ∧
        (lab.deploy machine).run.run (respond craft) site = (.ok (), after) := by
  rw [Lab.up_eq_powerOn, Attempt.run_bind_of_ok (run_lookup _ _ _), absent]
  change (lab.deploy machine >>= fun _ => pure UpOutcome.deployed).run.run _ _ = _ ↔ _
  rw [Attempt.run_bind_eq_ok]
  constructor
  · rintro ⟨⟨⟩, between, ran, ended⟩
    rw [Attempt.run_pure] at ended
    cases ended
    exact ⟨rfl, ran⟩
  · rintro ⟨rfl, ran⟩
    exact ⟨(), after, ran, rfl⟩

theorem image_of_prepare {image : CloudImage}
    (ran : (lab.prepare machine).run.run (respond craft) site = (.ok image, after)) :
    lab.imageFor machine = .ok image ∧ site.files.isFile image.imagePath = true := by
  unfold Lab.prepare at ran
  obtain ⟨resolved, _, resolves, ran⟩ := Attempt.run_bind_eq_ok.mp ran
  rw [Attempt.run_orFail] at resolves
  obtain ⟨answered, rfl⟩ := Prod.mk.inj resolves
  obtain ⟨_, _, trusted, ran⟩ := Attempt.run_bind_eq_ok.mp ran
  obtain ⟨present, _⟩ := run_requireTrusted.mp trusted
  obtain ⟨_, _, _, ran⟩ := Attempt.run_bind_eq_ok.mp ran
  obtain ⟨_, _, _, ran⟩ := Attempt.run_bind_eq_ok.mp ran
  obtain ⟨_, _, _, ran⟩ := Attempt.run_bind_eq_ok.mp ran
  obtain ⟨_, _, _, ended⟩ := Attempt.run_bind_eq_ok.mp ran
  rw [Attempt.run_pure] at ended
  cases ended
  refine ⟨?_, present⟩
  cases found : lab.imageFor machine with
  | error failure =>
      rw [found] at answered
      cases answered
  | ok other =>
      rw [found] at answered
      exact answered

/-- Where a machine can be prepared, its image lies outside of its directory and its disks are found
where they are, nothing is in the way of trying again. -/
theorem ready_of_prepare {start prepared : Site} {image : CloudImage}
    (outside : ∀ image, lab.imageFor machine = .ok image →
      ¬ machine.workDirectory.place start.files.workingDirectory <+:
        image.imagePath.place start.files.workingDirectory)
    (found : ∀ disk ∈ VirtualDisk.ofMachine machine, ∀ content,
      start.files.get? (disk.path.place start.files.workingDirectory) = some (.file content) →
        start.files.pathExists disk.path = true)
    (ran : (lab.prepare machine).run.run (respond craft) start = (.ok image, prepared)) :
    Ready machine image.imagePath start ∧ Settled machine prepared := by
  obtain ⟨resolved, pictured⟩ := image_of_prepare ran
  have makes : ∀ image, lab.imageFor machine = .ok image → ∀ disk ∈ VirtualDisk.ofMachine machine,
      Makes machine (fun _ _ => True) craft start disk
        (Lab.backingFor image.imagePath disk) :=
    fun _ _ disk member => ⟨found disk member, fun _ _ _ => trivial⟩
  obtain ⟨events, run⟩ := Script.runs_run (conduct_respond craft) (lab.prepare machine).run start
  rw [ran] at run
  obtain ⟨settled, strewn⟩ := ((prepare_strews makes).run ⟨.refl _, rfl⟩ run).2 image rfl
  refine ⟨⟨pictured, ?_, found, fun stop isStop content held => ?_⟩, settled⟩
  · rintro ⟨path, boot, _, place⟩
    obtain ⟨file, below⟩ := (Machine.Owns.boot boot).place start.files.workingDirectory
    exact outside image resolved (place ▸ below ▸ List.prefix_append _ _)
  · have made := settled.made
    rw [strewn.ahead.workingDirectory] at made
    obtain ⟨other, still⟩ := strewn.ahead.covers.file stop content held
    rw [made stop isStop] at still
    cases still

/-! ## Powering on -/

def starting (craft : Craft) (machine : Machine) (site : Site) : Site :=
  site.changeGuest machine.vmName fun guest => { guest with status := craft.running }

theorem guest?_changeGuest (site : Site) (domain : String) (change : Guest → Guest) :
    (site.changeGuest domain change).guest? domain = (site.guest? domain).map change := by
  unfold guest? changeGuest
  dsimp only
  induction site.domains with
  | nil => rfl
  | cons entry rest induction =>
      obtain ⟨name, guest⟩ := entry
      by_cases same : name = domain
      · subst same
        rw [List.map_cons, if_pos rfl, List.lookup_cons_self, List.lookup_cons_self,
          Option.map_some]
      · have other : (domain == name) = false := beq_false_of_ne (Ne.symm same)
        rw [List.map_cons, if_neg same, List.lookup_cons, List.lookup_cons, other]
        exact induction

theorem runs_require {start final : Site} {domain : String} {guest : Guest}
    {events : List (Event Site)} {outcome : Except LabError DomainStatus}
    (known : start.guest? domain = some guest)
    (run : (Lab.require domain).run.Runs (conduct craft) start events outcome final) :
    outcome = .ok guest.status ∧ final = start := by
  rcases Attempt.runs_bind.mp run with ⟨_, failed, _⟩ | ⟨_, _, _, _, looked, rest, _⟩
  · obtain ⟨impossible, _⟩ := runs_lookup failed
    cases impossible
  · obtain ⟨equal, rfl⟩ := runs_lookup looked
    rw [known] at equal
    cases equal
    obtain ⟨_, rfl, rfl⟩ := Attempt.runs_pure.mp rest
    exact ⟨rfl, rfl⟩

theorem starting_or_unchanged {start final : Site} {guest : Guest} {events : List (Event Site)}
    {outcome : Except LabError UpOutcome} (known : start.guest? machine.vmName = some guest)
    (run : (Lab.startUp machine).run.Runs (conduct craft) start events outcome final) :
    (outcome = .ok (.started craft.running) ∧ final = starting craft machine start) ∨
      (∃ failure, outcome = .error failure) ∧ final = start := by
  have running : (starting craft machine start).guest? machine.vmName =
      some { guest with status := craft.running } := by
    rw [starting, guest?_changeGuest, known, Option.map_some]
  rcases Attempt.runs_bind.mp run with
    ⟨failure, failed, rfl⟩ | ⟨_, _, middle, late, starts, rest, _⟩
  · rcases (Lab.runs_perform_iff.mp failed).1 with answered | ⟨_, same⟩
    · change (Except.error failure, final) = start.onGuest _ _ at answered
      rw [onGuest, known] at answered
      cases answered
    · exact .inr ⟨⟨failure, rfl⟩, same⟩
  · rcases (Lab.runs_perform_iff.mp starts).1 with answered | ⟨failed, _⟩
    · change (Except.ok (), middle) = start.onGuest _ _ at answered
      rw [onGuest, known] at answered
      cases answered
      obtain ⟨_, requires, rfl⟩ := Attempt.runs_bind_pure.mp rest
      obtain ⟨rfl, rfl⟩ := runs_require running requires
      exact .inl ⟨rfl, rfl⟩
    · cases failed

/-! ## After a failure -/

variable {start clean broken : Site} {events : List (Event Site)} {failure : LabError}
  {outcome : UpOutcome}

/-- Where a machine without a domain could have been created, it is created after a failure, and the
same is there then. -/
theorem deployed_again (outside : ∀ image, lab.imageFor machine = .ok image →
      ¬ machine.workDirectory.place start.files.workingDirectory <+:
        image.imagePath.place start.files.workingDirectory)
    (found : ∀ disk ∈ VirtualDisk.ofMachine machine, ∀ content,
      start.files.get? (disk.path.place start.files.workingDirectory) = some (.file content) →
        start.files.pathExists disk.path = true)
    (apart : ∀ path, machine.keyFile? lab.home = some path →
      ¬ BootPlace machine start.files.workingDirectory (path.place start.files.workingDirectory))
    (absent : start.guest? machine.vmName = none)
    (succeeds : (lab.deploy machine).run.run (respond craft) start = (.ok (), clean))
    (fails : (lab.deploy machine).run.Runs (conduct craft) start events (.error failure) broken) :
    broken.guest? machine.vmName = none ∧ ∃ again,
      (lab.deploy machine).run.run (respond craft) broken = (.ok (), again) ∧
        again.domains = clean.domains ∧
          again.guest? machine.vmName = some ⟨craft.running, []⟩ ∧
            ∀ location, again.files.get? location = clean.files.get? location := by
  obtain ⟨image, prepared, prepares, _, rfl⟩ := run_deploy.mp succeeds
  obtain ⟨resolved, _⟩ := image_of_prepare prepares
  obtain ⟨ready, settled⟩ := ready_of_prepare outside found prepares
  have makes : ∀ other, lab.imageFor machine = .ok other → ∀ disk ∈ VirtualDisk.ofMachine machine,
      Makes machine (Due craft machine image.imagePath start.files) craft start disk
        (Lab.backingFor other.imagePath disk) := by
    intro other otherResolved disk member
    cases resolved.symm.trans otherResolved
    exact ready.makes member
  rcases deploying_or_strewn makes fails with ⟨impossible, _⟩ | ⟨_, left⟩
  · cases impossible
  · have abreast : Abreast craft machine image.imagePath start [] start broken :=
      ⟨⟨.refl _, rfl⟩, left, left.ahead.covers, by simp⟩
    obtain ⟨ended, preparesAgain, done⟩ :=
      (prepare_tracks resolved ready apart).run abreast prepares
    have free : ∀ {site : Site}, site.domains = start.domains →
        site.guest? machine.vmName = none := by
      intro site same
      rw [guest?, same]
      exact absent
    refine ⟨free left.domains, deploying craft machine ended,
      run_deploy.mpr ⟨image, ended, preparesAgain, free done.otherLeft.domains, rfl⟩, ?_, ?_, ?_⟩
    · exact congrArg (List.cons _) (done.otherLeft.domains.trans done.left.domains.symm)
    · exact List.lookup_cons_self
    · exact done.get?_eq settled

theorem up_again (outside : ∀ image, lab.imageFor machine = .ok image →
      ¬ machine.workDirectory.place start.files.workingDirectory <+:
        image.imagePath.place start.files.workingDirectory)
    (found : ∀ disk ∈ VirtualDisk.ofMachine machine, ∀ content,
      start.files.get? (disk.path.place start.files.workingDirectory) = some (.file content) →
        start.files.pathExists disk.path = true)
    (apart : ∀ path, machine.keyFile? lab.home = some path →
      ¬ BootPlace machine start.files.workingDirectory (path.place start.files.workingDirectory))
    (succeeds : (lab.up machine).run.run (respond craft) start = (.ok outcome, clean))
    (fails : (lab.up machine).run.Runs (conduct craft) start events (.error failure) broken) :
    ∃ again guest, (lab.up machine).run.run (respond craft) broken = (.ok outcome, again) ∧
      again.domains = clean.domains ∧
        (∀ location, again.files.get? location = clean.files.get? location) ∧
          again.guest? machine.vmName = some guest ∧ guest.status = craft.running := by
  rcases up_cases fails with ⟨guest, late, known, powered⟩ | ⟨absent, late, result, deploys, failed⟩
  · -- only powering on can have failed, and that has changed nothing
    rcases Lab.powerOn_eq machine guest.status with starts | ⟨other, _, stays⟩
    · rw [starts] at powered
      rcases starting_or_unchanged known powered with ⟨impossible, _⟩ | ⟨_, rfl⟩
      · cases impossible
      · refine ⟨clean, { guest with status := craft.running }, succeeds, rfl, fun _ => rfl, ?_, rfl⟩
        rw [Lab.up_eq_powerOn, Attempt.run_bind_of_ok (run_lookup _ _ _), known] at succeeds
        change (Lab.powerOn machine guest.status).run.run _ _ = _ at succeeds
        obtain ⟨_, run⟩ := Script.runs_run (conduct_respond craft) (Lab.startUp machine).run broken
        rw [← starts, succeeds, starts] at run
        rcases starting_or_unchanged known run with ⟨_, rfl⟩ | ⟨⟨_, impossible⟩, _⟩
        · rw [starting, guest?_changeGuest, known, Option.map_some]
        · cases impossible
    · rw [stays] at powered
      obtain ⟨_, impossible, _⟩ := Attempt.runs_pure.mp powered
      cases impossible
  · obtain ⟨rfl, deployed⟩ := (run_up_of_absent absent).mp succeeds
    cases result with
    | ok => cases failed
    | error cause =>
        obtain ⟨stillAbsent, again, deploysAgain, domains, running, files⟩ :=
          deployed_again outside found apart absent deployed deploys
        exact ⟨again, _, (run_up_of_absent stillAbsent).mpr ⟨rfl, deploysAgain⟩, domains, files,
          running, rfl⟩

/-! ## Which disks are created -/

theorem files_call (call : Hypervisor.Call) (site : Site) :
    (site.call craft call).2.files = site.files := by
  cases call <;> simp only [Site.call, onGuest] <;> split <;> try rfl
  split <;> rfl

theorem covers_attempted {site : Site} {path : Path} {change : Bytes → Bytes} :
    Covers site.files (site.attempted (site.files.modifyFile path change)).2.files := by
  cases modified : site.files.modifyFile path change with
  | error cause => exact .refl _
  | ok changed => exact covers_of_modifyFile modified

theorem covers_runTool (tool : String) (arguments : List String) (site : Site) :
    Covers site.files (site.runTool craft tool arguments).2.files := by
  have crafts : ∀ path content,
      Covers site.files (site.crafted tool arguments path content).2.files := by
    intro path content
    unfold crafted
    split
    · rename_i written
      exact covers_of_modifyFile written
    · exact .refl _
  unfold runTool
  split
  · exact crafts _ _
  · split
    · exact crafts _ _
    · split
      · split <;> exact .refl _
      · exact .refl _

theorem covers_of_conducted {request : Request} {answer : request.Answer} {before : Site}
    (grows : request.Grows) (conducted : conduct craft request before answer after) :
    Covers before.files after.files := by
  cases request with
  | renameFile | removeFile | removeDirectory => exact grows.elim
  | createDirectories path => exact (adds_of_createDirectories conducted).2.1.covers
  | writeFile path content =>
      rcases wrote_of_writeFile conducted with
        ⟨_, _, written, rfl⟩ | ⟨_, rfl | ⟨_, _, written, rfl⟩⟩
      · exact covers_of_modifyFile written
      · exact .refl _
      · exact covers_of_modifyFile written
  | appendFile path content =>
      rcases conducted with answered | impossible
      · rw [show after = _ from congrArg Prod.snd answered]
        exact covers_attempted
      · exact impossible.elim
  | runTool tool arguments =>
      rcases conducted with answered | ⟨_, rfl⟩
      · rw [show after = _ from congrArg Prod.snd answered]
        exact covers_runTool tool arguments before
      · exact .refl _
  | hypervisor call =>
      have same : after.files = before.files := by
        rcases conducted with answered | fails
        · rw [show after = _ from congrArg Prod.snd answered]
          exact files_call call before
        · cases call with
          | start => exact congrArg files fails.2
          | _ => exact fails.elim
      rw [same]
      exact .refl _
  | _ =>
      rcases conducted with answered | impossible
      · cases answered
        exact .refl _
      · exact impossible.elim

theorem covers_of_runs {α : Type} {script : Script α} {holds : α → Prop} {start final : Site}
    {events : List (Event Site)} {value : α}
    (confined : script.Confined Request.Grows holds)
    (run : script.Runs (conduct craft) start events value final) :
    Covers start.files final.files :=
  (run.kept (fun site => Covers start.files site.files) (fun event member reached =>
    reached.trans (covers_of_conducted (run.request_of_confined confined event member)
      (run.conducted event member))) (.refl _)).2

def CreatesMissing (machine : Machine) (site : Site) (request : Request) : Prop :=
  ∀ arguments, request = .runTool VirtualDisk.creationTool arguments →
    ∃ disk ∈ VirtualDisk.ofMachine machine, ∃ backing,
      arguments = disk.creationArguments backing ∧ site.files.pathExists disk.path = false

/-- Whatever a run of the script comes to, no file is gone, and of disks only those of the machine
are created that were missing before. -/
structure Sparing (craft : Craft) (machine : Machine) {α : Type} (script : Script α) : Prop where
  run : ∀ {start events value final}, script.Runs (conduct craft) start events value final →
    Covers start.files final.files ∧
      ∀ event ∈ events, CreatesMissing machine start event.request

theorem CreatesMissing.of_covers {site : Site} {request : Request}
    (creates : CreatesMissing machine after request) (covers : Covers site.files after.files) :
    CreatesMissing machine site request := by
  intro arguments made
  obtain ⟨disk, member, backing, told, missing⟩ := creates arguments made
  refine ⟨disk, member, backing, told, ?_⟩
  rw [Bool.eq_false_iff] at missing ⊢
  exact fun found => missing (covers.pathExists found)

section Sparing

variable {α β ε : Type}

theorem sparing_of_confined {script : Script α} {holds : α → Prop}
    (confined : script.Confined Request.Spares holds) : Sparing craft machine script := by
  constructor
  intro start events value final run
  refine ⟨covers_of_runs (confined.mono (fun _ spares => spares.1) fun _ => id) run, ?_⟩
  exact fun event member arguments made =>
    absurd made ((run.request_of_confined confined event member).2 arguments)

theorem sparing_pure (value : α) : Sparing craft machine (pure value : Script α) := by
  constructor
  intro start events result final run
  obtain ⟨rfl, _, rfl⟩ := Script.runs_pure.mp run
  exact ⟨.refl _, by simp⟩

theorem sparing_bind {script : Script α} {next : α → Script β}
    (sparing : Sparing craft machine script)
    (nextSparing : ∀ value, Sparing craft machine (next value)) :
    Sparing craft machine (script >>= next) := by
  constructor
  intro start events value final run
  obtain ⟨first, early, middle, late, before, rest, rfl⟩ := Script.runs_bind.mp run
  obtain ⟨earlyCovers, earlyCreates⟩ := sparing.run before
  obtain ⟨lateCovers, lateCreates⟩ := (nextSparing first).run rest
  exact ⟨earlyCovers.trans lateCovers, List.forall_mem_append.mpr ⟨earlyCreates,
    fun event member => (lateCreates event member).of_covers earlyCovers⟩⟩

theorem sparing_attempt_bind {attempt : Attempt ε α} {next : α → Attempt ε β}
    (sparing : Sparing craft machine attempt.run)
    (nextSparing : ∀ value, Sparing craft machine (next value).run) :
    Sparing craft machine (attempt >>= next).run := by
  rw [ExceptT.run_bind]
  refine sparing_bind sparing fun outcome => ?_
  cases outcome with
  | ok value => exact nextSparing value
  | error failure => exact sparing_pure _

/-- A disk is created only if it is missing. -/
theorem create_sparing {disk : VirtualDisk} (member : disk ∈ VirtualDisk.ofMachine machine)
    (backing : Option Path) : Sparing craft machine (disk.create backing).run := by
  constructor
  intro start events value final run
  have grows : (disk.create backing).Confined Request.Grows fun _ => True :=
    (Lab.create_makes (Lab.owns_of_mem_ofMachine member) backing).mono fun _ => Request.Makes.grows
  refine ⟨covers_of_runs grows.run run, ?_⟩
  rw [create_eq] at run
  obtain ⟨present, middle, rest, conducted, making, rfl⟩ := Attempt.runs_ask_bind.mp run
  have answered : (present, middle) = (start.files.pathExists disk.path, start) :=
    conducted.resolve_right id
  obtain ⟨found, rfl⟩ := Prod.mk.inj answered
  refine List.forall_mem_cons.mpr ⟨nofun, fun event among arguments made => ?_⟩
  cases present with
  | true =>
      obtain ⟨rfl, _⟩ := Attempt.runs_pure.mp making
      cases among
  | false =>
      let Told (request : Request) : Prop := ∀ arguments,
        request = .runTool VirtualDisk.creationTool arguments →
          arguments = disk.creationArguments backing
      have parent : (makeParent DiskFailure.directory disk.path).Confined Told fun _ => True := by
        unfold makeParent
        split
        · exact Attempt.confined_bind (Attempt.confined_ask nofun) fun _ =>
            Attempt.confined_orFail fun _ => trivial
        · exact Attempt.confined_pure _
      have creation : (Attempt.ask (ε := DiskFailure)
          (.runTool VirtualDisk.creationTool (disk.creationArguments backing)) >>= fun answer =>
            Attempt.orFail (.tool disk.path) answer >>= fun _ => pure ()).Confined Told
          fun _ => True := by
        refine Attempt.confined_bind (Attempt.confined_ask ?_) fun _ =>
          Attempt.confined_bind (Attempt.confined_orFail fun _ => trivial) fun _ =>
            Attempt.confined_pure _
        rintro _ ⟨⟩
        rfl
      have told := (Attempt.confined_bind parent fun _ => creation).run
      exact ⟨disk, member, backing, making.request_of_confined told event among arguments made,
        found.symm⟩

theorem createAll_sparing (backing : VirtualDisk → Option Path) {disks : List VirtualDisk}
    (members : ∀ disk ∈ disks, disk ∈ VirtualDisk.ofMachine machine) :
    Sparing craft machine (VirtualDisk.createAll backing disks) := by
  induction disks with
  | nil => exact sparing_pure _
  | cons disk rest induction =>
      obtain ⟨member, others⟩ := List.forall_mem_cons.mp members
      refine sparing_bind (create_sparing member (backing disk)) fun created => ?_
      refine sparing_bind (induction others) fun failures => ?_
      cases created <;> exact sparing_pure _

private theorem sparing_of_attempt {attempt : Attempt ε α} {allowed : Request → Prop}
    (confined : attempt.Confined allowed fun _ => True)
    (spares : ∀ request, allowed request → request.Spares) :
    Sparing craft machine attempt.run :=
  sparing_of_confined (confined.mono spares).run

theorem createDisks_sparing (image : Path) :
    Sparing craft machine (Lab.createDisks machine image).run := by
  refine sparing_attempt_bind ?_ fun failures => ?_
  · rw [ExceptT.run_lift, ← bind_pure_comp]
    exact sparing_bind (createAll_sparing _ fun _ member => member) fun _ =>
      sparing_pure _
  · split <;> exact sparing_pure _

theorem deploy_sparing (lab : Lab) (machine : Machine) :
    Sparing craft machine (lab.deploy machine).run := by
  have spare : ∀ {β : Type} (result : Except LabError β),
      Sparing craft machine (Attempt.orFail (ε := LabError) id result).run := fun result =>
    sparing_of_attempt (Attempt.confined_orFail fun _ => trivial) fun _ => id
  rw [Lab.deploy_eq_prepare]
  refine sparing_attempt_bind (sparing_attempt_bind (spare _) fun image => ?_) fun image =>
    sparing_of_attempt (Lab.installation_installs lab image) fun _ => Request.Installs.spares
  refine sparing_attempt_bind (sparing_of_attempt (Lab.requireTrusted_looks image)
    fun _ => Request.Looks.spares) fun backing => ?_
  refine sparing_attempt_bind (createDisks_sparing backing) fun _ => ?_
  refine sparing_attempt_bind (sparing_of_attempt (Lab.render_looks _ _ _ _)
    fun _ => Request.Looks.spares) fun documents => ?_
  refine sparing_attempt_bind (sparing_of_attempt (Lab.stage_stages documents)
    fun _ => Request.Stages.spares) fun _ => ?_
  refine sparing_attempt_bind (sparing_of_attempt (Attempt.confined_mapError Lab.package_stages
    fun _ => trivial) fun _ => Request.Stages.spares) fun _ => ?_
  exact sparing_of_attempt (Attempt.confined_pure image) fun _ => id

theorem perform_spares (call : Hypervisor.Call) :
    (Hypervisor.perform call).Confined Request.Spares fun _ => True :=
  Lab.perform_confined ⟨trivial, nofun⟩

theorem lookup_asks (domain : String) :
    (Hypervisor.lookup domain).Confined (Request.AsksState domain) fun _ => True :=
  Lab.lookup_confined trivial rfl

theorem up_sparing (lab : Lab) (machine : Machine) :
    Sparing craft machine (lab.up machine).run := by
  have asks : ∀ domain request, Request.AsksState domain request → request.Spares := by
    intro domain request asks
    cases request with
    | hypervisor call => exact ⟨trivial, nofun⟩
    | _ => exact asks.elim
  rw [Lab.up_eq_powerOn]
  refine sparing_attempt_bind (sparing_of_attempt (lookup_asks _) (asks _)) fun found => ?_
  cases found with
  | none =>
      exact sparing_attempt_bind (deploy_sparing lab machine) fun _ =>
        sparing_of_attempt (Attempt.confined_pure _) fun _ => id
  | some status =>
      dsimp only
      rcases Lab.powerOn_eq machine status with starts | ⟨outcome, _, stays⟩
      · rw [starts]
        refine sparing_attempt_bind (sparing_of_attempt (perform_spares _) fun _ => id) fun _ => ?_
        refine sparing_attempt_bind (sparing_attempt_bind (sparing_of_attempt (lookup_asks _)
          (asks _)) fun found => ?_) fun _ =>
            sparing_of_attempt (Attempt.confined_pure _) fun _ => id
        cases found with
        | none => exact sparing_of_attempt (Attempt.confined_throw trivial) fun _ => id
        | some status => exact sparing_of_attempt (Attempt.confined_pure _) fun _ => id
      · rw [stays]
        exact sparing_of_attempt (Attempt.confined_pure _) fun _ => id

end Sparing

/-! ## Once the machine runs -/

theorem runs_up_of_running {start final : Site} {guest : Guest} {events : List (Event Site)}
    {outcome : Except LabError UpOutcome} (known : start.guest? machine.vmName = some guest)
    (running : guest.status = craft.running)
    (run : (lab.up machine).run.Runs (conduct craft) start events outcome final) :
    outcome = .ok .alreadyRunning ∧ final = start ∧
      ∀ event ∈ events, event.request.AsksState machine.vmName := by
  rw [Lab.up_eq_powerOn] at run
  rcases Attempt.runs_bind.mp run with
    ⟨_, failed, _⟩ | ⟨found, early, middle, late, looked, rest, rfl⟩
  · obtain ⟨impossible, _⟩ := runs_lookup failed
    cases impossible
  · obtain ⟨equal, rfl⟩ := runs_lookup looked
    rw [known, Option.map_some, running] at equal
    cases equal
    obtain ⟨rfl, rfl, rfl⟩ := Attempt.runs_pure.mp rest
    refine ⟨rfl, rfl, fun event member => ?_⟩
    rw [List.append_nil] at member
    exact looked.request_of_confined (lookup_asks _).run event member

/-! ## Retrying -/

/-- Retrying converges. Where a machine could have been brought up, its image lies outside of its
directory, its disks are found where they are and its user's key is in no file that it boots from,
bringing it up after any failure comes to the same outcome, domains and files; on the way only disks
are created that are missing. Once more, it is left alone. -/
theorem retry_converges {start clean broken : Site} {events : List (Event Site)}
    {failure : LabError} {outcome : UpOutcome}
    (outside : ∀ image, lab.imageFor machine = .ok image →
      ¬ machine.workDirectory.place start.files.workingDirectory <+:
        image.imagePath.place start.files.workingDirectory)
    (found : ∀ disk ∈ VirtualDisk.ofMachine machine, ∀ content,
      start.files.get? (disk.path.place start.files.workingDirectory) = some (.file content) →
        start.files.pathExists disk.path = true)
    (apart : ∀ path, machine.keyFile? lab.home = some path →
      ¬ BootPlace machine start.files.workingDirectory (path.place start.files.workingDirectory))
    (succeeds : (lab.up machine).run.run (respond craft) start = (.ok outcome, clean))
    (fails : (lab.up machine).run.Runs (conduct craft) start events (.error failure) broken) :
    ∃ again, (lab.up machine).run.run (respond craft) broken = (.ok outcome, again) ∧
      again.domains = clean.domains ∧
      (∀ location, again.files.get? location = clean.files.get? location) ∧
      (∀ {events result final},
        (lab.up machine).run.Runs (conduct craft) broken events result final →
          ∀ event ∈ events, CreatesMissing machine broken event.request) ∧
      ∀ {events result final},
        (lab.up machine).run.Runs (conduct craft) again events result final →
          result = .ok .alreadyRunning ∧ final = again ∧
            ∀ event ∈ events, event.request.AsksState machine.vmName := by
  obtain ⟨again, guest, ran, domains, files, known, running⟩ :=
    up_again outside found apart succeeds fails
  exact ⟨again, ran, domains, files, fun run => ((up_sparing lab machine).run run).2,
    fun run => runs_up_of_running known running run⟩

def respondExcept (told : String) (craft : Craft) : Script.Responder Site
  | .runTool tool arguments, site =>
      if told ∈ arguments then (.error (.failed tool arguments 1 ""), site)
      else respond craft (.runTool tool arguments) site
  | request, site => respond craft request site

theorem conduct_respondExcept (told : String) (craft : Craft) (request : Request) (site : Site) :
    conduct craft request site (respondExcept told craft request site).1
      (respondExcept told craft request site).2 := by
  cases request with
  | runTool tool arguments =>
      rw [respondExcept]
      split
      · exact .inr ⟨rfl, rfl⟩
      · exact conduct_respond craft _ site
  | _ => exact conduct_respond craft _ site

def plainLab : Lab := labIn ⟨"/"⟩

theorem second_disk_retried : ∃ events failure broken again clean,
    (plainLab.up (twoDiskMachine plainLab)).run.Runs (conduct plainCraft) imageSite events
      (.error failure) broken ∧
    (plainLab.up (twoDiskMachine plainLab)).run.run (respond plainCraft) imageSite =
      (.ok .deployed, clean) ∧
    (plainLab.up (twoDiskMachine plainLab)).run.run (respond plainCraft) broken =
      (.ok .deployed, again) ∧
    ∀ location, again.files.get? location = clean.files.get? location := by
  obtain ⟨events, run⟩ := Script.runs_run (conduct_respondExcept "/l/w/disk1.qcow2" plainCraft)
    (plainLab.up (twoDiskMachine plainLab)).run imageSite
  have ran : ((plainLab.up (twoDiskMachine plainLab)).run.run
        (respondExcept "/l/w/disk1.qcow2" plainCraft) imageSite).1.isOk = false ∧
      ((plainLab.up (twoDiskMachine plainLab)).run.run (respond plainCraft)
        imageSite).1 = .ok .deployed := by
    decide +kernel
  have outside : ∀ image, plainLab.imageFor (twoDiskMachine plainLab) = .ok image →
      ¬ (twoDiskMachine plainLab).workDirectory.place imageSite.files.workingDirectory <+:
        image.imagePath.place imageSite.files.workingDirectory := by
    intro image resolved
    have place : (plainLab.imageFor (twoDiskMachine plainLab)).map
        (·.imagePath.place imageSite.files.workingDirectory) = .ok ["cloud-images", "i"] := by
      decide +kernel
    rw [resolved] at place
    rw [show image.imagePath.place _ = _ from Except.ok.inj place]
    decide +kernel
  have missing : ∀ disk ∈ VirtualDisk.ofMachine (twoDiskMachine plainLab),
      imageSite.files.get? (disk.path.place imageSite.files.workingDirectory) = none := by
    decide +kernel
  have keyless : (twoDiskMachine plainLab).keyFile? plainLab.home = none := by
    decide +kernel
  cases failed : ((plainLab.up (twoDiskMachine plainLab)).run.run
      (respondExcept "/l/w/disk1.qcow2" plainCraft) imageSite).1 with
  | ok value =>
      rw [failed] at ran
      cases ran.1
  | error failure =>
      rw [failed] at run
      obtain ⟨again, ranAgain, _, files, _⟩ := retry_converges outside
        (fun disk member content held => nomatch (missing disk member).symm.trans held)
        (fun path holds => nomatch keyless.symm.trans holds) (eq_pair_of_fst ran.2) run
      exact ⟨events, failure, _, again, _, run, eq_pair_of_fst ran.2, ranAgain, files⟩

/-- The machine is brought up here where nothing fails; but a failure is possible after which the
same comes to another outcome or to other files. -/
def Diverges (lab : Lab) (machine : Machine) (start : Site) : Prop :=
  ∃ clean events failure broken,
    (lab.up machine).run.run (respond plainCraft) start = (.ok .deployed, clean) ∧
    (lab.up machine).run.Runs (conduct plainCraft) start events (.error failure) broken ∧
    (((lab.up machine).run.run (respond plainCraft) broken).1 ≠ .ok .deployed ∨
      ∃ location, ((lab.up machine).run.run (respond plainCraft) broken).2.files.get? location ≠
        clean.files.get? location)

theorem diverges_of_failure {start : Site} (told : String) (location : Location)
    (succeeds : ((lab.up machine).run.run (respond plainCraft) start).1 = .ok .deployed)
    (fails : ((lab.up machine).run.run (respondExcept told plainCraft) start).1.isOk = false)
    (differs : ((lab.up machine).run.run (respond plainCraft)
        ((lab.up machine).run.run (respondExcept told plainCraft) start).2).1 ≠ .ok .deployed ∨
      ((lab.up machine).run.run (respond plainCraft)
        ((lab.up machine).run.run (respondExcept told plainCraft) start).2).2.files.get? location ≠
          ((lab.up machine).run.run (respond plainCraft) start).2.files.get? location) :
    Diverges lab machine start := by
  obtain ⟨events, run⟩ := Script.runs_run (conduct_respondExcept told plainCraft)
    (lab.up machine).run start
  cases failed : ((lab.up machine).run.run (respondExcept told plainCraft) start).1 with
  | ok value =>
      rw [failed] at fails
      cases fails
  | error failure =>
      rw [failed] at run
      exact ⟨_, events, failure, _, eq_pair_of_fst succeeds, run, differs.imp_right fun other =>
        ⟨location, other⟩⟩

def keyedMachine : Machine :=
  (Machine.resolve plainLab.environment
    { vmName := some "w", cloudInit := some { pubkey := some "/l/w/user-data" } }).toOption.getD
    default

def siteWith (file : String) (content : Bytes) : Site where
  files := { entries := imageSite.files.entries ++
    [(["l"], .directory), (["l", "w"], .directory), (["l", "w", file], .file content)] }

def hiddenLab : Lab := labIn ⟨"/m/.."⟩

/-- The first attempt overwrites the user's key before it fails, and the next one fails for want of
it. A disk that was not found because a directory on the way to it was missing is found by the next
attempt and kept, where a single one would have made it anew. -/
theorem retry_diverges :
    ((plainLab.imageFor keyedMachine).map (·.imagePath) = .ok ⟨"/cloud-images/i"⟩ ∧
      Diverges plainLab keyedMachine (siteWith "user-data" (Bytes.ofText "ssh-rsa A"))) ∧
    (hiddenLab.imageFor (twoDiskMachine hiddenLab)).map (·.imagePath) = .ok ⟨"/cloud-images/i"⟩ ∧
      Diverges hiddenLab (twoDiskMachine hiddenLab) (siteWith "disk0.qcow2" [1]) := by
  refine ⟨⟨by decide +kernel, diverges_of_failure "--import" [] ?_ ?_ (.inl ?_)⟩,
    by decide +kernel,
    diverges_of_failure "/m/../l/w/disk0.qcow2" ["l", "w", "disk0.qcow2"] ?_ ?_ (.inr ?_)⟩
  all_goals decide +kernel

end Site

end VirtualLab
