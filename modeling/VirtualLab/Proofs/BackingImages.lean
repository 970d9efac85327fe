import VirtualLab.Proofs.Destruction
import VirtualLab.Proofs.ReadyImages

/-!
# The image behind a machine

Bringing a machine up creates its first disk on an image and all others on none. The image is the
first declared one of the name that the machine gives, and it was trusted before anything was
created. Where there is no such image, or the domain is there, nothing is done but looking.
-/

namespace VirtualLab

open BootConfig FileSystem Hypervisor

namespace Request

def Observes : Request → Prop
  | .hypervisor _ => True
  | request => request.Looks

/-- The request calls no hypervisor, and if it runs the tool that creates disks, then on a disk of
the machine: the first one backed by this image, the others by none. -/
def CreatesFrom (machine : Machine) (image : Path) : Request → Prop
  | .hypervisor _ => False
  | .runTool tool arguments => tool = VirtualDisk.creationTool →
      ∃ disk ∈ VirtualDisk.ofMachine machine,
        arguments = disk.creationArguments (Lab.backingFor image disk)
  | _ => True

variable {machine : Machine} {image : Path} {request : Request}

theorem Looks.observes (looks : request.Looks) : request.Observes := by
  cases request <;> first | exact looks | trivial

theorem Looks.createsFrom (looks : request.Looks) : request.CreatesFrom machine image := by
  cases request <;> first | exact looks.elim | trivial

theorem Stages.createsFrom (stages : request.Stages machine) :
    request.CreatesFrom machine image := by
  cases request with
  | runTool tool arguments => exact fun creates => absurd (stages.1.symm.trans creates) (by decide)
  | hypervisor call => exact stages.elim
  | _ => trivial

theorem Installs.createsFrom (installs : request.Installs machine) :
    request.CreatesFrom machine image := by
  obtain ⟨install, _, rfl⟩ := installs
  exact fun creates => absurd creates (by decide)

theorem Observes.unchanged {tool : SignatureToolConduct} {before after : FileSystem}
    {answer : request.Answer} (observes : request.Observes)
    (conducted : conduct tool request before answer after) : after = before := by
  cases request with
  | pathExists | isFile | readFile => exact conducted.2
  | hypervisor => exact conducted
  | _ => exact observes.elim

end Request

namespace Lab

variable {tool : SignatureToolConduct} {start final : FileSystem} {events : List (Event FileSystem)}
  {lab : Lab} {machine : Machine}

/-- A run that only observes leaves the files as they are all the time. -/
theorem unchanged_of_observes {α : Type} {script : Script α} {value : α}
    (run : script.Runs (conduct tool) start events value final)
    (observes : ∀ event ∈ events, event.request.Observes) :
    final = start ∧ ∀ event ∈ events, event.after = start :=
  (run.kept (· = start) (fun event member same =>
    ((observes event member).unchanged (run.conducted event member)).trans same) rfl).symm

/-! ### The image of a machine -/

/-- The image can back the first disk of the machine: it is the first declared one of that name,
and it is trusted. -/
def Backs (lab : Lab) (machine : Machine) (files : FileSystem) (image : CloudImage) : Prop :=
  ∃ declaration, lab.images.find? (·.name == machine.os) = some declaration ∧
    CloudImage.resolve lab.environment declaration = .ok image ∧ image.Trusted files

theorem imageFor_eq_ok {image : CloudImage} :
    lab.imageFor machine = .ok image ↔
      ∃ declaration, lab.images.find? (·.name == machine.os) = some declaration ∧
        CloudImage.resolve lab.environment declaration = .ok image := by
  unfold imageFor
  split
  · rename_i declaration found
    simp [found]
  · rename_i missing
    simp [missing]

/-! ### Creating a machine -/

theorem createDisks_createsFrom (image : Path) :
    (createDisks machine image).Confined (Request.CreatesFrom machine image) fun _ => True :=
  createDisks_confined (fun disk member =>
    create_confined trivial (fun _ _ => trivial) fun _ => ⟨disk, member, rfl⟩) fun _ _ => trivial

/-- Creating a machine either begins with an image that can back it, or does nothing but look. -/
theorem backed_or_observes_of_deploy {outcome : Except LabError Unit}
    (run : (lab.deploy machine).run.Runs (conduct tool) start events outcome final) :
    (∃ image, lab.Backs machine start image ∧
      ∀ event ∈ events, event.request.CreatesFrom machine image.imagePath) ∨
    ∀ event ∈ events, event.request.Looks := by
  rcases Attempt.runs_orFail_bind.mp run with ⟨_, _, rfl, _⟩ | ⟨image, found, asking⟩
  · exact .inr (by simp)
  rcases Attempt.runs_bind.mp asking with ⟨_, refused, _⟩ |
    ⟨backing, looking, middle, later, asked, building, rfl⟩
  · exact .inr (refused.request_of_confined (requireTrusted_looks image).run)
  obtain ⟨handedOut, rfl⟩ := CloudImage.runs_requireTrusted.mp ⟨_, asked⟩
  have trusted : image.Trusted middle ∧ backing = image.imagePath := by
    unfold CloudImage.handedOut at handedOut
    split at handedOut
    · rename_i trusted
      exact ⟨trusted, Except.ok.inj handedOut⟩
    · split at handedOut <;> cases handedOut
  obtain ⟨trusted, rfl⟩ := trusted
  obtain ⟨declaration, first, resolved⟩ := imageFor_eq_ok.mp found
  refine .inl ⟨image, ⟨declaration, first, resolved, trusted⟩, ?_⟩
  refine List.forall_mem_append.mpr ⟨fun event member => ?_, ?_⟩
  · exact (asked.request_of_confined (requireTrusted_looks image).run event member).createsFrom
  · refine Attempt.Confined.requests ?_ building
    refine Attempt.confined_bind (createDisks_createsFrom _) fun _ => ?_
    refine Attempt.confined_bind ((render_looks _ _ _ _).mono fun _ looks => looks.createsFrom)
      fun documents => ?_
    refine Attempt.confined_bind ((stage_stages documents).mono fun _ stages =>
      stages.createsFrom) fun _ => ?_
    refine Attempt.confined_bind (Attempt.confined_mapError (package_stages.mono fun _ stages =>
      stages.createsFrom) fun _ => trivial) fun _ => ?_
    exact (installation_installs lab image).mono fun _ installs => installs.createsFrom

/-! ### Bringing a machine up -/

def Listed (domain : String) (events : List (Event FileSystem)) : Prop :=
  ∃ before names after, ⟨before, .hypervisor .domains, .ok names, after⟩ ∈ events ∧ domain ∈ names

theorem not_listed_of_absent {domain : String}
    (looked : LookedUp start domain events (.ok none)) : ¬ Listed domain events := by
  cases looked with
  | absent absent =>
      rintro ⟨_, names, _, member, listed⟩
      cases List.mem_singleton.mp member
      exact absent listed

theorem listed_of_not_deployed {outcome : UpOutcome} (notDeployed : outcome ≠ .deployed)
    (run : (lab.up machine).run.Runs (conduct tool) start events (.ok outcome) final) :
    Listed machine.vmName events := by
  rw [up_eq_powerOn] at run
  obtain ⟨found, looking, middle, later, looked, rest, rfl⟩ := Attempt.runs_bind_ok.mp run
  obtain ⟨seen, rfl⟩ := lookedUp_of_lookup (looked.mono .inl)
  cases found with
  | none =>
      obtain ⟨created, _, equal⟩ := Attempt.runs_bind_pure.mp rest
      cases created <;> cases equal
      exact absurd rfl notDeployed
  | some status =>
      cases seen with
      | read listed => exact ⟨_, _, _, List.mem_cons_self, listed⟩

/-- Bringing a machine up either creates it where it is not listed, from an image that can back it,
or does nothing but observe. -/
theorem backed_or_observes_of_up {outcome : Except LabError UpOutcome}
    (run : (lab.up machine).run.Runs (conduct tool) start events outcome final) :
    (¬ Listed machine.vmName events ∧ ∃ image, lab.Backs machine start image ∧
      ∀ event ∈ events, event.request.Observes ∨
        event.request.CreatesFrom machine image.imagePath) ∨
    ∀ event ∈ events, event.request.Observes := by
  rw [up_eq_powerOn] at run
  have lookup_observes : ∀ {domain},
      (lookup domain).Confined Request.Observes fun _ => True :=
    lookup_confined trivial trivial
  rcases Attempt.runs_bind.mp run with ⟨_, failed, _⟩ |
    ⟨found, looking, middle, later, looked, rest, rfl⟩
  · exact .inr (lookup_observes.requests failed)
  have lookingObserves := lookup_observes.requests looked
  cases found with
  | some status =>
      have powering : (powerOn machine status).Confined Request.Observes fun _ => True :=
        powerOn_confined fun _ => trivial
      exact .inr (List.forall_mem_append.mpr ⟨lookingObserves, powering.requests rest⟩)
  | none =>
      obtain ⟨absent, rfl⟩ := lookedUp_of_lookup (looked.mono .inl)
      obtain ⟨_, creating, _⟩ := Attempt.runs_bind_pure.mp rest
      rcases backed_or_observes_of_deploy creating with ⟨image, backs, creates⟩ | looks
      · refine .inl ⟨?_, image, backs, List.forall_mem_append.mpr
          ⟨fun event member => .inl (lookingObserves event member),
            fun event member => .inr (creates event member)⟩⟩
        rintro ⟨_, _, _, member, listed⟩
        rcases List.mem_append.mp member with early | late
        · exact not_listed_of_absent absent ⟨_, _, _, early, listed⟩
        · exact creates _ late
      · exact .inr (List.forall_mem_append.mpr
          ⟨lookingObserves, fun event member => (looks event member).observes⟩)

/-- In every run, a disk is created on an image only if it is the first of the machine, and only on
the machine's image, which was trusted when the run began; every other disk is created on none.
Where no image can back the machine or its domain is listed, nothing is done but observing. -/
theorem disks_backed_by_trusted_image {outcome : Except LabError UpOutcome}
    (run : (lab.up machine).run.Runs (conduct tool) start events outcome final) :
    (∀ event ∈ events, ∀ arguments,
      event.request = .runTool VirtualDisk.creationTool arguments →
        ∃ image, lab.Backs machine start image ∧ ∃ disk ∈ VirtualDisk.ofMachine machine,
          arguments = disk.creationArguments
            (if disk.index = 0 then some image.imagePath else none)) ∧
    ((¬ ∃ image, lab.Backs machine start image) ∨ Listed machine.vmName events →
      final = start ∧ ∀ event ∈ events, event.request.Observes ∧ event.after = start) := by
  constructor
  · intro event member arguments creates
    rcases backed_or_observes_of_up run with ⟨_, image, backs, asks⟩ | observes
    · rcases asks event member with observed | created
      · rw [creates] at observed
        exact observed.elim
      · rw [creates] at created
        exact ⟨image, backs, created rfl⟩
    · have observed := observes event member
      rw [creates] at observed
      exact observed.elim
  · intro refused
    have observes : ∀ event ∈ events, event.request.Observes := by
      rcases backed_or_observes_of_up run with ⟨unlisted, image, backs, _⟩ | observes
      · exact (refused.elim (fun none => none ⟨image, backs⟩) unlisted).elim
      · exact observes
    obtain ⟨same, unchanged⟩ := unchanged_of_observes run observes
    exact ⟨same, fun event member => ⟨observes event member, unchanged event member⟩⟩

/-! ### A machine with two disks -/

def webMachine : Machine :=
  { oneDiskMachine "web" with disks := [⟨"root", "15G"⟩, ⟨"data", "1G"⟩] }

def domainsRespond (names : List String) : Script.Responder FileSystem
  | .hypervisor .domains, files => (.ok names, files)
  | .hypervisor (.status _), files => (.ok ⟨.running, "normal startup from boot"⟩, files)
  | request, files => FileSystem.respond succeed (fun _ => .error "") request files
where
  succeed (_ : List String) (files : FileSystem) : Except ToolFailure ToolOutput × FileSystem :=
    (.ok {}, files)

theorem conduct_domainsRespond (names : List String) (request : Request) (files : FileSystem) :
    conduct (fun _ before _ after => after = before) request files
      (domainsRespond names request files).1 (domainsRespond names request files).2 := by
  have answered : ∀ request, conduct (fun _ before _ after => after = before) request files
      (FileSystem.respond domainsRespond.succeed (fun _ => .error "") request files).1
      (FileSystem.respond domainsRespond.succeed (fun _ => .error "") request files).2 :=
    fun request => conduct_respond (fun _ _ => rfl) request files
  cases request with
  | hypervisor call => cases call <;> exact rfl
  | _ => exact answered _

def rootCreation : List String :=
  ["create", "-f", "qcow2", "-b", "/disks/cloud-images/fedora.img", "-F", "qcow2",
    "/disks/lab/web/disk0.qcow2", "15G"]

def dataCreation : List String :=
  ["create", "-f", "qcow2", "/disks/lab/web/disk1.qcow2", "1G"]

/-- The machine is created with its first disk on the image and the second on none, and with no
other disk. Where its domain is there, nothing is changed. -/
theorem web_disks_created :
    (∃ events final,
      (oneImageLab.up webMachine).run.Runs (conduct fun _ before _ after => after = before)
        imageWorld.files events (.ok .deployed) final ∧
      (∃ event ∈ events, event.request = .runTool VirtualDisk.creationTool rootCreation) ∧
      (∃ event ∈ events, event.request = .runTool VirtualDisk.creationTool dataCreation) ∧
      ∀ event ∈ events, ∀ arguments,
        event.request = .runTool VirtualDisk.creationTool arguments →
          arguments = rootCreation ∨ arguments = dataCreation) ∧
    ∃ events,
      (oneImageLab.up webMachine).run.Runs (conduct fun _ before _ after => after = before)
        imageWorld.files events (.ok .alreadyRunning) imageWorld.files ∧
      ∀ event ∈ events, event.request.Observes := by
  constructor
  · obtain ⟨events, run, requests⟩ := Script.runs_asked (conduct_domainsRespond ["db"])
      (oneImageLab.up webMachine).run imageWorld.files
    rw [show ((oneImageLab.up webMachine).run.run (domainsRespond ["db"]) imageWorld.files).1 =
      .ok .deployed by decide +kernel] at run
    have called : ∀ arguments ∈ [rootCreation, dataCreation],
        .runTool VirtualDisk.creationTool arguments ∈ events.map (·.request) := by
      rw [requests]
      decide +kernel
    refine ⟨events, _, run, List.mem_map.mp (called _ List.mem_cons_self),
      List.mem_map.mp (called _ (List.mem_cons_of_mem _ List.mem_cons_self)),
      fun event member arguments creates => ?_⟩
    obtain ⟨image, ⟨declaration, first, resolved, _⟩, disk, among, rfl⟩ :=
      (disks_backed_by_trusted_image run).1 event member arguments creates
    have isImage : (oneImageLab.imageFor webMachine).map (·.imagePath) =
        .ok ⟨"/disks/cloud-images/fedora.img"⟩ := by
      decide +kernel
    rw [imageFor_eq_ok.mpr ⟨declaration, first, resolved⟩] at isImage
    have path : image.imagePath = ⟨"/disks/cloud-images/fedora.img"⟩ := Except.ok.inj isImage
    rw [path]
    clear creates
    revert disk
    decide +kernel
  · obtain ⟨events, run⟩ := Script.runs_run (conduct_domainsRespond ["web"])
      (oneImageLab.up webMachine).run imageWorld.files
    rw [show (oneImageLab.up webMachine).run.run (domainsRespond ["web"]) imageWorld.files =
      (.ok .alreadyRunning, imageWorld.files) by decide +kernel] at run
    have running : UpOutcome.alreadyRunning ≠ .deployed := nofun
    have refused :=
      (disks_backed_by_trusted_image run).2 (.inr (listed_of_not_deployed running run))
    exact ⟨events, run, fun event member => (refused.2 event member).1⟩

end Lab

end VirtualLab
