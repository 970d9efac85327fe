import VirtualLab.Proofs.BackingImages
import VirtualLab.Proofs.ExistenceChecks

/-!
# Configuration errors

Bringing a machine up may end in a configuration error at two stages. The image of the machine is
looked up and settled before anything is made; the key of its user is looked up for the boot
documents, when the disks have been made already. Nothing else is a configuration error, and no
document is written and nothing is installed before one.
-/

namespace VirtualLab

open BootConfig FileSystem Hypervisor Hypervisor.Virsh

def LabError.NotConfig (failure : LabError) : Prop := ∀ fault, failure ≠ .config fault

namespace Request

/-- The request has the client list the domains or read the state of this one. -/
def QueriesState (uri domain : String) (request : Request) : Prop :=
  request = clientRun uri .domains ∨ request = clientRun uri (.status domain)

/-- The request looks at files, or makes a disk of the machine or the directory for one. -/
def MakesDisks (machine : Machine) : Request → Prop
  | .createDirectories path =>
      ∃ disk ∈ VirtualDisk.ofMachine machine, disk.path.parent = some path
  | .runTool tool arguments =>
      tool = VirtualDisk.creationTool ∧
        ∃ disk ∈ VirtualDisk.ofMachine machine, ∃ backing,
          arguments = disk.creationArguments backing
  | request => request.Looks

theorem Looks.makesDisks {machine : Machine} {request : Request} (looks : request.Looks) :
    request.MakesDisks machine := by
  cases request <;> first | exact looks | exact looks.elim

end Request

namespace Lab

variable {σ : Type} {conduct : Conduct σ} {start final : σ} {events : List (Event σ)} {uri : String}
  {lab : Lab} {machine : Machine} {failure : LabError}

/-! ## Errors of the hypervisor -/

theorem perform_notConfig {call : Call}
    (run : (perform call).run.Runs (seen uri conduct) start events (.error failure) final) :
    failure.NotConfig := by
  obtain ⟨⟨given, _, equal⟩, _⟩ := runs_perform_iff.mp run
  intro fault isConfig
  subst isConfig
  cases given with
  | error cause => cases equal
  | ok output =>
      cases read : readOutput output.stdout call <;>
        simp [readAnswer, read, Except.mapError] at equal

theorem lookup_notConfig {domain : String}
    (run : (lookup domain).run.Runs (seen uri conduct) start events (.error failure) final) :
    failure.NotConfig := by
  rcases Attempt.runs_bind.mp run with ⟨_, failed, equal⟩ | ⟨names, _, _, _, _, reading, _⟩
  · cases equal
    exact perform_notConfig failed
  split at reading
  · obtain ⟨result, asked, equal⟩ := Attempt.runs_bind_pure.mp reading
    cases result with
    | ok status => cases equal
    | error cause =>
        cases equal
        exact perform_notConfig asked
  · cases (Attempt.runs_pure.mp reading).2.1

theorem require_notConfig {domain : String}
    (run : (require domain).run.Runs (seen uri conduct) start events (.error failure) final) :
    failure.NotConfig := by
  rcases Attempt.runs_bind.mp run with ⟨_, failed, equal⟩ | ⟨found, _, _, _, _, judging, _⟩
  · cases equal
    exact lookup_notConfig failed
  · cases found with
    | some status => cases (Attempt.runs_pure.mp judging).2.1
    | none =>
        cases (Attempt.runs_throw.mp judging).2.1
        simp [LabError.NotConfig]

theorem powerOn_notConfig {status : DomainStatus}
    (run : (powerOn machine status).run.Runs (seen uri conduct) start events (.error failure)
      final) : failure.NotConfig := by
  rcases powerOn_eq machine status with starts | ⟨outcome, _, stays⟩
  · rw [starts] at run
    rcases Attempt.runs_bind.mp run with ⟨_, failed, equal⟩ | ⟨_, _, _, _, _, rest, _⟩
    · cases equal
      exact perform_notConfig failed
    · obtain ⟨result, required, equal⟩ := Attempt.runs_bind_pure.mp rest
      cases result with
      | ok status => cases equal
      | error cause =>
          cases equal
          exact require_notConfig required
  · rw [stays] at run
    cases (Attempt.runs_pure.mp run).2.1

/-! ## Errors of a creation -/

theorem networkVersion_of_imageFor {image : CloudImage} (found : lab.imageFor machine = .ok image) :
    image.networkVersion = 1 ∨ image.networkVersion = 2 := by
  obtain ⟨declaration, _, resolved⟩ := imageFor_eq_ok.mp found
  exact CloudImage.networkVersion_of_resolveIn resolved

/-- There is a key to be found for the machine's user, and it is not found for this fault. -/
def Keyless (lab : Lab) (machine : Machine) (fault : ConfigFault) : Prop :=
  ∃ value, machine.cloudInit.pubkey = some value ∧
    PublicKey.isKeyLine (Text.trim value) = false ∧ KeyFault lab.home value fault

theorem config_error_of_deploy {fault : ConfigFault}
    (run : (lab.deploy machine).run.Runs conduct start events (.error (.config fault)) final) :
    (lab.imageFor machine = .error (.config fault) ∧ events = []) ∨
      lab.Keyless machine fault ∧ ∀ event ∈ events, event.request.MakesDisks machine := by
  rcases Attempt.runs_orFail_bind.mp run with ⟨_, unsettled, rfl, equal, _⟩ | ⟨image, found, asking⟩
  · cases equal
    exact .inl ⟨unsettled, rfl⟩
  have otherwise {α : Type} {attempt : LabTask α} {allowed : Request → Prop} {start final : σ}
      {events : List (Event σ)} (confined : attempt.Confined allowed LabError.NotConfig) :
      ¬ attempt.run.Runs conduct start events (.error (.config fault)) final :=
    fun failed => confined.failure failed fault rfl
  have trusting : image.requireTrusted.Confined Request.Looks LabError.NotConfig :=
    requireTrusted_confined image (fun _ => trivial) (by simp [LabError.NotConfig])
  rcases Attempt.runs_bind.mp asking with ⟨_, failed, equal⟩ |
    ⟨backing, _, _, _, trusted, making, rfl⟩
  · cases equal
    exact absurd failed (otherwise trusting)
  have creating : (createDisks machine backing).Confined (Request.MakesDisks machine)
      LabError.NotConfig :=
    createDisks_confined (fun disk member => create_confined trivial
      (fun _ above => ⟨disk, member, above⟩) ⟨rfl, disk, member, _, rfl⟩)
      (by simp [LabError.NotConfig])
  rcases Attempt.runs_bind.mp making with ⟨_, failed, equal⟩ |
    ⟨_, _, _, _, created, writing, rfl⟩
  · cases equal
    exact absurd failed (otherwise creating)
  rcases Attempt.runs_bind.mp writing with ⟨_, failed, equal⟩ |
    ⟨documents, _, _, _, _, installing, rfl⟩
  · cases equal
    have rendering : (Documents.render lab.home machine image.networkVersion
        lab.hostsCommands).Confined Request.Looks fun failure =>
          ∀ fault, failure = .config fault → lab.Keyless machine fault := by
      refine render_confined _ _ _ _ (fun value given noLine fault isFault other equal => ?_)
        (fun failure noSchema => ?_)
      · cases equal
        exact ⟨value, given, noLine, isFault⟩
      · rcases networkVersion_of_imageFor found with version | version <;>
          simp [version, networkConfig, Network.document, Except.map] at noSchema
    refine .inr ⟨rendering.failure failed fault rfl, ?_⟩
    simp only [List.forall_mem_append]
    refine ⟨fun event member => ?_, fun event member => ?_, fun event member => ?_⟩
    · exact (trusted.request_of_confined trusting.run event member).makesDisks
    · exact created.request_of_confined creating.run event member
    · exact (failed.request_of_confined rendering.run event member).makesDisks
  · have rest : Attempt.Confined (fun _ => True) LabError.NotConfig (do
        (Bundle.inDirectory machine.workDirectory).stage documents
        Attempt.mapError .tool (Bundle.inDirectory machine.workDirectory).package
        Attempt.mapError .tool (lab.installation machine image).install : LabTask Unit) := by
      refine Attempt.confined_bind ((stage_confined documents (by simp [LabError.NotConfig])).mono
        fun _ _ => trivial) fun _ => ?_
      refine Attempt.confined_bind (Attempt.confined_mapError (package_stages.mono
        fun _ _ => trivial) (by simp [LabError.NotConfig])) fun _ => ?_
      have installing : (lab.installation machine image).install.Confined
          (Request.Installs machine) fun _ => True := install_installs rfl
      exact Attempt.confined_mapError (installing.mono fun _ _ => trivial)
        (by simp [LabError.NotConfig])
    exact absurd installing (otherwise rest)

/-! ## Errors of bringing a machine up -/

/-- The domain is looked up first, and a configuration error comes from the creation after it. -/
theorem config_error_of_up {fault : ConfigFault}
    (run : (lab.up machine).run.Runs (seen uri conduct) start events (.error (.config fault))
      final) :
    ∃ early late, events = early ++ late ∧
      (∀ event ∈ early, event.request = .hypervisor .domains ∨
        event.request = .hypervisor (.status machine.vmName)) ∧
      ((lab.imageFor machine = .error (.config fault) ∧ late = []) ∨
        lab.Keyless machine fault ∧ ∀ event ∈ late, event.request.MakesDisks machine) := by
  rw [up_eq_powerOn] at run
  rcases Attempt.runs_bind.mp run with ⟨_, failed, equal⟩ |
    ⟨found, early, _, late, looked, rest, rfl⟩
  · cases equal
    exact absurd rfl (lookup_notConfig failed fault)
  have looking : (lookup machine.vmName).Confined (fun request =>
      request = .hypervisor .domains ∨ request = .hypervisor (.status machine.vmName))
      fun _ => True := lookup_confined (.inl rfl) (.inr rfl)
  refine ⟨early, late, rfl, looking.requests looked, ?_⟩
  cases found with
  | some status => exact absurd rfl (powerOn_notConfig rest fault)
  | none =>
      obtain ⟨result, creating, equal⟩ := Attempt.runs_bind_pure.mp rest
      cases result with
      | ok value => cases equal
      | error failure =>
          cases equal
          exact config_error_of_deploy creating

theorem requests_through {asked : List (Event σ)} (sees : List.Forall₂ (SeenAs uri) asked events)
    {event : Event σ} (member : event ∈ events) :
    ∃ origin ∈ asked, (∃ call, origin.request = .hypervisor call ∧
      event.request = clientRun uri call) ∨
        origin = event ∧ ∀ call, event.request ≠ .hypervisor call := by
  obtain ⟨origin, among, seenAs⟩ := exists_of_mem_right sees event member
  refine ⟨origin, among, ?_⟩
  cases seenAs with
  | call call given => exact .inl ⟨call, rfl, rfl⟩
  | other other => exact .inr ⟨rfl, other⟩

variable {tool : SignatureToolConduct}

/-- If bringing a machine up ends in a configuration error, the hypervisor was asked for states
only. Either the image of the machine is at fault, and nothing else was done and no file was
changed; or the key of its user is, and nothing else was done than to look at files and to make the
machine's disks, before any document was written or anything installed. -/
theorem config_errors_before_documents {start final : FileSystem}
    {events : List (Event FileSystem)} {fault : ConfigFault}
    (asking : ∀ {call before answer after}, call = .domains ∨ call = .status machine.vmName →
      tool ("-c" :: lab.uri :: arguments call) before answer after → after = before)
    (run : (through lab.uri (lab.up machine)).run.Runs (FileSystem.conduct tool) start events
      (.error (.config fault)) final) :
    (lab.imageFor machine = .error (.config fault) ∧ final = start ∧
      ∀ event ∈ events, event.request.QueriesState lab.uri machine.vmName ∧ event.after = start) ∨
    lab.Keyless machine fault ∧ ∀ event ∈ events,
      event.request.QueriesState lab.uri machine.vmName ∨ event.request.MakesDisks machine := by
  obtain ⟨asked, ran, sees⟩ := runs_through run
  obtain ⟨early, late, rfl, queries, stages⟩ := config_error_of_up ran
  have noCalls (origin : Event FileSystem) (among : origin ∈ late) (call : Call) :
      origin.request ≠ .hypervisor call := by
    intro isCall
    rcases stages with ⟨_, rfl⟩ | ⟨_, disks⟩
    · cases among
    · have makes := disks origin among
      rw [isCall] at makes
      exact makes
  have asksOrMakes (event : Event FileSystem) (member : event ∈ events) :
      event.request.QueriesState lab.uri machine.vmName ∨ event ∈ late := by
    obtain ⟨origin, among, ⟨call, isCall, asks⟩ | ⟨rfl, noCall⟩⟩ := requests_through sees member
    · rcases List.mem_append.mp among with inEarly | inLate
      · left
        rw [asks]
        rcases queries origin inEarly with isDomains | isStatus
        · cases isCall.symm.trans isDomains
          exact .inl rfl
        · cases isCall.symm.trans isStatus
          exact .inr rfl
      · exact absurd isCall (noCalls origin inLate call)
    · rcases List.mem_append.mp among with inEarly | inLate
      · rcases queries origin inEarly with isDomains | isStatus
        · exact absurd isDomains (noCall _)
        · exact absurd isStatus (noCall _)
      · exact .inr inLate
  rcases stages with ⟨unsettled, rfl⟩ | ⟨keyless, disks⟩
  · have states : ∀ event ∈ events, event.request.QueriesState lab.uri machine.vmName :=
      fun event member => (asksOrMakes event member).resolve_right List.not_mem_nil
    have kept := run.kept (· = start) (fun event member same => by
      have conducted := run.conducted event member
      obtain ⟨before, request, answer, after⟩ := event
      rcases states _ member with rfl | rfl
      · exact (asking (.inl rfl) conducted).trans same
      · exact (asking (.inr rfl) conducted).trans same) rfl
    exact .inl ⟨unsettled, kept.2, fun event member => ⟨states event member, kept.1 event member⟩⟩
  · exact .inr ⟨keyless, fun event member => (asksOrMakes event member).imp_right (disks event)⟩

/-! ### Two errors -/

def keyedMachine (value : String) : Machine :=
  { oneDiskMachine "web" with cloudInit := ⟨"lab", some value, none, [], []⟩ }

def craftsDisks : List String → FileSystem → Except ToolFailure ToolOutput × FileSystem
  | ["create", "-f", "qcow2", "-b", _, "-F", "qcow2", disk, _], files =>
    match files.write ⟨disk⟩ [] with
    | .ok written => (.ok {}, written)
    | .error cause => (.error (.notStarted VirtualDisk.creationTool cause), files)
  | arguments, files => clientOf [] [] arguments files

abbrev craftedConduct : Conduct FileSystem :=
  FileSystem.conduct fun arguments before answer after =>
    (answer, after) = craftsDisks arguments before

theorem runs_crafted {lab : Lab} {machine : Machine} {outcome : Except LabError UpOutcome}
    {final : FileSystem}
    (ended : (through lab.uri (lab.up machine)).run.run
      (FileSystem.respond craftsDisks fun url => .error url) imageWorld.files = (outcome, final)) :
    ∃ events, (through lab.uri (lab.up machine)).run.Runs craftedConduct imageWorld.files events
      outcome final := by
  let tool : SignatureToolConduct := fun arguments before answer after =>
    (answer, after) = craftsDisks arguments before
  have crafts : ∀ arguments files, tool arguments files (craftsDisks arguments files).1
      (craftsDisks arguments files).2 := fun _ _ => rfl
  obtain ⟨events, run⟩ := FileSystem.runs_respond crafts (fun url => .error url)
    (through lab.uri (lab.up machine)).run imageWorld.files
  rw [ended] at run
  exact ⟨events, run⟩

def diskMade : FileSystem where
  entries := [(["disks", "lab", "web", "disk0.qcow2"], .file []),
    (["disks", "lab", "web"], .directory), (["disks", "lab"], .directory)] ++
      imageWorld.files.entries

/-- A configuration error after a disk was made: the value is neither a key line nor a path. -/
theorem disk_made_before_key_error :
    oneImageLab.imageFor (keyedMachine "garbage") ≠
        .error (.config (.keyNeitherLineNorPath "garbage")) ∧
      imageWorld.files.pathExists ⟨"/disks/lab/web/disk0.qcow2"⟩ = false ∧
      diskMade.isFile ⟨"/disks/lab/web/disk0.qcow2"⟩ = true ∧
      ∃ events, (through oneImageLab.uri (oneImageLab.up (keyedMachine "garbage"))).run.Runs
        craftedConduct imageWorld.files events
        (.error (.config (.keyNeitherLineNorPath "garbage"))) diskMade := by
  refine ⟨by decide +kernel, by decide +kernel, by decide +kernel, ?_⟩
  exact runs_crafted (by decide +kernel)

theorem crafted_states_unchanged {call : Call} {before after : FileSystem}
    {answer : Except ToolFailure ToolOutput} {domain : String}
    (asks : call = .domains ∨ call = .status domain)
    (answered : (answer, after) =
      craftsDisks ("-c" :: oneImageLab.uri :: arguments call) before) : after = before := by
  rcases asks with rfl | rfl <;> exact congrArg Prod.snd answered

/-- A machine is refused for its key, and for its image in a lab that declares none. -/
theorem web_refused_for_key_or_image :
    (∃ events, (through oneImageLab.uri (oneImageLab.up (keyedMachine "garbage"))).run.Runs
        craftedConduct imageWorld.files events
        (.error (.config (.keyNeitherLineNorPath "garbage"))) diskMade ∧
      ∀ event ∈ events, event.request.QueriesState oneImageLab.uri "web" ∨
        event.request.MakesDisks (keyedMachine "garbage")) ∧
    ∃ events, (through oneImageLab.uri
        ({ oneImageLab with images := [] }.up (keyedMachine "garbage"))).run.Runs craftedConduct
        imageWorld.files events (.error (.config (.undeclaredImage "web" "fedora40")))
        imageWorld.files ∧
      ∀ event ∈ events, event.request.QueriesState oneImageLab.uri "web" := by
  constructor
  · have ended : (through oneImageLab.uri (oneImageLab.up (keyedMachine "garbage"))).run.run
        (FileSystem.respond craftsDisks fun url => .error url) imageWorld.files =
          (.error (.config (.keyNeitherLineNorPath "garbage")), diskMade) := by
      decide +kernel
    obtain ⟨events, run⟩ := runs_crafted ended
    refine ⟨events, run, ?_⟩
    rcases config_errors_before_documents crafted_states_unchanged run with
      ⟨unsettled, _⟩ | ⟨_, disks⟩
    · exact absurd unsettled (by decide +kernel)
    · exact disks
  · let lab : Lab := { oneImageLab with images := [] }
    have ended : (through lab.uri (lab.up (keyedMachine "garbage"))).run.run
        (FileSystem.respond craftsDisks fun url => .error url) imageWorld.files =
          (.error (.config (.undeclaredImage "web" "fedora40")), imageWorld.files) := by
      decide +kernel
    obtain ⟨events, run⟩ := runs_crafted ended
    refine ⟨events, run, ?_⟩
    rcases config_errors_before_documents crafted_states_unchanged run with
      ⟨_, _, asked⟩ | ⟨⟨value, _, _, isFault⟩, _⟩
    · exact fun event member => (asked event member).1
    · cases isFault

end Lab

end VirtualLab
