import VirtualLab.Lifecycle
import VirtualLab.Proofs.Places
import VirtualLab.Proofs.Runs
import VirtualLab.Proofs.Settling

/-!
# The files of a machine

Which files are a machine's own, and that the operations on a machine deal with no others. Machines
share no files if their directories are different places; that their names differ as texts is
enough where the names are single names.
-/

namespace VirtualLab

namespace Machine

open BootConfig

/-- The files that are made and removed for a machine: a disk for each position, and the files it
boots from. -/
inductive Owns (machine : Machine) : Path → Prop
  | disk (index : Nat) : Owns machine (VirtualDisk.pathAt machine.workDirectory index)
  | boot {path : Path}
      (member : path ∈ (Bundle.inDirectory machine.workDirectory).paths) : Owns machine path

theorem isName_disk (index : Nat) : Path.IsName ("disk" ++ toString index ++ ".qcow2") := by
  have digits : '/' ∉ (toString index).toList := by
    intro member
    have digit := Nat.isDigit_of_mem_toDigits (by decide) (by decide)
      (show '/' ∈ Nat.toDigits 10 index by simpa using member)
    exact absurd digit (by decide)
  have begins : ∀ other : String, other.toList.head? ≠ some 'd' →
      "disk" ++ toString index ++ ".qcow2" ≠ other := by
    intro other differs equal
    rw [← equal] at differs
    simp [String.toList_append] at differs
  refine ⟨begins _ (by decide), begins _ (by decide), begins _ (by decide), ?_⟩
  simp only [String.toList_append, List.mem_append, not_or]
  exact ⟨⟨by decide, digits⟩, by decide⟩

theorem pathAt_not_mem_paths (directory : Path) (index : Nat) :
    VirtualDisk.pathAt directory index ∉ (Bundle.inDirectory directory).paths := by
  have apart : ∀ other, Path.IsName other → other.toList.head? ≠ some 'd' →
      VirtualDisk.pathAt directory index ≠ directory.join other := by
    intro other isName begins equal
    obtain rfl := Path.join_inj_of_isName (isName_disk index) isName equal
    simp [String.toList_append] at begins
  simp only [Bundle.paths, Bundle.inDirectory, List.mem_cons, List.not_mem_nil, or_false, not_or]
  refine ⟨apart _ ?_ (by decide), apart _ ?_ (by decide), apart _ ?_ (by decide),
    apart _ ?_ (by decide)⟩
  all_goals
    unfold Path.IsName
    decide

theorem Owns.eq_join {machine : Machine} {path : Path} (owns : machine.Owns path) :
    ∃ file, Path.IsName file ∧ path = machine.workDirectory.join file := by
  cases owns with
  | disk index => exact ⟨_, isName_disk index, rfl⟩
  | boot member =>
      simp only [Bundle.paths, Bundle.inDirectory, List.mem_cons, List.not_mem_nil, or_false]
        at member
      rcases member with rfl | rfl | rfl | rfl
      all_goals
        refine ⟨_, ?_, rfl⟩
        unfold Path.IsName
        decide

theorem Owns.place {machine : Machine} {path : Path} (owns : machine.Owns path)
    (working : Location) :
    ∃ file, path.place working = machine.workDirectory.place working ++ [file] := by
  obtain ⟨file, isName, rfl⟩ := owns.eq_join
  exact ⟨file, Path.place_join_of_isName working _ isName⟩

end Machine

theorem eq_of_toString_eq {first second : Nat} (equal : toString first = toString second) :
    first = second := by
  have digits := congrArg String.toList equal
  rw [Nat.toString_eq_repr, Nat.toString_eq_repr, Nat.toList_repr, Nat.toList_repr] at digits
  rw [← Nat.ofDigitChars_ten_toDigits (n := first), digits, Nat.ofDigitChars_ten_toDigits]

namespace VirtualDisk

theorem pathAt_injective {directory : Path} {first second : Nat}
    (equal : pathAt directory first = pathAt directory second) : first = second := by
  have names :=
    Path.join_inj_of_isName (Machine.isName_disk first) (Machine.isName_disk second) equal
  rw [String.append_left_inj, String.append_right_inj] at names
  exact eq_of_toString_eq names

theorem eq_of_path {machine : Machine} {first second : VirtualDisk}
    (member : first ∈ ofMachine machine) (otherMember : second ∈ ofMachine machine)
    (equal : first.path = second.path) : first = second := by
  obtain ⟨i, _, rfl⟩ := List.mem_mapIdx.mp member
  obtain ⟨j, _, rfl⟩ := List.mem_mapIdx.mp otherMember
  obtain rfl := pathAt_injective equal
  rfl

end VirtualDisk

namespace Machine

open BootConfig

/-! ## Machines and their places -/

def SharesNoFile (working : Location) (first second : Machine) : Prop :=
  ∀ path other, first.Owns path → second.Owns other → path.place working ≠ other.place working

def StaysBelow (working : Location) (root : Location) (machine : Machine) : Prop :=
  ∀ path, machine.Owns path → root <+: path.place working ∧ path.place working ≠ root

theorem sharesNoFile_iff {working : Location} {first second : Machine} :
    SharesNoFile working first second ↔
      first.workDirectory.place working ≠ second.workDirectory.place working := by
  constructor
  · intro shares equal
    refine shares _ _ (.disk 0) (.disk 0) ?_
    rw [VirtualDisk.pathAt, VirtualDisk.pathAt, Path.place_join_of_isName working _ (isName_disk 0),
      Path.place_join_of_isName working _ (isName_disk 0), equal]
  · intro differ path other owns otherOwns equal
    obtain ⟨file, place⟩ := owns.place working
    obtain ⟨otherFile, otherPlace⟩ := otherOwns.place working
    rw [place, otherPlace] at equal
    exact differ (List.append_inj_left' equal rfl)

theorem staysBelow_iff {working root : Location} {machine : Machine} :
    StaysBelow working root machine ↔ root <+: machine.workDirectory.place working := by
  constructor
  · intro stays
    obtain ⟨within, differs⟩ := stays _ (.disk 0)
    rw [VirtualDisk.pathAt, Path.place_join_of_isName working _ (isName_disk 0)] at within differs
    rcases List.prefix_concat_iff.mp within with equal | within
    · exact absurd equal.symm differs
    · exact within
  · intro within path owns
    obtain ⟨file, place⟩ := owns.place working
    rw [place]
    refine ⟨within.trans (List.prefix_append _ _), fun equal => ?_⟩
    have shorter := within.length_le
    have longer := congrArg List.length equal
    simp only [List.length_append, List.length_singleton] at longer
    omega

/-! ## Machines of one environment -/

theorem resolve_eq_ok {environment : Environment} {declaration : MachineDeclaration}
    {machine : Machine} (resolved : resolve environment declaration = .ok machine) :
    declaration.vmName = some machine.vmName ∧
      machine.workDirectory = environment.workDirectory machine.vmName := by
  obtain ⟨vmName, declared, _, rfl⟩ := resolve_eq_ok_iff.mp resolved
  exact ⟨declared, rfl⟩

end Machine

namespace Environment

def machinesPlace (working : Location) (environment : Environment) : Location :=
  Path.walk (environment.diskImageDirectory.place working) (Path.names ⟨environment.name⟩)

theorem nodup_of_firstRepeated {seen names : List String}
    (unique : firstRepeated seen names = none) :
    names.Nodup ∧ ∀ name ∈ names, name ∉ seen := by
  induction names generalizing seen with
  | nil => simp
  | cons name rest induction =>
      rw [firstRepeated] at unique
      split at unique
      · cases unique
      · rename_i new
        obtain ⟨nodup, others⟩ := induction unique
        have notInRest : name ∉ rest := fun member => others name member List.mem_cons_self
        refine ⟨List.nodup_cons.mpr ⟨notInRest, nodup⟩, ?_⟩
        rintro other (_ | ⟨_, member⟩)
        · exact new
        · exact fun inSeen => others other member (List.mem_cons_of_mem _ inSeen)

theorem nodup_of_accepted {manifest : Manifest} {home : Option Path} {environment : Environment}
    (accepted : manifest.environment home = .ok environment) :
    (manifest.machines.filterMap (·.vmName)).Nodup := by
  unfold Manifest.environment Manifest.environmentDeclaration at accepted
  unfold Manifest.machines
  cases first : manifest.environments.head? with
  | none => simp
  | some declaration =>
      simp only [first, bind, Except.bind, ofDeclaration] at accepted
      split at accepted
      · cases accepted
      · split at accepted
        · cases accepted
        · rename_i unique
          exact (nodup_of_firstRepeated unique).1

theorem vmName_ne {manifest : Manifest} {home : Option Path} {environment : Environment}
    (accepted : manifest.environment home = .ok environment) {i j : Nat} (different : i ≠ j)
    {first second : MachineDeclaration} (firstAt : manifest.machines[i]? = some first)
    (secondAt : manifest.machines[j]? = some second) {name other : String}
    (named : first.vmName = some name) (otherNamed : second.vmName = some other) :
    name ≠ other := by
  have distinct := List.pairwise_filterMap.mp (nodup_of_accepted accepted)
  obtain ⟨inFirst, rfl⟩ := List.getElem?_eq_some_iff.mp firstAt
  obtain ⟨inSecond, rfl⟩ := List.getElem?_eq_some_iff.mp secondAt
  have ordered := List.pairwise_iff_getElem.mp distinct
  rcases Nat.lt_or_gt_of_ne different with before | after
  · exact ordered i j inFirst inSecond before name named other otherNamed
  · exact (ordered j i inSecond inFirst after other otherNamed name named).symm

/-- Where a machine's directory is, if its name and that of its environment are single names. -/
theorem place_workDirectory {environment : Environment} {machine : String} (working : Location)
    (environmentName : Path.IsName environment.name) (machineName : Path.IsName machine) :
    (environment.workDirectory machine).place working =
      environment.machinesPlace working ++ [machine] := by
  rw [workDirectory, Path.place_join_of_isName working _ machineName,
    Path.place_join_of_isName working _ environmentName, machinesPlace,
    Path.names_of_isName environmentName]
  simp [Path.walk, Path.step, environmentName.2.2.1]

end Environment

/-! ## What the operations on a machine ask

An operation looks at files, makes files of the machine or removes them, calls the hypervisor, and
installs the domain. What it asks in a phase is one kind of request.
-/

open BootConfig

/-- The request changes nothing but files that are made for the machine: it reads, calls the
hypervisor, writes a file of the machine or runs a tool that does. -/
def Request.Makes (machine : Machine) : Request → Prop
  | .writeFile path _ => machine.Owns path
  | .createDirectories path => ∃ file, machine.Owns file ∧ file.parent = some path
  | .runTool tool arguments =>
      (tool = VirtualDisk.creationTool ∧ ∃ disk backing, machine.Owns disk.path ∧
        arguments = VirtualDisk.creationArguments disk backing) ∨
      (tool = Bundle.packingTool ∧
        arguments = (Bundle.inDirectory machine.workDirectory).packingArguments)
  | .appendFile _ _ => False
  | .renameFile _ _ => False
  | .removeFile _ => False
  | .removeDirectory _ => False
  | _ => True

def Request.Looks : Request → Prop
  | .pathExists _ => True
  | .isFile _ => True
  | .readFile _ => True
  | _ => False

/-- The request makes a file that the machine boots from, or the directory for one. -/
def Request.Stages (machine : Machine) : Request → Prop
  | .writeFile path _ => path ∈ (Bundle.inDirectory machine.workDirectory).paths
  | .createDirectories path =>
      ∃ file ∈ (Bundle.inDirectory machine.workDirectory).paths, file.parent = some path
  | .runTool tool arguments =>
      tool = Bundle.packingTool ∧
        arguments = (Bundle.inDirectory machine.workDirectory).packingArguments
  | _ => False

/-- The request removes a file of the machine or its directory, or looks for a path. -/
def Request.Removes (machine : Machine) : Request → Prop
  | .pathExists _ => True
  | .removeFile path => machine.Owns path
  | .removeDirectory path => path = machine.workDirectory
  | _ => False

def Request.Installs (machine : Machine) (request : Request) : Prop :=
  ∃ install : InstallRequest, install.name = machine.vmName ∧
    request = .runTool InstallRequest.installationTool install.arguments

/-- The request deals with the machine only: with its files, its directory or its domain. -/
def Request.Concerns (machine : Machine) (request : Request) : Prop :=
  request.Makes machine ∨ request.Removes machine ∨ request.Installs machine

theorem Request.Looks.makes {machine : Machine} {request : Request} (looks : request.Looks) :
    request.Makes machine := by
  cases request <;> trivial

theorem Request.Stages.makes {machine : Machine} {request : Request}
    (stages : request.Stages machine) : request.Makes machine := by
  cases request with
  | writeFile path content => exact .boot stages
  | createDirectories path =>
      obtain ⟨file, member, above⟩ := stages
      exact ⟨file, .boot member, above⟩
  | runTool tool arguments => exact .inr stages
  | _ => exact stages.elim

abbrev Attempt.Makes {ε α : Type} (machine : Machine) (attempt : Attempt ε α) : Prop :=
  attempt.Confined (Request.Makes machine) fun _ => True

abbrev Attempt.Concerns {ε α : Type} (machine : Machine) (attempt : Attempt ε α) : Prop :=
  attempt.Confined (Request.Concerns machine) fun _ => True

theorem Attempt.Confined.looking {ε α : Type} {machine : Machine} {attempt : Attempt ε α}
    (looks : attempt.Confined Request.Looks fun _ => True) : attempt.Makes machine :=
  looks.mono fun _ => Request.Looks.makes

theorem Attempt.Confined.staging {ε α : Type} {machine : Machine} {attempt : Attempt ε α}
    (stages : attempt.Confined (Request.Stages machine) fun _ => True) : attempt.Makes machine :=
  stages.mono fun _ => Request.Stages.makes

theorem Attempt.Confined.concerns {ε α : Type} {machine : Machine} {attempt : Attempt ε α}
    (makes : attempt.Makes machine) : attempt.Concerns machine :=
  makes.mono fun _ => .inl

namespace Lab

variable {machine : Machine}

private theorem ask_makes {ε : Type} {request : Request} (makes : request.Makes machine) :
    (Attempt.ask request : Attempt ε request.Answer).Makes machine :=
  Attempt.confined_ask makes

private theorem orFail_makes {ε φ α : Type} (wrap : φ → ε) (result : Except φ α) :
    (Attempt.orFail wrap result).Makes machine :=
  Attempt.confined_orFail fun _ => trivial

private theorem throw_makes {ε α : Type} (failure : ε) :
    (throw failure : Attempt ε α).Makes machine :=
  Attempt.confined_throw trivial

theorem perform_confined {allowed : Request → Prop} {call : Hypervisor.Call}
    (asks : allowed (.hypervisor call)) :
    (Hypervisor.perform call).Confined allowed fun _ => True :=
  Attempt.confined_bind (Attempt.confined_ask asks) fun _ =>
    Attempt.confined_orFail fun _ => trivial

theorem perform_makes (call : Hypervisor.Call) :
    (Hypervisor.perform call).Makes machine :=
  perform_confined trivial

theorem runs_perform_iff {σ : Type} {conduct : Conduct σ} {call : Hypervisor.Call}
    {start final : σ} {events : List (Event σ)} {outcome : Except LabError call.Value} :
    (Hypervisor.perform call).run.Runs conduct start events outcome final ↔
      conduct (.hypervisor call) start outcome final ∧
        events = [⟨start, .hypervisor call, outcome, final⟩] := by
  have same : ∀ answer : Except LabError call.Value, answer.mapError id = answer := by
    intro answer
    cases answer <;> rfl
  constructor
  · intro run
    obtain ⟨answer, middle, rest, answered, ended, rfl⟩ := Attempt.runs_ask_bind.mp run
    obtain ⟨rfl, rfl, rfl⟩ := Attempt.runs_orFail.mp ended
    rw [same]
    exact ⟨answered, rfl⟩
  · rintro ⟨answered, rfl⟩
    apply Attempt.runs_ask_bind.mpr
    refine ⟨outcome, final, [], answered, Attempt.runs_orFail.mpr ⟨rfl, ?_, rfl⟩, rfl⟩
    exact (same outcome).symm

theorem lookup_confined {allowed : Request → Prop} {domain : String}
    (lists : allowed (.hypervisor .domains)) (reads : allowed (.hypervisor (.status domain))) :
    (Hypervisor.lookup domain).Confined allowed fun _ => True := by
  refine Attempt.confined_bind (perform_confined lists) fun domains => ?_
  split
  · exact Attempt.confined_bind (perform_confined reads) fun _ => Attempt.confined_pure _
  · exact Attempt.confined_pure _

theorem lookup_makes (domain : String) : (Hypervisor.lookup domain).Makes machine :=
  lookup_confined trivial trivial

theorem require_confined {allowed : Request → Prop} {domain : String}
    (lists : allowed (.hypervisor .domains)) (reads : allowed (.hypervisor (.status domain))) :
    (require domain).Confined allowed fun _ => True := by
  refine Attempt.confined_bind (lookup_confined lists reads) fun found => ?_
  cases found with
  | none => exact Attempt.confined_throw trivial
  | some status => exact Attempt.confined_pure _

theorem require_makes (domain : String) : (require domain).Makes machine :=
  require_confined trivial trivial

theorem requireTrusted_confined {allowed : Request → Prop} {possible : LabError → Prop}
    (image : CloudImage) (finds : ∀ path, allowed (.isFile path))
    (fails : ∀ fault, possible (.image image.name fault)) :
    image.requireTrusted.Confined allowed possible := by
  have trusted : image.isTrusted.Confined allowed fun _ => True := by
    refine ⟨finds _, fun present => ?_⟩
    cases present with
    | false => trivial
    | true =>
        change (if image.checksumUrl.isNone then (pure true : Script Bool)
          else Script.request (.isFile image.markerPath)).Confined _ _
        split
        · trivial
        · exact ⟨finds _, fun _ => trivial⟩
  refine Attempt.confined_bind (Attempt.confined_ask (finds _)) fun present => ?_
  have rest : Attempt.Confined allowed possible
      (ExceptT.lift image.isTrusted >>= fun isTrusted =>
        if !isTrusted then throw (LabError.image image.name .unverified)
        else (pure image.imagePath : LabTask Path)) := by
    refine Attempt.confined_bind (Attempt.confined_lift trusted) fun isTrusted => ?_
    cases isTrusted with
    | false => exact Attempt.confined_throw (fails _)
    | true => exact Attempt.confined_pure _
  cases present with
  | false => exact Attempt.confined_throw (fails _)
  | true => exact rest

theorem requireTrusted_looks (image : CloudImage) :
    image.requireTrusted.Confined Request.Looks fun _ => True :=
  requireTrusted_confined image (fun _ => trivial) fun _ => trivial

inductive KeyFault (home : Option Path) (value : String) : ConfigFault → Prop
  | neither : KeyFault home value (.keyNeitherLineNorPath (Text.trim value))
  | unreadable (cause : FileError) :
      KeyFault home value (.keyUnreadable (Path.expandHome home (Text.trim value)) cause)
  | noKey : KeyFault home value (.keyFileWithoutKey (Path.expandHome home (Text.trim value)))

/-- A key is found by looking at files. It is not found only if the value is no key line, and then
for a fault of the value. -/
theorem resolveKey_confined {possible : LabError → Prop} (home : Option Path) (value : String)
    (fails : PublicKey.isKeyLine (Text.trim value) = false →
      ∀ fault, KeyFault home value fault → possible (.config fault)) :
    (PublicKey.resolve home value).Confined Request.Looks possible := by
  have reads : ∀ path, (Script.readText path).Confined Request.Looks fun _ => True :=
    fun path => ⟨trivial, fun _ => trivial⟩
  unfold PublicKey.resolve
  dsimp only
  split
  · exact Attempt.confined_pure _
  · rename_i noLine
    have failsWith := fails (Bool.eq_false_iff.mpr noLine)
    split
    · exact Attempt.confined_throw (failsWith _ .neither)
    · refine Attempt.confined_bind (Attempt.confined_lift (reads _)) fun content => ?_
      refine Attempt.confined_bind
        (Attempt.confined_orFail fun cause => failsWith _ (.unreadable cause)) fun text => ?_
      split
      · exact Attempt.confined_pure _
      · exact Attempt.confined_throw (failsWith _ .noKey)

/-- Documents are written by looking at files. They are not written only if there is a key that is
not found, or no such schema for the network. -/
theorem render_confined {possible : LabError → Prop} (home : Option Path) (machine : Machine)
    (version : Nat) (commands : List String)
    (keyless : ∀ value, machine.cloudInit.pubkey = some value →
      PublicKey.isKeyLine (Text.trim value) = false →
        ∀ fault, KeyFault home value fault → possible (.config fault))
    (schemaless : ∀ failure, networkConfig machine version = .error failure → possible failure) :
    (Documents.render home machine version commands).Confined Request.Looks possible := by
  have keys : (authorizedKeys home machine).Confined Request.Looks possible := by
    unfold authorizedKeys
    split
    · exact Attempt.confined_pure []
    · rename_i value given
      exact Attempt.confined_bind (resolveKey_confined home value (keyless value given))
        fun _ => Attempt.confined_pure _
  refine Attempt.confined_bind ?_ fun written => ?_
  · exact Attempt.confined_bind keys fun found => Attempt.confined_pure _
  · cases network : networkConfig machine version with
    | error failure => exact Attempt.confined_throw (schemaless failure network)
    | ok network => exact Attempt.confined_pure _

theorem render_looks (home : Option Path) (machine : Machine) (version : Nat)
    (commands : List String) :
    (Documents.render home machine version commands).Confined Request.Looks fun _ => True :=
  render_confined home machine version commands (fun _ _ _ _ _ => trivial) fun _ _ => trivial

/-! ### Making the files -/

theorem owns_of_mem_ofMachine {disk : VirtualDisk} (member : disk ∈ VirtualDisk.ofMachine machine) :
    machine.Owns disk.path := by
  obtain ⟨index, _, rfl⟩ := List.mem_mapIdx.mp member
  exact .disk index

theorem create_confined {allowed : Request → Prop} {disk : VirtualDisk} {backing : Option Path}
    (looks : allowed (.pathExists disk.path))
    (above : ∀ directory, disk.path.parent = some directory →
      allowed (.createDirectories directory))
    (creates : allowed (.runTool VirtualDisk.creationTool (disk.creationArguments backing))) :
    (disk.create backing).Confined allowed fun _ => True := by
  have creating : Attempt.Confined allowed (fun _ => True) (Attempt.ask (ε := DiskFailure)
      (.runTool VirtualDisk.creationTool (disk.creationArguments backing)) >>= fun answer =>
        Attempt.orFail (.tool disk.path) answer >>= fun _ => pure ()) :=
    Attempt.confined_bind (Attempt.confined_ask creates) fun _ =>
      Attempt.confined_bind (Attempt.confined_orFail fun _ => trivial) fun _ =>
        Attempt.confined_pure _
  refine Attempt.confined_bind (Attempt.confined_ask looks) fun present => ?_
  split
  · exact Attempt.confined_pure _
  · dsimp only
    split
    · rename_i directory isAbove
      refine Attempt.confined_bind (Attempt.confined_ask (above directory isAbove)) fun _ => ?_
      exact Attempt.confined_bind (Attempt.confined_orFail fun _ => trivial) fun _ => creating
    · exact creating

theorem createAll_confined {allowed : Request → Prop} {backing : VirtualDisk → Option Path}
    {disks : List VirtualDisk}
    (each : ∀ disk ∈ disks, (disk.create (backing disk)).Confined allowed fun _ => True) :
    (VirtualDisk.createAll backing disks).Confined allowed fun _ => True := by
  induction disks with
  | nil => trivial
  | cons disk rest induction =>
      obtain ⟨first, others⟩ := List.forall_mem_cons.mp each
      refine Script.Confined.bind first.run fun created _ => ?_
      refine Script.Confined.bind (induction others) fun failures _ => ?_
      cases created <;> trivial

theorem createDisks_confined {allowed : Request → Prop} {possible : LabError → Prop}
    {image : Path} (each : ∀ disk ∈ VirtualDisk.ofMachine machine,
      (disk.create (backingFor image disk)).Confined allowed fun _ => True)
    (fails : ∀ total failures, possible (.disksFailed machine.vmName total failures)) :
    (createDisks machine image).Confined allowed possible := by
  refine Attempt.confined_bind (Attempt.confined_lift (createAll_confined each)) fun failures => ?_
  split
  · exact Attempt.confined_throw (fails _ _)
  · exact Attempt.confined_pure _

theorem create_makes {disk : VirtualDisk} (owns : machine.Owns disk.path)
    (backing : Option Path) : (disk.create backing).Makes machine :=
  create_confined trivial (fun _ above => ⟨disk.path, owns, above⟩)
    (.inl ⟨rfl, disk, backing, owns, rfl⟩)

def withFailure (created : Except DiskFailure Unit) (failures : List DiskFailure) :
    List DiskFailure :=
  match created with
  | .ok () => failures
  | .error failure => failure :: failures

theorem runs_createAll_cons {σ : Type} {conduct : Conduct σ} {backing : VirtualDisk → Option Path}
    {disk : VirtualDisk} {rest : List VirtualDisk} {start final : σ} {events : List (Event σ)}
    {failures : List DiskFailure} :
    (VirtualDisk.createAll backing (disk :: rest)).Runs conduct start events failures final ↔
      ∃ created early middle late left,
        (disk.create (backing disk)).run.Runs conduct start early created middle ∧
        (VirtualDisk.createAll backing rest).Runs conduct middle late left final ∧
        events = early ++ late ∧ failures = withFailure created left := by
  rw [VirtualDisk.createAll, Script.runs_bind]
  constructor
  · rintro ⟨created, early, middle, late, creates, following, rfl⟩
    obtain ⟨left, later, last, none, createsRest, ended, rfl⟩ := Script.runs_bind.mp following
    have done : none = [] ∧ failures = withFailure created left ∧ final = last := by
      cases created <;> exact Script.runs_pure.mp ended
    obtain ⟨rfl, rfl, rfl⟩ := done
    exact ⟨created, early, middle, later, left, creates, createsRest, by simp, rfl⟩
  · rintro ⟨created, early, middle, late, left, creates, createsRest, rfl, rfl⟩
    refine ⟨created, early, middle, late, creates, ?_, rfl⟩
    refine Script.runs_bind.mpr ⟨left, late, final, [], createsRest, ?_, by simp⟩
    cases created <;> exact Script.runs_pure.mpr ⟨rfl, rfl, rfl⟩

theorem createDisks_makes (image : Path) : (createDisks machine image).Makes machine :=
  createDisks_confined (fun disk member =>
    create_makes (owns_of_mem_ofMachine member) (backingFor image disk)) fun _ _ => trivial

theorem stageDocument_confined {possible : LabError → Prop} {path : Path}
    (member : path ∈ (Bundle.inDirectory machine.workDirectory).paths) (content : String)
    (fails : ∀ path cause, possible (.staging path cause)) :
    (Bundle.stageDocument path content).Confined (Request.Stages machine) possible := by
  have writing : Attempt.Confined (Request.Stages machine) possible
      (Attempt.ask (ε := LabError) (.writeFile path (Bytes.ofText content)) >>=
        Attempt.orFail (.staging path)) :=
    Attempt.confined_bind (Attempt.confined_ask member) fun _ =>
      Attempt.confined_orFail fun cause => fails path cause
  unfold Bundle.stageDocument
  split
  · rename_i directory above
    refine Attempt.confined_bind (Attempt.confined_ask ⟨path, member, above⟩) fun _ => ?_
    exact Attempt.confined_bind (Attempt.confined_orFail fun cause => fails directory cause)
      fun _ => writing
  · exact writing

theorem stageDocument_stages {path : Path}
    (member : path ∈ (Bundle.inDirectory machine.workDirectory).paths) (content : String) :
    (Bundle.stageDocument path content).Confined (Request.Stages machine) fun _ => True :=
  stageDocument_confined member content fun _ _ => trivial

theorem stage_confined {possible : LabError → Prop} (documents : Documents)
    (fails : ∀ path cause, possible (.staging path cause)) :
    ((Bundle.inDirectory machine.workDirectory).stage documents).Confined (Request.Stages machine)
      possible := by
  refine Attempt.confined_bind
    (stageDocument_confined (by simp [Bundle.paths]) _ fails) fun _ => ?_
  refine Attempt.confined_bind
    (stageDocument_confined (by simp [Bundle.paths]) _ fails) fun _ => ?_
  exact stageDocument_confined (by simp [Bundle.paths]) _ fails

theorem stage_stages (documents : Documents) :
    ((Bundle.inDirectory machine.workDirectory).stage documents).Confined (Request.Stages machine)
      fun _ => True :=
  stage_confined documents fun _ _ => trivial

theorem package_stages : (Bundle.inDirectory machine.workDirectory).package.Confined
    (Request.Stages machine) fun _ => True :=
  Attempt.confined_bind (Attempt.confined_ask ⟨rfl, rfl⟩) fun _ =>
    Attempt.confined_bind (Attempt.confined_orFail fun _ => trivial) fun _ =>
      Attempt.confined_pure _

def prepare (lab : Lab) (machine : Machine) : LabTask CloudImage := do
  let image ← Attempt.orFail id (lab.imageFor machine)
  let backing ← image.requireTrusted
  createDisks machine backing
  let bundle := Bundle.inDirectory machine.workDirectory
  let documents ← Documents.render lab.home machine image.networkVersion lab.hostsCommands
  bundle.stage documents
  Attempt.mapError .tool bundle.package
  return image

def installation (lab : Lab) (machine : Machine) (image : CloudImage) : InstallRequest :=
  InstallRequest.ofMachine lab.uri machine ((VirtualDisk.ofMachine machine).map (·.path))
    (Bundle.inDirectory machine.workDirectory).medium image.osVariant lab.environment.mounts

theorem deploy_eq_prepare (lab : Lab) (machine : Machine) :
    lab.deploy machine = lab.prepare machine >>= fun image =>
      Attempt.mapError .tool (lab.installation machine image).install := by
  simp only [deploy, prepare, installation, bind_assoc, pure_bind]

theorem prepare_makes (lab : Lab) (machine : Machine) : (lab.prepare machine).Makes machine := by
  refine Attempt.confined_bind (orFail_makes _ _) fun image => ?_
  refine Attempt.confined_bind (requireTrusted_looks image).looking fun backing => ?_
  refine Attempt.confined_bind (createDisks_makes backing) fun _ => ?_
  refine Attempt.confined_bind (render_looks _ _ _ _).looking fun documents => ?_
  refine Attempt.confined_bind (stage_stages documents).staging fun _ => ?_
  have packing : Attempt.Makes machine
      (Attempt.mapError LabError.tool (Bundle.inDirectory machine.workDirectory).package) :=
    Attempt.confined_mapError package_stages.staging fun _ => trivial
  exact Attempt.confined_bind packing fun _ => Attempt.confined_pure _

/-! ### Installing and powering on -/

theorem install_installs {request : InstallRequest} (own : request.name = machine.vmName) :
    request.install.Confined (Request.Installs machine) fun _ => True :=
  Attempt.confined_bind (Attempt.confined_ask ⟨request, own, rfl⟩) fun _ =>
    Attempt.confined_bind (Attempt.confined_orFail fun _ => trivial) fun _ =>
      Attempt.confined_pure _

theorem installation_installs (lab : Lab) (image : CloudImage) :
    (Attempt.mapError LabError.tool (lab.installation machine image).install).Confined
      (Request.Installs machine) fun _ => True :=
  Attempt.confined_mapError (install_installs rfl) fun _ => trivial

theorem deploy_concerns (lab : Lab) (machine : Machine) :
    (lab.deploy machine).Concerns machine := by
  rw [deploy_eq_prepare]
  refine Attempt.confined_bind (prepare_makes lab machine).concerns fun image => ?_
  exact (installation_installs lab image).mono fun _ installs => .inr (.inr installs)

def powerOn (machine : Machine) (status : DomainStatus) : LabTask UpOutcome := do
  match status.state with
  | .running => return .alreadyRunning
  | .shutOff | .crashed =>
    Hypervisor.perform (.start machine.vmName)
    return .started (← require machine.vmName)
  | _ => return .transitional status

theorem up_eq_powerOn (lab : Lab) (machine : Machine) :
    lab.up machine = Hypervisor.lookup machine.vmName >>= fun
      | none => lab.deploy machine >>= fun _ => pure .deployed
      | some status => powerOn machine status :=
  rfl

def startUp (machine : Machine) : LabTask UpOutcome := do
  Hypervisor.perform (.start machine.vmName)
  return .started (← require machine.vmName)

theorem powerOn_eq (machine : Machine) (status : DomainStatus) :
    powerOn machine status = startUp machine ∨
      ∃ outcome, outcome ≠ .deployed ∧ powerOn machine status = pure outcome := by
  unfold powerOn
  split
  · exact .inr ⟨.alreadyRunning, nofun, rfl⟩
  · exact .inl rfl
  · exact .inl rfl
  · exact .inr ⟨.transitional status, nofun, rfl⟩

theorem powerOn_confined {allowed : Request → Prop} {status : DomainStatus}
    (asks : ∀ call, allowed (.hypervisor call)) :
    (powerOn machine status).Confined allowed fun _ => True := by
  rcases powerOn_eq machine status with starts | ⟨outcome, _, stays⟩
  · rw [starts]
    exact Attempt.confined_bind (perform_confined (asks _)) fun _ =>
      Attempt.confined_bind (require_confined (asks _) (asks _)) fun _ => Attempt.confined_pure _
  · rw [stays]
    exact Attempt.confined_pure _

theorem not_deployed_of_powerOn {σ : Type} {conduct : Conduct σ} {status : DomainStatus}
    {start final : σ} {events : List (Event σ)} :
    ¬ (powerOn machine status).run.Runs conduct start events (.ok .deployed) final := by
  intro run
  rcases powerOn_eq machine status with starts | ⟨outcome, notDeployed, stays⟩
  · rw [starts] at run
    obtain ⟨_, _, _, _, _, rest, _⟩ := Attempt.runs_bind_ok.mp run
    obtain ⟨result, _, impossible⟩ := Attempt.runs_bind_pure.mp rest
    cases result <;> cases impossible
  · rw [stays] at run
    obtain ⟨_, equal, _⟩ := Attempt.runs_pure.mp run
    exact notDeployed (Except.ok.inj equal).symm

theorem powerOn_makes (status : DomainStatus) : (powerOn machine status).Makes machine :=
  powerOn_confined fun _ => trivial

theorem up_concerns (lab : Lab) (machine : Machine) : (lab.up machine).Concerns machine := by
  rw [up_eq_powerOn]
  refine Attempt.confined_bind (lookup_makes _).concerns fun found => ?_
  cases found with
  | none =>
      exact Attempt.confined_bind (deploy_concerns lab machine) fun _ => Attempt.confined_pure _
  | some status => exact (powerOn_makes status).concerns

/-! ### Removing -/

theorem deleteDisks_removes {disks : List VirtualDisk}
    (own : ∀ disk ∈ disks, machine.Owns disk.path) :
    (VirtualDisk.deleteAll disks).Confined (Request.Removes machine) fun _ => True := by
  induction disks with
  | nil => trivial
  | cons disk rest induction =>
      obtain ⟨owns, others⟩ := List.forall_mem_cons.mp own
      have deletes : disk.delete.Confined (Request.Removes machine) fun _ => True := by
        refine ⟨trivial, fun present => ?_⟩
        cases present
        · trivial
        · exact ⟨owns, fun _ => trivial⟩
      exact deletes.bind fun _ _ => induction others

theorem deletePaths_removes {paths : List Path} (own : ∀ path ∈ paths, machine.Owns path) :
    (Bundle.deleteAll paths).Confined (Request.Removes machine) fun _ => True := by
  induction paths with
  | nil => trivial
  | cons path rest induction =>
      obtain ⟨owns, others⟩ := List.forall_mem_cons.mp own
      refine ⟨trivial, fun present => ?_⟩
      cases present
      · exact induction others
      · exact ⟨owns, fun _ => induction others⟩

theorem removeFiles_removes :
    (removeFiles machine).Confined (Request.Removes machine) fun _ => True := by
  refine Script.Confined.bind (deleteDisks_removes fun disk member =>
    owns_of_mem_ofMachine member) fun _ _ => ?_
  refine Script.Confined.bind (deletePaths_removes fun path member => .boot member) fun _ _ => ?_
  exact ⟨rfl, fun answer => by cases answer <;> trivial⟩

theorem forceOff_makes (domain : String) : (forceOff domain).Makes machine := by
  refine Attempt.confined_bind (perform_makes _) fun _ => ?_
  refine Attempt.confined_bind (require_makes _) fun status => ?_
  split
  · exact throw_makes _
  · exact Attempt.confined_pure _

theorem deleteSnapshots_makes (domain : String) (snapshots : List String) :
    (deleteSnapshots domain snapshots).Makes machine := by
  induction snapshots with
  | nil => exact Attempt.confined_pure _
  | cons snapshot rest induction =>
      refine Attempt.confined_bind (Attempt.confined_outcome (perform_makes _)) fun deleted => ?_
      refine Attempt.confined_bind induction fun left => ?_
      cases deleted <;> exact Attempt.confined_pure _

def removeDomain (machine : Machine) : LabTask DestroyOutcome := do
  let snapshots ← Hypervisor.perform (.snapshots machine.vmName)
  let left ← deleteSnapshots machine.vmName snapshots
  if !left.isEmpty then
    throw (.hypervisor "snapshot-delete" machine.vmName (.snapshotsLeft left))
  Hypervisor.perform (.undefine machine.vmName)
  return .destroyed snapshots.length (← ExceptT.lift (removeFiles machine))

theorem destroy_eq_removeDomain (machine : Machine) :
    destroy machine = Hypervisor.lookup machine.vmName >>= fun
      | none => pure .notDeployed
      | some status =>
        if status.state.isActive then forceOff machine.vmName >>= fun _ => removeDomain machine
        else removeDomain machine :=
  rfl

theorem removeDomain_concerns (machine : Machine) : (removeDomain machine).Concerns machine := by
  refine Attempt.confined_bind (perform_makes _).concerns fun snapshots => ?_
  refine Attempt.confined_bind (deleteSnapshots_makes _ _).concerns fun left => ?_
  dsimp only
  split
  · exact (throw_makes _).concerns
  · refine Attempt.confined_bind (perform_makes _).concerns fun _ => ?_
    have removes : (removeFiles machine).Confined (Request.Concerns machine) fun _ => True :=
      removeFiles_removes.mono (fun _ removes => .inr (.inl removes)) fun _ holds => holds
    exact Attempt.confined_bind (Attempt.confined_lift removes) fun _ => Attempt.confined_pure _

theorem destroy_concerns (machine : Machine) : (destroy machine).Concerns machine := by
  rw [destroy_eq_removeDomain]
  refine Attempt.confined_bind (lookup_makes _).concerns fun found => ?_
  cases found with
  | none => exact Attempt.confined_pure _
  | some status =>
      dsimp only
      split
      · exact Attempt.confined_bind (forceOff_makes _).concerns fun _ =>
          removeDomain_concerns machine
      · exact removeDomain_concerns machine

/-! ### Snapshots and shutting down -/

theorem down_makes (machine : Machine) : (down machine).Makes machine := by
  refine Attempt.confined_bind (lookup_makes _) fun found => ?_
  cases found with
  | none => exact Attempt.confined_pure _
  | some status =>
      dsimp only
      split
      · exact Attempt.confined_bind (perform_makes _) fun _ => Attempt.confined_pure _
      · exact Attempt.confined_pure _

theorem createSnapshot_makes (machine : Machine) (snapshot : String)
    (description : Option String) :
    (createSnapshot machine snapshot description).Makes machine := by
  refine Attempt.confined_bind (require_makes _) fun _ => ?_
  cases description with
  | some text => exact perform_makes _
  | none => exact Attempt.confined_bind (ask_makes trivial) fun _ => perform_makes _

theorem listSnapshots_makes (machine : Machine) : (listSnapshots machine).Makes machine :=
  Attempt.confined_bind (require_makes _) fun _ => perform_makes _

theorem deleteSnapshot_makes (machine : Machine) (snapshot : String) :
    (deleteSnapshot machine snapshot).Makes machine := by
  refine Attempt.confined_bind (require_makes _) fun _ => ?_
  refine Attempt.confined_bind (perform_makes _) fun snapshots => ?_
  split
  · exact perform_makes _
  · exact throw_makes _

end Lab

/-! ## Machines that share no files -/

namespace Machine

/-- Two machines of an accepted environment share no files and keep below the place of the
environment exactly if their directories are two places at or below it; single names always make
them so. Bringing up or destroying a machine deals with no files but its own. -/
theorem sharesNoFile_of_accepted {manifest : Manifest} {home : Option Path}
    {environment : Environment} (accepted : manifest.environment home = .ok environment)
    {i j : Nat} (different : i ≠ j) {firstDeclaration secondDeclaration : MachineDeclaration}
    (firstAt : manifest.machines[i]? = some firstDeclaration)
    (secondAt : manifest.machines[j]? = some secondDeclaration) {first second : Machine}
    (firstResolved : resolve environment firstDeclaration = .ok first)
    (secondResolved : resolve environment secondDeclaration = .ok second) (working : Location) :
    (SharesNoFile working first second ∧
        StaysBelow working (environment.machinesPlace working) first ∧
        StaysBelow working (environment.machinesPlace working) second ↔
      first.workDirectory.place working ≠ second.workDirectory.place working ∧
        environment.machinesPlace working <+: first.workDirectory.place working ∧
        environment.machinesPlace working <+: second.workDirectory.place working) ∧
    (Path.IsName environment.name → Path.IsName first.vmName → Path.IsName second.vmName →
      SharesNoFile working first second ∧
        StaysBelow working (environment.machinesPlace working) first ∧
        StaysBelow working (environment.machinesPlace working) second) ∧
    ∀ lab : Lab, (lab.up first).Concerns first ∧ (Lab.destroy first).Concerns first ∧
      (lab.up second).Concerns second ∧ (Lab.destroy second).Concerns second := by
  obtain ⟨firstNamed, firstDirectory⟩ := resolve_eq_ok firstResolved
  obtain ⟨secondNamed, secondDirectory⟩ := resolve_eq_ok secondResolved
  have distinct : first.vmName ≠ second.vmName :=
    Environment.vmName_ne accepted different firstAt secondAt firstNamed secondNamed
  have exactly : SharesNoFile working first second ∧
        StaysBelow working (environment.machinesPlace working) first ∧
        StaysBelow working (environment.machinesPlace working) second ↔
      first.workDirectory.place working ≠ second.workDirectory.place working ∧
        environment.machinesPlace working <+: first.workDirectory.place working ∧
        environment.machinesPlace working <+: second.workDirectory.place working := by
    rw [sharesNoFile_iff, staysBelow_iff, staysBelow_iff]
  refine ⟨exactly, fun environmentName firstName secondName => exactly.mpr ?_, fun lab => ?_⟩
  · rw [firstDirectory, secondDirectory,
      Environment.place_workDirectory working environmentName firstName,
      Environment.place_workDirectory working environmentName secondName]
    refine ⟨fun equal => distinct ?_, List.prefix_append _ _, List.prefix_append _ _⟩
    exact List.singleton_inj.mp (List.append_cancel_left equal)
  · exact ⟨Lab.up_concerns lab first, Lab.destroy_concerns first, Lab.up_concerns lab second,
      Lab.destroy_concerns second⟩

/-! ## Pairs of names -/

def pairOf (first second : String) : Manifest where
  environments := [{
    name := some "lab"
    defaults := { diskImageDirectory := some "/disks" }
    machines := [{ vmName := some first }, { vmName := some second }]
  }]

def pairEnvironment : Environment where
  name := "lab"
  uri := Environment.defaultUri
  domain := none
  defaults := { diskImageDirectory := some "/disks" }
  diskImageDirectory := ⟨"/disks"⟩
  cloudImageDirectory := ⟨Environment.defaultDirectory⟩

theorem single_names_share_no_file :
    ∃ first second, (pairOf "web" "db").environment none = .ok pairEnvironment ∧
      resolve pairEnvironment { vmName := some "web" } = .ok first ∧
      resolve pairEnvironment { vmName := some "db" } = .ok second ∧
      ∀ working, SharesNoFile working first second := by
  have accepted : (pairOf "web" "db").environment none = .ok pairEnvironment := by decide +kernel
  refine ⟨_, _, accepted, rfl, rfl, fun working => ?_⟩
  have separate := sharesNoFile_of_accepted accepted (i := 0) (j := 1) (by decide) rfl rfl rfl rfl
    working
  refine (separate.2.1 ?_ ?_ ?_).1
  all_goals
    unfold Path.IsName
    decide

/-- A slash at the end makes another name of the same directory, and two dots are a name of the
directory above: the environment is accepted, but the first pair of machines shares all files and
the second machine of the other pair leaves the place of the environment. -/
theorem other_names_share_files :
    (∃ first second, (pairOf "web" "web/").environment none = .ok pairEnvironment ∧
      resolve pairEnvironment { vmName := some "web" } = .ok first ∧
      resolve pairEnvironment { vmName := some "web/" } = .ok second ∧
      ∀ working, ¬ SharesNoFile working first second) ∧
    ∃ second, (pairOf "web" "..").environment none = .ok pairEnvironment ∧
      resolve pairEnvironment { vmName := some ".." } = .ok second ∧
      ∀ working, ¬ StaysBelow working (pairEnvironment.machinesPlace working) second := by
  refine ⟨⟨_, _, by decide +kernel, rfl, rfl, fun working shares => ?_⟩,
    ⟨_, by decide +kernel, rfl, fun working stays => ?_⟩⟩
  · refine shares _ _ (.disk 0) (.disk 0) (congrArg (Path.place working) ?_)
    decide +kernel
  · have root : pairEnvironment.machinesPlace working = ["disks", "lab"] := rfl
    have directory : (pairEnvironment.workDirectory "..").place working = ["disks"] := rfl
    have within : ["disks", "lab"] <+: ["disks"] := by
      rw [← root, ← directory]
      exact staysBelow_iff.mp stays
    exact absurd within (by decide)

end Machine

end VirtualLab
