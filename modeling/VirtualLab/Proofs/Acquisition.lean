import VirtualLab.Image.Acquisition
import VirtualLab.Proofs.Files
import VirtualLab.Proofs.Runs

/-!
# The course of an acquisition

Acquiring an image, in surroundings whose files behave as files do, whose servers answer anything,
and whose signature tool does what a parameter allows. A run takes one of few courses, which end
where something fails; all that happens before the comparison with the checksum leaves the image
as it is, if it is there, and the marker.
-/

namespace VirtualLab

abbrev SignatureToolConduct :=
  List String → FileSystem → Except ToolFailure ToolOutput → FileSystem → Prop

namespace FileSystem

/-- An operation changes the files if it succeeds and leaves them if it fails. -/
def Applies (before : FileSystem) (result : Except FileError FileSystem)
    (answer : Except FileError Unit) (after : FileSystem) : Prop :=
  match result with
  | .ok changed => answer = .ok () ∧ after = changed
  | .error cause => answer = .error cause ∧ after = before

/-- Surroundings with these files. Operations on files do what they say, tools what they may, and
all other answers are arbitrary. -/
def conduct (tool : SignatureToolConduct) : Conduct FileSystem
  | .pathExists path, before, answer, after => answer = before.pathExists path ∧ after = before
  | .isFile path, before, answer, after => answer = before.isFile path ∧ after = before
  | .createDirectories path, before, answer, after =>
      before.createDirectories path = (answer, after)
  | .readFile path, before, answer, after => answer = before.read path ∧ after = before
  | .writeFile path content, before, answer, after =>
      before.Applies (before.write path content) answer after
  | .appendFile path content, before, answer, after =>
      before.Applies (before.append path content) answer after
  | .renameFile source target, before, answer, after =>
      before.Applies (before.rename source target) answer after
  | .removeFile path, before, answer, after => before.Applies (before.removeFile path) answer after
  | .removeDirectory path, before, answer, after =>
      before.Applies (before.removeDirectory path) answer after
  | .runTool _ arguments, before, answer, after => tool arguments before answer after
  | .fetch _, before, _, after => after = before
  | .hypervisor _, before, _, after => after = before
  | .currentTime, before, _, after => after = before
  | .readLine, before, _, after => after = before
  | .print _, before, _, after => after = before

def respond (tool : List String → FileSystem → Except ToolFailure ToolOutput × FileSystem)
    (server : String → Except String Response) : Script.Responder FileSystem
  | .pathExists path, files => (files.pathExists path, files)
  | .isFile path, files => (files.isFile path, files)
  | .createDirectories path, files => files.createDirectories path
  | .readFile path, files => (files.read path, files)
  | .writeFile path content, files => attempted files (files.write path content)
  | .appendFile path content, files => attempted files (files.append path content)
  | .renameFile source target, files => attempted files (files.rename source target)
  | .removeFile path, files => attempted files (files.removeFile path)
  | .removeDirectory path, files => attempted files (files.removeDirectory path)
  | .runTool _ arguments, files => tool arguments files
  | .fetch url, files => (server url, files)
  | .hypervisor _, files => (.error (.connection "" ""), files)
  | .currentTime, files => ("", files)
  | .readLine, files => (.ok "", files)
  | .print _, files => ((), files)
where
  attempted (files : FileSystem) : Except FileError FileSystem → Except FileError Unit × FileSystem
    | .ok changed => (.ok (), changed)
    | .error cause => (.error cause, files)

theorem applies_attempted (files : FileSystem) (result : Except FileError FileSystem) :
    files.Applies result (respond.attempted files result).1 (respond.attempted files result).2 := by
  cases result <;> exact ⟨rfl, rfl⟩

theorem Applies.changed_or_failed {before after : FileSystem}
    {result : Except FileError FileSystem} {answer : Except FileError Unit}
    (applies : before.Applies result answer after) :
    result = .ok after ∧ answer = .ok () ∨
      ∃ cause, result = .error cause ∧ answer = .error cause ∧ after = before := by
  cases result with
  | ok changed =>
      obtain ⟨answered, rfl⟩ := applies
      exact .inl ⟨rfl, answered⟩
  | error cause =>
      obtain ⟨answered, kept⟩ := applies
      exact .inr ⟨cause, rfl, answered, kept⟩

theorem conduct_respond {tool : SignatureToolConduct}
    {act : List String → FileSystem → Except ToolFailure ToolOutput × FileSystem}
    {server : String → Except String Response}
    (allowed : ∀ arguments files,
      tool arguments files (act arguments files).1 (act arguments files).2)
    (request : Request) (files : FileSystem) :
    conduct tool request files (respond act server request files).1
      (respond act server request files).2 := by
  cases request with
  | writeFile => exact applies_attempted _ _
  | appendFile => exact applies_attempted _ _
  | renameFile => exact applies_attempted _ _
  | removeFile => exact applies_attempted _ _
  | removeDirectory => exact applies_attempted _ _
  | runTool => exact allowed _ _
  | createDirectories => rfl
  | pathExists => exact ⟨rfl, rfl⟩
  | isFile => exact ⟨rfl, rfl⟩
  | readFile => exact ⟨rfl, rfl⟩
  | fetch => rfl
  | hypervisor => rfl
  | currentTime => rfl
  | readLine => rfl
  | print => rfl

theorem runs_respond {α : Type} {tool : SignatureToolConduct}
    {act : List String → FileSystem → Except ToolFailure ToolOutput × FileSystem}
    (allowed : ∀ arguments files,
      tool arguments files (act arguments files).1 (act arguments files).2)
    (server : String → Except String Response) (script : Script α) (files : FileSystem) :
    ∃ events, script.Runs (conduct tool) files events
      (script.run (respond act server) files).1 (script.run (respond act server) files).2 :=
  Script.runs_run (conduct_respond allowed) script files

end FileSystem

/-- The request runs no tool, deals with no directory and changes files at these paths only. -/
def Request.ChangesFilesAt (paths : List Path) : Request → Prop
  | .writeFile path _ => path ∈ paths
  | .appendFile path _ => path ∈ paths
  | .renameFile source target => source ∈ paths ∧ target ∈ paths
  | .removeFile path => path ∈ paths
  | .createDirectories _ => False
  | .removeDirectory _ => False
  | .runTool _ _ => False
  | _ => True

variable {tool : SignatureToolConduct} {before after : FileSystem}

namespace FileSystem

theorem Applies.differs {result : Except FileError FileSystem} {answer : Except FileError Unit}
    {paths : List Path} (applies : before.Applies result answer after)
    (differs : ∀ changed, result = .ok changed → DiffersOnlyAt paths before changed) :
    DiffersOnlyAt paths before after := by
  obtain ⟨changed, _⟩ | ⟨_, _, _, rfl⟩ := applies.changed_or_failed
  · exact differs _ changed
  · exact .refl paths _

theorem Applies.not_isFile {path : Path} {answer : Except FileError Unit}
    (applies : before.Applies (before.removeFile path) answer after) :
    after.isFile path = false := by
  obtain ⟨removed, _⟩ | ⟨_, unremoved, _, rfl⟩ := applies.changed_or_failed
  · exact not_isFile_of_removeFile removed
  · exact not_isFile_of_not_removeFile unremoved

theorem differs_of_conduct {request : Request} {answer : request.Answer} {paths : List Path}
    (changes : request.ChangesFilesAt paths)
    (conducted : conduct tool request before answer after) :
    DiffersOnlyAt paths before after := by
  cases request with
  | createDirectories => exact changes.elim
  | removeDirectory => exact changes.elim
  | runTool => exact changes.elim
  | writeFile => exact Applies.differs conducted fun _ written => modifyFile_differs written changes
  | appendFile =>
      exact Applies.differs conducted fun _ written => modifyFile_differs written changes
  | renameFile =>
      exact Applies.differs conducted fun _ renamed => rename_differs renamed changes.1 changes.2
  | removeFile =>
      exact Applies.differs conducted fun _ removed => removeFile_differs removed changes
  | pathExists => exact conducted.2 ▸ .refl paths _
  | isFile => exact conducted.2 ▸ .refl paths _
  | readFile => exact conducted.2 ▸ .refl paths _
  | fetch => exact (show after = before from conducted) ▸ .refl paths _
  | hypervisor => exact (show after = before from conducted) ▸ .refl paths _
  | currentTime => exact (show after = before from conducted) ▸ .refl paths _
  | readLine => exact (show after = before from conducted) ▸ .refl paths _
  | print => exact (show after = before from conducted) ▸ .refl paths _

theorem differs_of_runs {ε α : Type} {attempt : Attempt ε α} {events : List (Event FileSystem)}
    {outcome : Except ε α} {paths : List Path} {possible : ε → Prop}
    (confined : attempt.Confined (Request.ChangesFilesAt paths) possible)
    (run : attempt.run.Runs (conduct tool) before events outcome after) :
    DiffersOnlyAt paths before after := by
  refine run.related (DiffersOnlyAt.refl paths) DiffersOnlyAt.trans fun event member => ?_
  exact differs_of_conduct (run.request_of_confined confined.run event member)
    (run.conducted event member)

end FileSystem

/-! ## Downloads -/

namespace Download

open FileSystem

def paths (destination : Path) : List Path := [destination.withSuffix partSuffix, destination]

def IsFailure (failure : LabError) : Prop :=
  (∃ url fault, failure = .download url fault) ∨ ∃ cause, failure = .file cause

variable {allowed : List Path}

theorem appendAll_confined {path : Path} (member : path ∈ allowed) (chunks : List Bytes) :
    (appendAll path chunks).Confined (Request.ChangesFilesAt allowed) IsFailure := by
  induction chunks with
  | nil => exact Attempt.confined_pure ()
  | cons chunk rest induction =>
      refine Attempt.confined_bind (Attempt.confined_ask member) fun answer => ?_
      exact Attempt.confined_bind (Attempt.confined_orFail fun cause => .inr ⟨cause, rfl⟩)
        fun _ => induction

theorem download_confined {url : String} {destination : Path}
    (part : destination.withSuffix partSuffix ∈ allowed) (whole : destination ∈ allowed) :
    (download url destination).Confined (Request.ChangesFilesAt allowed) IsFailure := by
  have onFile : ∀ {α : Type} (result : Except FileError α),
      (Attempt.orFail LabError.file result).Confined (Request.ChangesFilesAt allowed) IsFailure :=
    fun result => Attempt.confined_orFail fun cause => .inr ⟨cause, rfl⟩
  have onTransfer : ∀ {α : Type} (fault : DownloadFault), (throw (.download url fault) :
      LabTask α).Confined (Request.ChangesFilesAt allowed) IsFailure :=
    fun fault => Attempt.confined_throw (.inl ⟨url, fault, rfl⟩)
  have moved : (Attempt.ask (ε := LabError)
      (.renameFile (destination.withSuffix partSuffix) destination) >>=
        Attempt.orFail .file).Confined (Request.ChangesFilesAt allowed) IsFailure :=
    Attempt.confined_bind (Attempt.confined_ask ⟨part, whole⟩) onFile
  refine Attempt.confined_bind (Attempt.confined_ask trivial) fun answer => ?_
  refine Attempt.confined_bind
    (Attempt.confined_orFail fun reason => .inl ⟨url, _, rfl⟩) fun response => ?_
  dsimp only
  split
  · exact onTransfer _
  · refine Attempt.confined_bind (Attempt.confined_ask part) fun _ => ?_
    refine Attempt.confined_bind (onFile _) fun _ => ?_
    refine Attempt.confined_bind (appendAll_confined part _) fun _ => ?_
    cases response.interruption with
    | some reason => exact onTransfer _
    | none =>
        cases response.announced with
        | none => exact moved
        | some announced =>
            dsimp only
            split
            · exact Attempt.confined_bind (Attempt.confined_ask part) fun _ => onTransfer _
            · exact moved

end Download

namespace CloudImage

open FileSystem

theorem downloadMissing_confined {allowed : List Path} {sources : List (String × Path)}
    (covers : ∀ source ∈ sources, ∀ path ∈ Download.paths source.2, path ∈ allowed) :
    (downloadMissing sources).Confined (Request.ChangesFilesAt allowed) Download.IsFailure := by
  induction sources with
  | nil => exact Attempt.confined_pure []
  | cons source rest induction =>
      obtain ⟨url, destination⟩ := source
      obtain ⟨first, others⟩ := List.forall_mem_cons.mp covers
      have member :
          destination.withSuffix Download.partSuffix ∈ allowed ∧ destination ∈ allowed := by
        simpa [Download.paths] using first
      refine Attempt.confined_bind (Attempt.confined_ask trivial) fun present => ?_
      cases present with
      | true => exact induction others
      | false =>
          refine Attempt.confined_bind
            (Download.download_confined member.1 member.2) fun _ => ?_
          exact Attempt.confined_bind (induction others) fun _ => Attempt.confined_pure _

variable {url : String} {destination : Path} {sources : List (String × Path)}
  {events : List (Event FileSystem)}

theorem downloadMissing_of_present {outcome : Except LabError (List Path)}
    (run : (downloadMissing ((url, destination) :: sources)).run.Runs (conduct tool)
      before events outcome after)
    (present : before.pathExists destination = true) :
    ∃ later, (downloadMissing sources).run.Runs (conduct tool) before later outcome after := by
  rw [downloadMissing, Attempt.runs_ask_bind] at run
  obtain ⟨answer, middle, later, ⟨rfl, rfl⟩, rest, _⟩ := run
  rw [present] at rest
  exact ⟨later, rest⟩

theorem downloadMissing_cons {downloaded : List Path}
    (run : (downloadMissing ((url, destination) :: sources)).run.Runs (conduct tool)
      before events (.ok downloaded) after) :
    (before.pathExists destination = true ∧
      ∃ later, (downloadMissing sources).run.Runs (conduct tool) before later (.ok downloaded) after ∧
        ∀ event ∈ later, event ∈ events) ∨
    before.pathExists destination = false ∧
      ∃ early middle late others,
        (Download.download url destination).run.Runs (conduct tool) before early (.ok ()) middle ∧
        (downloadMissing sources).run.Runs (conduct tool) middle late (.ok others) after ∧
        downloaded = destination :: others ∧ ∀ event ∈ early ++ late, event ∈ events := by
  rw [downloadMissing, Attempt.runs_ask_bind] at run
  obtain ⟨present, middle, later, ⟨isPresent, rfl⟩, going, rfl⟩ := run
  cases present with
  | true => exact .inl ⟨isPresent.symm, later, going, fun event => List.mem_cons_of_mem _⟩
  | false =>
      obtain ⟨_, early, middle, _, downloading, following, rfl⟩ := Attempt.runs_bind_ok.mp going
      obtain ⟨others, late, _, _, restRun, ended, rfl⟩ := Attempt.runs_bind_ok.mp following
      obtain ⟨rfl, equal, rfl⟩ := Attempt.runs_pure.mp ended
      refine .inr ⟨isPresent.symm, early, middle, late, others, downloading, restRun,
        Except.ok.inj equal, fun event member => ?_⟩
      exact List.mem_cons_of_mem _ (by simpa using member)

theorem eq_of_downloadMissing_nil
    (run : (downloadMissing sources).run.Runs (conduct tool) before events (.ok []) after) :
    after = before := by
  induction sources generalizing events with
  | nil => exact (Attempt.runs_pure.mp run).2.2
  | cons source rest induction =>
      rcases downloadMissing_cons run with ⟨_, later, restRun, _⟩ | ⟨_, _, _, _, _, _, _, equal, _⟩
      · exact induction restRun
      · cases equal

/-! ## What happens before the comparison -/

def signingPaths (image : CloudImage) : List Path :=
  match image.checksumPath, image.keyPath with
  | some checksum, some _ => [image.keyringPath, checksum.withSuffix verifiedSuffix]
  | _, _ => []

def sidePaths (image : CloudImage) : List Path :=
  image.imagePath.withSuffix Download.partSuffix ::
    ((image.checksumPath.toList ++ image.keyPath.toList).flatMap Download.paths ++
      image.signingPaths)

/-- The image and its marker share their files with nothing else that belongs to the image. -/
def Separate (image : CloudImage) : Prop :=
  ∀ path ∈ image.sidePaths, path.Apart image.imagePath ∧ path.Apart image.markerPath

/-- The marker is as it was, and so is the image if it was there. -/
structure Unjudged (image : CloudImage) (before after : FileSystem) : Prop where
  marker : ∀ {text : Bytes}, after.read image.markerPath = .ok text ↔
    before.read image.markerPath = .ok text
  content : before.isFile image.imagePath = true → ∀ {bytes : Bytes},
    after.read image.imagePath = .ok bytes ↔ before.read image.imagePath = .ok bytes

theorem Unjudged.refl (image : CloudImage) (files : FileSystem) : image.Unjudged files files :=
  ⟨Iff.rfl, fun _ => Iff.rfl⟩

theorem Unjudged.trans {image : CloudImage} {middle : FileSystem}
    (first : image.Unjudged before middle) (second : image.Unjudged middle after) :
    image.Unjudged before after where
  marker := second.marker.trans first.marker
  content present := by
    have kept : middle.isFile image.imagePath = true := by
      obtain ⟨bytes, held⟩ := isFile_iff.mp present
      exact isFile_iff.mpr ⟨bytes, (first.content present).mpr held⟩
    exact fun {_} => (second.content kept).trans (first.content present)

variable {image : CloudImage}

theorem unjudged_of_differs (separate : image.Separate)
    (differs : DiffersOnlyAt image.sidePaths before after) : image.Unjudged before after where
  marker := differs.read fun other member => (separate other member).2
  content _ := differs.read fun other member => (separate other member).1

theorem image_apart_marker (image : CloudImage) : image.imagePath.Apart image.markerPath :=
  Path.apart_withSuffix image.imagePath (by decide) (by decide)

theorem eq_some_of_mem_source {url : Option String} {path : Option Path} {artifact : String × Path}
    (member : artifact ∈ source url path) : path = some artifact.2 := by
  cases url <;> cases path <;> simp_all [source]

theorem paths_of_artifact {artifact : String × Path}
    (member : artifact ∈ source image.checksumUrl image.checksumPath ++
      source image.keyUrl image.keyPath) :
    ∀ path ∈ Download.paths artifact.2, path ∈ image.sidePaths := by
  intro path changed
  refine List.mem_cons_of_mem _ (List.mem_append_left _ ?_)
  refine List.mem_flatMap.mpr ⟨artifact.2, ?_, changed⟩
  rcases List.mem_append.mp member with inChecksum | inKey
  · simp [eq_some_of_mem_source inChecksum]
  · simp [eq_some_of_mem_source inKey]

theorem downloadMissing_differs {outcome : Except LabError (List Path)}
    (run : (downloadMissing image.artifacts).run.Runs (conduct tool) before events outcome after) :
    DiffersOnlyAt (image.imagePath :: image.sidePaths) before after := by
  refine differs_of_runs (downloadMissing_confined (List.forall_mem_cons.mpr ⟨?_, ?_⟩)) run
  · simp [Download.paths, sidePaths]
  · intro artifact member path changed
    exact List.mem_cons_of_mem _ (paths_of_artifact member path changed)

theorem marker_of_downloadMissing {outcome : Except LabError (List Path)}
    (apart : ∀ path ∈ image.sidePaths, path.Apart image.markerPath)
    (run : (downloadMissing image.artifacts).run.Runs (conduct tool) before events outcome after)
    {text : Bytes} :
    after.read image.markerPath = .ok text ↔ before.read image.markerPath = .ok text :=
  (downloadMissing_differs run).read
    (List.forall_mem_cons.mpr ⟨image.image_apart_marker, apart⟩)

theorem unjudged_of_downloadMissing {outcome : Except LabError (List Path)}
    (separate : image.Separate)
    (run : (downloadMissing image.artifacts).run.Runs (conduct tool) before events outcome after) :
    image.Unjudged before after where
  marker := marker_of_downloadMissing (fun path member => (separate path member).2) run
  content file := by
    intro bytes
    obtain ⟨later, restRun⟩ := downloadMissing_of_present run (pathExists_of_isFile file)
    exact (differs_of_runs (downloadMissing_confined fun _ member => paths_of_artifact member)
      restRun).read fun path member => (separate path member).1

theorem runSignatureTool_runs {arguments : List String} {outcome : Except LabError Unit} :
    (image.runSignatureTool arguments).run.Runs (conduct tool) before events outcome after ↔
      ∃ answer : Except ToolFailure ToolOutput, tool arguments before answer after ∧
        events = [⟨before, .runTool signatureTool arguments, answer, after⟩] ∧
        outcome = (answer.map fun _ => ()).mapError
          fun failure => .image image.name (.signature failure) := by
  rw [runSignatureTool, Attempt.runs_ask_bind]
  constructor
  · rintro ⟨answer, middle, rest, conducted, run, rfl⟩
    refine ⟨answer, ?_⟩
    rcases Attempt.runs_orFail_bind.mp run with ⟨cause, rfl, rfl, rfl, rfl⟩ | ⟨output, rfl, ended⟩
    · exact ⟨conducted, rfl, rfl⟩
    · obtain ⟨rfl, rfl, rfl⟩ := Attempt.runs_pure.mp ended
      exact ⟨conducted, rfl, rfl⟩
  · rintro ⟨answer, conducted, rfl, rfl⟩
    refine ⟨answer, after, [], conducted, ?_, rfl⟩
    cases answer with
    | error cause => exact Attempt.runs_orFail_bind.mpr (.inl ⟨cause, rfl, rfl, rfl, rfl⟩)
    | ok output =>
        exact Attempt.runs_orFail_bind.mpr
          (.inr ⟨output, rfl, Attempt.runs_pure.mpr ⟨rfl, rfl, rfl⟩⟩)

/-- The signature tool writes its keyring and its output and nothing else. -/
structure KeepsToOutputs (arguments : List String) (before after : FileSystem) : Prop where
  importing : ∀ keyring keyFile, arguments = importArguments keyring keyFile →
    DiffersOnlyAt [keyring] before after
  decrypting : ∀ keyring checksum output, arguments = decryptArguments keyring checksum output →
    DiffersOnlyAt [keyring, output] before after

/-- A signature tool that finds every signature good and writes what was signed as it is. -/
def copySigned : List String → FileSystem → Except ToolFailure ToolOutput × FileSystem
  | [_, _, _, _, _, _, output, _, checksum], files =>
    match (files.read ⟨checksum⟩).bind (files.write ⟨output⟩) with
    | .ok written => (.ok {}, written)
    | .error cause => (.error (.failed signatureTool [] 2 cause.message), files)
  | _, files => (.ok {}, files)

theorem copySigned_keepsToOutputs (arguments : List String) (files : FileSystem) :
    KeepsToOutputs arguments files (copySigned arguments files).2 where
  importing keyring keyFile equal := by
    subst equal
    exact .refl _ _
  decrypting keyring checksum output equal := by
    subst equal
    simp only [decryptArguments, copySigned]
    cases content : files.read checksum with
    | error cause => exact .refl _ _
    | ok signed =>
        cases writing : files.write output signed with
        | error cause =>
            simp only [Except.bind, writing]
            exact .refl _ _
        | ok written =>
            simp only [Except.bind, writing]
            exact modifyFile_differs writing (by simp)

/-- The two runs of the signature tool, of which the second needs the first to succeed. -/
theorem verifySignature_runs {checksum keyFile : Path} {outcome : Except LabError Unit}
    (hasChecksum : image.checksumPath = some checksum) (hasKey : image.keyPath = some keyFile)
    (run : image.verifySignature.run.Runs (conduct tool) before events outcome after) :
    (∃ failure, tool (importArguments image.keyringPath keyFile) before (.error failure) after ∧
      outcome = .error (.image image.name (.signature failure))) ∨
    ∃ imported decrypted middle,
      tool (importArguments image.keyringPath keyFile) before (.ok imported) middle ∧
      tool (decryptArguments image.keyringPath checksum (checksum.withSuffix verifiedSuffix))
        middle decrypted after ∧
      events = [⟨before, .runTool signatureTool (importArguments image.keyringPath keyFile),
          .ok imported, middle⟩,
        ⟨middle, .runTool signatureTool (decryptArguments image.keyringPath checksum
          (checksum.withSuffix verifiedSuffix)), decrypted, after⟩] ∧
      outcome = (decrypted.map fun _ => ()).mapError
        fun failure => .image image.name (.signature failure) := by
  simp only [verifySignature, hasChecksum, hasKey] at run
  rcases Attempt.runs_bind.mp run with ⟨failure, importing, rfl⟩ |
    ⟨_, early, middle, late, importing, decrypting, rfl⟩
  · obtain ⟨answer, conducted, _, equal⟩ := runSignatureTool_runs.mp importing
    cases answer with
    | ok => cases equal
    | error cause =>
        cases equal
        exact .inl ⟨cause, conducted, rfl⟩
  · obtain ⟨answer, conducted, rfl, equal⟩ := runSignatureTool_runs.mp importing
    cases answer with
    | error => cases equal
    | ok imported =>
        obtain ⟨decrypted, second, rfl, rfl⟩ := runSignatureTool_runs.mp decrypting
        exact .inr ⟨imported, decrypted, middle, conducted, second, rfl, rfl⟩

theorem verifySignature_differs {outcome : Except LabError Unit}
    (frame : ∀ {arguments before answer after}, tool arguments before answer after →
      KeepsToOutputs arguments before after)
    (run : image.verifySignature.run.Runs (conduct tool) before events outcome after) :
    DiffersOnlyAt image.sidePaths before after := by
  cases hasChecksum : image.checksumPath with
  | none =>
      simp only [verifySignature, hasChecksum] at run
      exact (Attempt.runs_pure.mp run).2.2 ▸ .refl _ _
  | some checksum =>
      cases hasKey : image.keyPath with
      | none =>
          simp only [verifySignature, hasChecksum, hasKey] at run
          exact (Attempt.runs_pure.mp run).2.2 ▸ .refl _ _
      | some keyFile =>
          have keyring : image.keyringPath ∈ image.sidePaths := by
            simp [sidePaths, signingPaths, hasChecksum, hasKey]
          have verified : checksum.withSuffix verifiedSuffix ∈ image.sidePaths := by
            simp [sidePaths, signingPaths, hasChecksum, hasKey]
          have importing : ∀ {before answer after},
              tool (importArguments image.keyringPath keyFile) before answer after →
                DiffersOnlyAt image.sidePaths before after := fun conducted =>
            ((frame conducted).importing _ _ rfl).mono (by simpa using keyring)
          have decrypting : ∀ {before answer after}, tool (decryptArguments image.keyringPath
              checksum (checksum.withSuffix verifiedSuffix)) before answer after →
                DiffersOnlyAt image.sidePaths before after := fun conducted =>
            ((frame conducted).decrypting _ _ _ rfl).mono (by simpa using ⟨keyring, verified⟩)
          rcases verifySignature_runs hasChecksum hasKey run with ⟨_, imported, _⟩ |
            ⟨_, _, _, imported, decrypted, _⟩
          · exact importing imported
          · exact (importing imported).trans (decrypting decrypted)

/-! ## The comparison

A comparison fails and changes nothing, or finds a mismatch and leaves no marker, or finds a match
and leaves one.
-/

/-- A failure that is not a mismatch. -/
def IsOther (image : CloudImage) (failure : LabError) : Prop :=
  ∀ expected actual, failure ≠ .image image.name (.digestMismatch expected actual)

inductive Verdict (image : CloudImage) (before : FileSystem) :
    List (Event FileSystem) → Except LabError Unit → FileSystem → Prop
  | undecided {events : List (Event FileSystem)} {failure : LabError}
      (other : image.IsOther failure) :
      Verdict image before events (.error failure) before
  | mismatched {events : List (Event FileSystem)} {expected actual : String} {after : FileSystem}
      (unmarked : after.isFile image.markerPath = false) :
      Verdict image before events
        (.error (.image image.name (.digestMismatch expected actual))) after
  | matched {checksum source : Path} {algorithm : ChecksumAlgorithm} {listing bytes : Bytes}
      {text : String} {after : FileSystem}
      (hasChecksum : image.checksumPath = some checksum)
      (chosen : source = if before.isFile (checksum.withSuffix verifiedSuffix) then
        checksum.withSuffix verifiedSuffix else checksum)
      (algorithmKnown : image.algorithm = .ok algorithm)
      (listingRead : before.read source = .ok listing)
      (readable : Bytes.toText? listing = some text)
      (imageRead : before.read image.imagePath = .ok bytes)
      (listed : ChecksumEntry.digestOf (ChecksumEntry.ofText text) image.fileName =
        some (algorithm.digest bytes))
      (written : before.write image.markerPath (Bytes.ofText (algorithm.digest bytes ++ "\n")) =
        .ok after) :
      Verdict image before
        [⟨before, .isFile (checksum.withSuffix verifiedSuffix),
            before.isFile (checksum.withSuffix verifiedSuffix), before⟩,
          ⟨before, .readFile source, .ok listing, before⟩,
          ⟨before, .readFile image.imagePath, .ok bytes, before⟩,
          ⟨before, .writeFile image.markerPath (Bytes.ofText (algorithm.digest bytes ++ "\n")),
            .ok (), after⟩]
        (.ok ()) after

theorem checksumSource_runs {checksum source : Path}
    (run : (checksumSource checksum).Runs (conduct tool) before events source after) :
    after = before ∧
      source = (if before.isFile (checksum.withSuffix verifiedSuffix) then
        checksum.withSuffix verifiedSuffix else checksum) ∧
      events = [⟨before, .isFile (checksum.withSuffix verifiedSuffix),
        before.isFile (checksum.withSuffix verifiedSuffix), before⟩] := by
  obtain ⟨verified, early, middle, late, asked, ended, rfl⟩ := Script.runs_bind.mp run
  obtain ⟨⟨rfl, rfl⟩, rfl⟩ := Script.runs_request.mp asked
  split at ended
  all_goals
    rename_i verified
    obtain ⟨rfl, rfl, rfl⟩ := Script.runs_pure.mp ended
    simp [verified]

theorem readText_runs {path : Path} {outcome : Except FileError String}
    (run : (Script.readText path).Runs (conduct tool) before events outcome after) :
    after = before ∧ events = [⟨before, .readFile path, before.read path, before⟩] ∧
      outcome = (before.read path).bind fun bytes =>
        match Bytes.toText? bytes with
        | some text => .ok text
        | none => .error .notUtf8 := by
  obtain ⟨answer, middle, rest, ⟨rfl, rfl⟩, ended, rfl⟩ := Script.runs_ask.mp run
  obtain ⟨rfl, rfl, rfl⟩ := Script.runs_pure.mp ended
  exact ⟨rfl, rfl, rfl⟩

theorem expectedDigest_runs {source : Path} {outcome : Except LabError String}
    (run : (image.expectedDigest source).run.Runs (conduct tool) before events outcome after) :
    after = before ∧ events = [⟨before, .readFile source, before.read source, before⟩] ∧
      ((∃ failure, outcome = .error failure ∧ image.IsOther failure) ∨
        ∃ listing text digest, before.read source = .ok listing ∧
          Bytes.toText? listing = some text ∧ outcome = .ok digest ∧
          ChecksumEntry.digestOf (ChecksumEntry.ofText text) image.fileName = some digest) := by
  rw [expectedDigest, Attempt.runs_lift_bind] at run
  obtain ⟨content, early, middle, late, reading, rest, rfl⟩ := run
  obtain ⟨rfl, rfl, rfl⟩ := readText_runs reading
  rcases Attempt.runs_orFail_bind.mp rest with ⟨cause, _, rfl, rfl, rfl⟩ | ⟨text, found, looking⟩
  · exact ⟨rfl, rfl, .inl ⟨_, rfl, by simp [IsOther]⟩⟩
  · split at looking
    · rename_i digest listed
      obtain ⟨rfl, rfl, rfl⟩ := Attempt.runs_pure.mp looking
      cases content : after.read source with
      | error cause => simp [content, Except.bind] at found
      | ok listing =>
          cases decoded : Bytes.toText? listing with
          | none => simp [content, decoded, Except.bind] at found
          | some _ =>
              simp [content, decoded, Except.bind] at found
              subst found
              exact ⟨rfl, rfl, .inr ⟨listing, _, digest, rfl, decoded, rfl, listed⟩⟩
    · obtain ⟨rfl, rfl, rfl⟩ := Attempt.runs_throw.mp looking
      exact ⟨rfl, rfl, .inl ⟨_, rfl, by simp [IsOther]⟩⟩

theorem fileDigest_runs {path : Path} {algorithm : ChecksumAlgorithm}
    {outcome : Except LabError String}
    (run : (fileDigest path algorithm).run.Runs (conduct tool) before events outcome after) :
    after = before ∧ events = [⟨before, .readFile path, before.read path, before⟩] ∧
      outcome = ((before.read path).map algorithm.digest).mapError .file := by
  rw [fileDigest, Attempt.runs_ask_bind] at run
  obtain ⟨answer, middle, rest, ⟨rfl, rfl⟩, reading, rfl⟩ := run
  rcases Attempt.runs_orFail_bind.mp reading with
    ⟨cause, read, rfl, rfl, rfl⟩ | ⟨bytes, read, ended⟩
  · exact ⟨rfl, rfl, by rw [read]; rfl⟩
  · obtain ⟨rfl, rfl, rfl⟩ := Attempt.runs_pure.mp ended
    exact ⟨rfl, rfl, by rw [read]; rfl⟩

theorem isOther_of_download {failure : LabError} (failed : Download.IsFailure failure) :
    image.IsOther failure := by
  rcases failed with ⟨url, fault, rfl⟩ | ⟨cause, rfl⟩ <;> simp [IsOther]

theorem isOther_of_downloadMissing {failure : LabError}
    (run : (downloadMissing sources).run.Runs (conduct tool) before events (.error failure) after) :
    image.IsOther failure := by
  have confined : (downloadMissing sources).Confined
      (Request.ChangesFilesAt (sources.flatMap fun source => Download.paths source.2))
      Download.IsFailure :=
    downloadMissing_confined fun source member path changed =>
      List.mem_flatMap.mpr ⟨source, member, changed⟩
  exact isOther_of_download (run.value_of_confined confined.run failure rfl)

theorem isOther_of_verifySignature {failure : LabError}
    (run : image.verifySignature.run.Runs (conduct tool) before events (.error failure) after) :
    image.IsOther failure := by
  cases hasChecksum : image.checksumPath with
  | none =>
      simp only [verifySignature, hasChecksum] at run
      cases (Attempt.runs_pure.mp run).2.1
  | some checksum =>
      cases hasKey : image.keyPath with
      | none =>
          simp only [verifySignature, hasChecksum, hasKey] at run
          cases (Attempt.runs_pure.mp run).2.1
      | some keyFile =>
          rcases verifySignature_runs hasChecksum hasKey run with ⟨_, _, equal⟩ |
            ⟨_, decrypted, _, _, _, _, equal⟩
          · cases equal
            simp [IsOther]
          · cases decrypted with
            | ok output => cases equal
            | error cause =>
                cases equal
                simp [IsOther]

theorem isOther_of_algorithm {failure : LabError} (unknown : image.algorithm = .error failure) :
    image.IsOther failure := by
  intro expected actual equal
  subst equal
  unfold algorithm at unknown
  split at unknown
  · simp only [ChecksumAlgorithm.parse] at unknown
    split at unknown
    · cases unknown
    · split at unknown <;> cases unknown
  · cases unknown

private theorem eq_digest_of_ok {path : Path} {algorithm : ChecksumAlgorithm} {digest : String}
    (equal : Except.ok digest = ((before.read path).map algorithm.digest).mapError LabError.file) :
    ∃ bytes, before.read path = .ok bytes ∧ digest = algorithm.digest bytes := by
  cases held : before.read path with
  | error cause => simp [held, Except.map, Except.mapError] at equal
  | ok bytes => exact ⟨bytes, rfl, by simpa [held, Except.map, Except.mapError] using equal⟩

theorem unmarking_runs {path : Path} {failure : LabError} {outcome : Except LabError Unit}
    (run : (Attempt.ask (.removeFile path) >>= fun _ => (throw failure : LabTask Unit)).run.Runs
      (conduct tool) before events outcome after) :
    outcome = .error failure ∧ after.isFile path = false := by
  obtain ⟨answer, middle, rest, applied, ended, rfl⟩ := Attempt.runs_ask_bind.mp run
  obtain ⟨rfl, rfl, rfl⟩ := Attempt.runs_throw.mp ended
  exact ⟨rfl, Applies.not_isFile applied⟩

theorem marking_runs {path : Path} {content : Bytes} {outcome : Except LabError Unit}
    (run : (Attempt.ask (.writeFile path content) >>= Attempt.orFail .file).run.Runs
      (conduct tool) before events outcome after) :
    (∃ cause, outcome = .error (.file cause) ∧ before.write path content = .error cause ∧
      after = before) ∨
      outcome = .ok () ∧ before.write path content = .ok after ∧
        events = [⟨before, .writeFile path content, .ok (), after⟩] := by
  obtain ⟨answer, middle, rest, applied, ended, rfl⟩ := Attempt.runs_ask_bind.mp run
  obtain ⟨rfl, rfl, rfl⟩ := Attempt.runs_orFail.mp ended
  obtain ⟨written, rfl⟩ | ⟨cause, unwritten, rfl, rfl⟩ := Applies.changed_or_failed applied
  · exact .inr ⟨rfl, written, rfl⟩
  · exact .inl ⟨cause, rfl, unwritten, rfl⟩

theorem verdict_of_verifyChecksum {checksum : Path} {outcome : Except LabError Unit}
    (hasChecksum : image.checksumPath = some checksum)
    (run : image.verifyChecksum.run.Runs (conduct tool) before events outcome after) :
    image.Verdict before events outcome after := by
  simp only [verifyChecksum, hasChecksum] at run
  rcases Attempt.runs_orFail_bind.mp run with ⟨cause, unknown, rfl, rfl, rfl⟩ |
    ⟨algorithm, known, choosing⟩
  · exact .undecided (isOther_of_algorithm unknown)
  obtain ⟨source, _, _, _, chosen, looking, rfl⟩ := Attempt.runs_lift_bind.mp choosing
  obtain ⟨rfl, isChosen, rfl⟩ := checksumSource_runs chosen
  rcases Attempt.runs_bind.mp looking with ⟨failure, listing, rfl⟩ |
    ⟨expected, _, _, _, listing, comparing, rfl⟩
  · obtain ⟨rfl, _, ⟨_, equal, other⟩ | ⟨_, _, _, _, _, impossible, _⟩⟩ :=
      expectedDigest_runs listing
    · cases equal
      exact .undecided other
    · cases impossible
  obtain ⟨rfl, rfl,
      ⟨_, impossible, _⟩ | ⟨content, text, _, listingRead, readable, equal, listed⟩⟩ :=
    expectedDigest_runs listing
  · cases impossible
  cases equal
  rcases Attempt.runs_bind.mp comparing with ⟨failure, digesting, rfl⟩ |
    ⟨actual, _, _, _, digesting, judging, rfl⟩
  · obtain ⟨rfl, _, equal⟩ := fileDigest_runs digesting
    refine .undecided fun _ _ mismatch => ?_
    subst mismatch
    cases held : after.read image.imagePath <;> simp [held, Except.map, Except.mapError] at equal
  obtain ⟨rfl, rfl, equal⟩ := fileDigest_runs digesting
  obtain ⟨bytes, imageRead, rfl⟩ := eq_digest_of_ok equal
  rw [imageRead]
  split at judging
  · obtain ⟨rfl, unmarked⟩ := unmarking_runs judging
    exact .mismatched unmarked
  · rename_i same
    have equal := Decidable.not_not.mp same
    subst equal
    rcases marking_runs judging with ⟨_, rfl, _, rfl⟩ | ⟨rfl, written, rfl⟩
    · exact .undecided (by simp [IsOther])
    · rw [listingRead]
      exact .matched hasChecksum isChosen known listingRead readable imageRead listed written

/-! ## The whole run

A run ends at the directory of the image, at a download or at the signature if that fails. Without a
checksum it ends after the downloads, and so it does where the marker and all files were there;
otherwise it ends with the comparison.
-/

inductive Course (image : CloudImage) (tool : SignatureToolConduct) (start : FileSystem) :
    List (Event FileSystem) → Except LabError AcquireReport → FileSystem → Prop
  | unmade {events : List (Event FileSystem)} {cause : FileError} {after : FileSystem}
      (making : start.createDirectories image.directory = (.error cause, after)) :
      Course image tool start events (.error (.file cause)) after
  | incomplete {events downloads : List (Event FileSystem)} {failure : LabError}
      {ready after : FileSystem}
      (making : start.createDirectories image.directory = (.ok (), ready))
      (downloading : (downloadMissing image.artifacts).run.Runs (conduct tool)
        ready downloads (.error failure) after) :
      Course image tool start events (.error failure) after
  | unchecked {events downloads : List (Event FileSystem)} {downloaded : List Path}
      {ready after : FileSystem}
      (making : start.createDirectories image.directory = (.ok (), ready))
      (downloading : (downloadMissing image.artifacts).run.Runs (conduct tool)
        ready downloads (.ok downloaded) after)
      (noChecksum : image.checksumUrl = none) :
      Course image tool start events (.ok { downloaded }) after
  | known {events downloads : List (Event FileSystem)} {ready after : FileSystem}
      (making : start.createDirectories image.directory = (.ok (), ready))
      (downloading : (downloadMissing image.artifacts).run.Runs (conduct tool)
        ready downloads (.ok []) after)
      (marked : after.isFile image.markerPath = true) :
      Course image tool start events (.ok { alreadyVerified := true }) after
  | unsigned {events downloads signing : List (Event FileSystem)} {downloaded : List Path}
      {failure : LabError} {ready middle after : FileSystem}
      (making : start.createDirectories image.directory = (.ok (), ready))
      (downloading : (downloadMissing image.artifacts).run.Runs (conduct tool)
        ready downloads (.ok downloaded) middle)
      (verifying : image.verifySignature.run.Runs (conduct tool)
        middle signing (.error failure) after) :
      Course image tool start events (.error failure) after
  | judged {events downloads signing comparing : List (Event FileSystem)}
      {downloaded : List Path} {verdict : Except LabError Unit}
      {ready middle signed after : FileSystem}
      (making : start.createDirectories image.directory = (.ok (), ready))
      (downloading : (downloadMissing image.artifacts).run.Runs (conduct tool)
        ready downloads (.ok downloaded) middle)
      (verifying : image.verifySignature.run.Runs (conduct tool) middle signing (.ok ()) signed)
      (judging : image.verifyChecksum.run.Runs (conduct tool) signed comparing verdict after)
      (ending : signing ++ comparing <:+ events) :
      Course image tool start events
        (verdict.map fun _ =>
          { downloaded, signatureVerified := image.keyPath.isSome, checksumVerified := true })
        after

/-- Without keys there is no signature to verify, so asking for keys first changes nothing. -/
theorem verifySignature_of_key {α : Type} (next : Unit → LabTask α) :
    (if image.keyPath.isSome then image.verifySignature >>= next else next ()) =
      image.verifySignature >>= next := by
  cases hasKey : image.keyPath with
  | some keyFile => rfl
  | none => cases hasChecksum : image.checksumPath <;> simp [verifySignature, hasKey, hasChecksum]

theorem course_of_acquire {start : FileSystem} {outcome : Except LabError AcquireReport}
    (run : image.acquire.run.Runs (conduct tool) start events outcome after) :
    image.Course tool start events outcome after := by
  rw [acquire, Attempt.runs_ask_bind] at run
  obtain ⟨made, ready, _, making, afterMaking, rfl⟩ := run
  rcases Attempt.runs_orFail_bind.mp afterMaking with ⟨cause, rfl, rfl, rfl, rfl⟩ | ⟨_, rfl, going⟩
  · exact .unmade making
  rcases Attempt.runs_bind.mp going with ⟨failure, downloading, rfl⟩ |
    ⟨downloaded, downloads, middle, _, downloading, checking, rfl⟩
  · exact .incomplete making downloading
  split at checking
  · rename_i noChecksum
    obtain ⟨rfl, rfl, rfl⟩ := Attempt.runs_pure.mp checking
    exact .unchecked making downloading (Option.isNone_iff_eq_none.mp noChecksum)
  obtain ⟨marked, _, _, ⟨rfl, rfl⟩, settling, rfl⟩ := Attempt.runs_ask_bind.mp checking
  split at settling
  · rename_i settled
    obtain ⟨rfl, rfl, rfl⟩ := Attempt.runs_pure.mp settling
    obtain ⟨isMarked, nothing⟩ := Bool.and_eq_true_iff.mp settled
    exact .known making (List.isEmpty_iff.mp nothing ▸ downloading) isMarked
  dsimp only at settling
  rw [verifySignature_of_key] at settling
  rcases Attempt.runs_bind.mp settling with ⟨failure, verifying, rfl⟩ |
    ⟨_, signing, signed, _, verifying, judging, rfl⟩
  · exact .unsigned making downloading verifying
  obtain ⟨verdict, comparing, rfl⟩ := Attempt.runs_bind_pure.mp judging
  exact .judged making downloading verifying comparing
    (((List.suffix_cons _ _).trans (List.suffix_append _ _)).trans (List.suffix_cons _ _))

end CloudImage

end VirtualLab
