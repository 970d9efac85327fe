import VirtualLab.Proofs.Directories
import VirtualLab.Proofs.Origins

/-!
# Files whose operations may fail

Surroundings in which every operation on files may also fail for a reason that the files do not
show. A write that fails may leave any content in its file, and directories may be made in part;
moving and removing are done as a whole or not at all.
-/

namespace VirtualLab

namespace FileSystem

variable {tool : SignatureToolConduct} {before after files : FileSystem} {path : Path}
  {request : Request} {answer : request.Answer}

def Failed : (request : Request) → request.Answer → Prop
  | .createDirectories _, answer => answer.isOk = false
  | .readFile _, answer => answer.isOk = false
  | .writeFile _ _, answer => answer.isOk = false
  | .appendFile _ _, answer => answer.isOk = false
  | .renameFile _ _, answer => answer.isOk = false
  | .removeFile _, answer => answer.isOk = false
  | .removeDirectory _, answer => answer.isOk = false
  | _, _ => False

/-- What an operation that fails may leave. -/
def MayLeave : Request → FileSystem → FileSystem → Prop
  | .createDirectories path, before, after =>
      before.AddsDirectories after ∧ ∀ location entry, before.get? location = none →
        after.get? location = some entry → location ∈ path.stops before.workingDirectory
  | .writeFile path _, before, after => DiffersOnlyAt [path] before after
  | .appendFile path _, before, after => DiffersOnlyAt [path] before after
  | _, before, after => after = before

def faultyConduct (tool : SignatureToolConduct) : Conduct FileSystem :=
  fun request before answer after =>
    conduct tool request before answer after ∨ Failed request answer ∧ MayLeave request before after

theorem conduct_of_not_failed (conducted : faultyConduct tool request before answer after)
    (done : ¬ Failed request answer) : conduct tool request before answer after :=
  conducted.resolve_right fun failed => done failed.1

theorem differs_of_mayLeave {paths : List Path} (changes : request.ChangesFilesAt paths)
    (leaves : MayLeave request before after) : DiffersOnlyAt paths before after := by
  have among : ∀ {path : Path}, path ∈ paths → ∀ other ∈ [path], other ∈ paths :=
    fun {_} member other same => List.mem_singleton.mp same ▸ member
  cases request with
  | createDirectories => exact changes.elim
  | writeFile => exact leaves.mono (among changes)
  | appendFile => exact leaves.mono (among changes)
  | _ => exact (show after = before from leaves) ▸ .refl paths _

theorem differs_of_faulty {paths : List Path} (changes : request.ChangesFilesAt paths)
    (conducted : faultyConduct tool request before answer after) :
    DiffersOnlyAt paths before after := by
  rcases conducted with conducted | ⟨_, leaves⟩
  · exact differs_of_conduct changes conducted
  · exact differs_of_mayLeave changes leaves

/-! ## What a path names -/

def named? (files : FileSystem) (path : Path) : Option Entry :=
  (files.find path).toOption.map (·.2)

theorem named?_eq_file {content : Bytes} :
    files.named? path = some (.file content) ↔ files.read path = .ok content := by
  unfold named? read
  cases files.find path with
  | error cause => simp [Except.toOption, bind, Except.bind]
  | ok found =>
      obtain ⟨location, entry⟩ := found
      cases entry <;>
        simp [Except.toOption, bind, Except.bind, pure, Except.pure, throw, throwThe,
          MonadExceptOf.throw]

theorem named?_eq_directory :
    files.named? path = some .directory ↔ files.isDirectory path = true := by
  unfold named? isDirectory
  cases files.find path with
  | error cause => simp [Except.toOption]
  | ok found =>
      obtain ⟨location, entry⟩ := found
      cases entry <;> simp [Except.toOption]

theorem pathExists_eq_isSome : files.pathExists path = (files.named? path).isSome := by
  unfold named? pathExists
  cases files.find path <;> rfl

/-- A path that is apart from the changed ones names the same. -/
theorem DiffersOnlyAt.named? {paths : List Path} (differs : DiffersOnlyAt paths before after)
    (apart : ∀ other ∈ paths, other.Apart path) : after.named? path = before.named? path := by
  refine Option.ext fun entry => ?_
  cases entry with
  | directory =>
      rw [named?_eq_directory, named?_eq_directory, differs.toSameDirectories.isDirectory]
  | file content => rw [named?_eq_file, named?_eq_file, differs.read apart]

end FileSystem

end VirtualLab
