import VirtualLab.BootConfig.Bundle
import VirtualLab.Disk
import VirtualLab.Install
import VirtualLab.Proofs.Files
import VirtualLab.Proofs.Runs

/-!
# Worlds

The files and the domains that operations on machines work on, and what may happen to them when a
request is answered. Every request may fail, and what is not said here is left open. Real files,
and tools that do what they are for, are surroundings of this kind.
-/

namespace VirtualLab

open BootConfig

/-- What the operations on machines change: files and defined domains. The states of domains are
not part of it, as they may change at any time. -/
structure World where
  files : FileSystem := {}
  domains : List String := []
  deriving DecidableEq, Repr, Inhabited

namespace World

/-- From one world to the other nothing is lost but at such locations, and no domain is new but of
such a name. -/
structure Changes (lost : Location → Prop) (defined : String → Prop) (before after : World) :
    Prop where
  files : FileSystem.Keeps lost before.files after.files
  domains : ∀ domain ∈ after.domains, domain ∈ before.domains ∨ defined domain

abbrev Steady (before after : World) : Prop :=
  Changes (fun _ => False) (fun _ => False) before after

/-- What surroundings may do. A path that is found is there. Only what is told to be removed or
renamed can get lost, and a document that was written is a file. No tool loses files; the tools that
make a disk or a medium have made it when they succeed, and a medium is a file; a domain is new only
when the installation tool was told of it, and then also if this failed. A domain that was
successfully removed is gone. Nothing else is known of the answers. -/
def conduct : Conduct World
  | .pathExists path, before, answer, after =>
      (answer = true → before.files.pathExists path = true) ∧ after = before
  | .createDirectories _, before, _, after => Steady before after
  | .writeFile path _, before, answer, after =>
      Steady before after ∧ (answer = .ok () → after.files.isFile path = true)
  | .appendFile _ _, before, _, after => Steady before after
  | .renameFile source _, before, _, after =>
      Changes (· = source.place before.files.workingDirectory) (fun _ => False) before after
  | .removeFile path, before, _, after =>
      Changes (· = path.place before.files.workingDirectory) (fun _ => False) before after
  | .removeDirectory path, before, _, after =>
      Changes (· = path.place before.files.workingDirectory) (fun _ => False) before after
  | .runTool tool arguments, before, answer, after =>
      Changes (fun _ => False) (fun domain => ∃ install : InstallRequest, domain = install.name ∧
        tool = InstallRequest.installationTool ∧ arguments = install.arguments) before after ∧
      (answer.isOk = true →
        (∀ (disk : VirtualDisk) (backing : Option Path), tool = VirtualDisk.creationTool →
          arguments = disk.creationArguments backing → after.files.pathExists disk.path = true) ∧
        ∀ bundle : Bundle, tool = Bundle.packingTool → arguments = bundle.packingArguments →
          after.files.isFile bundle.medium = true)
  | .hypervisor (.undefine domain), before, answer, after =>
      Steady before after ∧ (answer = .ok () → domain ∉ after.domains)
  | .hypervisor _, before, _, after => Steady before after
  | .isFile _, before, _, after => after = before
  | .readFile _, before, _, after => after = before
  | .fetch _, before, _, after => after = before
  | .currentTime, before, _, after => after = before
  | .readLine, before, _, after => after = before
  | .print _, before, _, after => after = before

theorem Steady.refl (world : World) : Steady world world :=
  ⟨.refl _ _, fun _ member => .inl member⟩

theorem Steady.trans {before middle after : World} (first : Steady before middle)
    (second : Steady middle after) : Steady before after where
  files := first.files.trans second.files
  domains domain member := by
    rcases second.domains domain member with earlier | impossible
    · exact first.domains domain earlier
    · exact impossible.elim

theorem Changes.holds {defined : String → Prop} {before after : World}
    (changes : Changes (fun _ => False) defined before after) {clear : Prop} {path : Path}
    (holds : before.files.Holds clear path) : after.files.Holds clear path :=
  changes.files.holds (fun impossible => impossible) (fun _ _ _ impossible => impossible) holds

theorem Changes.holdsFile {defined : String → Prop} {before after : World}
    (changes : Changes (fun _ => False) defined before after) {clear : Prop} {path : Path}
    (holds : before.files.HoldsFile clear path) : after.files.HoldsFile clear path :=
  changes.files.holdsFile (fun impossible => impossible) (fun _ _ _ impossible => impossible) holds

/-! ## A world that answers -/

def respond (installs : List InstallRequest) : Script.Responder World
  | .pathExists path, world => (world.files.pathExists path, world)
  | .isFile path, world => (world.files.isFile path, world)
  | .createDirectories path, world =>
      ((world.files.createDirectories path).1,
        { world with files := (world.files.createDirectories path).2 })
  | .readFile path, world => (world.files.read path, world)
  | .writeFile path content, world => attempted world (world.files.write path content)
  | .appendFile path content, world => attempted world (world.files.append path content)
  | .renameFile source target, world => attempted world (world.files.rename source target)
  | .removeFile path, world => attempted world (world.files.removeFile path)
  | .removeDirectory path, world => attempted world (world.files.removeDirectory path)
  | .runTool tool arguments, world =>
      if tool = VirtualDisk.creationTool then
        made world tool arguments ⟨arguments.dropLast.getLastD ""⟩
      else if tool = Bundle.packingTool then made world tool arguments ⟨arguments.getD 1 ""⟩
      else
        match installs.find? fun install =>
          tool = InstallRequest.installationTool ∧ arguments = install.arguments with
        | some install => (.ok {}, { world with domains := install.name :: world.domains })
        | none => (.error (.notStarted tool .notFound), world)
  | .hypervisor .domains, world => (.ok world.domains, world)
  | .hypervisor (.undefine domain), world =>
      (.ok (), { world with domains := world.domains.filter (· ≠ domain) })
  | .hypervisor (.snapshots _), world => (.ok [], world)
  | .hypervisor _, world => (.error (.connection "" ""), world)
  | .fetch _, world => (.error "", world)
  | .currentTime, world => ("", world)
  | .readLine, world => (.ok "", world)
  | .print _, world => ((), world)
where
  attempted (world : World) : Except FileError FileSystem → Except FileError Unit × World
    | .ok changed => (.ok (), { world with files := changed })
    | .error cause => (.error cause, world)
  made (world : World) (tool : String) (arguments : List String) (path : Path) :
      Except ToolFailure ToolOutput × World :=
    match world.files.write path [] with
    | .ok changed => (.ok {}, { world with files := changed })
    | .error _ => (.error (.failed tool arguments 1 ""), world)

theorem changes_attempted {world : World} {lost : Location → Prop}
    {result : Except FileError FileSystem}
    (keeps : ∀ changed, result = .ok changed → FileSystem.Keeps lost world.files changed) :
    Changes lost (fun _ => False) world (respond.attempted world result).2 := by
  cases result with
  | ok changed => exact ⟨keeps changed rfl, fun _ member => .inl member⟩
  | error cause => exact ⟨.refl _ _, fun _ member => .inl member⟩

theorem isFile_attempted {world : World} {path : Path} {content : Bytes}
    (succeeds : (respond.attempted world (world.files.write path content)).1 = .ok ()) :
    (respond.attempted world (world.files.write path content)).2.files.isFile path = true := by
  cases written : world.files.write path content with
  | ok changed => exact FileSystem.isFile_of_write written
  | error cause =>
      rw [written] at succeeds
      cases succeeds

theorem steady_made (world : World) (tool : String) (arguments : List String) (path : Path) :
    Steady world (respond.made world tool arguments path).2 := by
  unfold respond.made
  split
  · rename_i written
    exact ⟨FileSystem.modifyFile_keeps written _, fun _ member => .inl member⟩
  · exact .refl world

theorem isFile_made {world : World} {tool : String} {arguments : List String} {path : Path}
    (succeeds : (respond.made world tool arguments path).1.isOk = true) :
    (respond.made world tool arguments path).2.files.isFile path = true := by
  unfold respond.made at succeeds ⊢
  split
  · rename_i written
    exact FileSystem.isFile_of_write written
  · rename_i failed
    rw [failed] at succeeds
    cases succeeds

theorem conduct_made {tool : String} {arguments : List String} {path : Path} (world : World)
    (creates : ∀ (disk : VirtualDisk) backing, tool = VirtualDisk.creationTool →
      arguments = disk.creationArguments backing → path = disk.path)
    (packs : ∀ bundle : Bundle, tool = Bundle.packingTool →
      arguments = bundle.packingArguments → path = bundle.medium) :
    conduct (.runTool tool arguments) world (respond.made world tool arguments path).1
      (respond.made world tool arguments path).2 := by
  have steady := steady_made world tool arguments path
  refine ⟨⟨steady.files, fun domain member => .inl ?_⟩, fun succeeds => ⟨?_, ?_⟩⟩
  · exact (steady.domains domain member).resolve_right id
  · intro disk backing tells told
    rw [← creates disk backing tells told]
    exact FileSystem.pathExists_of_isFile (isFile_made succeeds)
  · intro bundle tells told
    rw [← packs bundle tells told]
    exact isFile_made succeeds

theorem conduct_respond_runTool (installs : List InstallRequest) (tool : String)
    (arguments : List String) (world : World) :
    conduct (.runTool tool arguments) world (respond installs (.runTool tool arguments) world).1
      (respond installs (.runTool tool arguments) world).2 := by
  unfold respond
  by_cases creates : tool = VirtualDisk.creationTool
  · subst creates
    refine conduct_made world (fun disk backing _ told => ?_)
      fun _ packs => absurd packs (by decide)
    rw [told]
    cases backing <;> simp [VirtualDisk.creationArguments]
  · by_cases packs : tool = Bundle.packingTool
    · subst packs
      refine conduct_made world (fun _ _ creates => absurd creates (by decide))
        fun bundle _ told => ?_
      rw [told]
      rfl
    · simp only [if_neg creates, if_neg packs]
      split
      · rename_i install found
        have known : tool = InstallRequest.installationTool ∧ arguments = install.arguments := by
          simpa using List.find?_some found
        refine ⟨⟨.refl _ _, fun domain member => ?_⟩, fun _ => ⟨?_, ?_⟩⟩
        · rcases List.mem_cons.mp member with new | earlier
          · exact .inr ⟨install, new, known⟩
          · exact .inl earlier
        · exact fun _ _ creates' => absurd creates' creates
        · exact fun _ packs' => absurd packs' packs
      · exact ⟨⟨.refl _ _, fun _ member => .inl member⟩, fun succeeds => nomatch succeeds⟩

theorem conduct_respond (installs : List InstallRequest) (request : Request) (world : World) :
    conduct request world (respond installs request world).1
      (respond installs request world).2 := by
  cases request with
  | pathExists => exact ⟨id, rfl⟩
  | createDirectories path =>
      exact ⟨(FileSystem.createDirectories_adds _ _).keeps _, fun _ member => .inl member⟩
  | writeFile path content =>
      exact ⟨changes_attempted fun _ written => FileSystem.modifyFile_keeps written _,
        isFile_attempted⟩
  | appendFile => exact changes_attempted fun _ written => FileSystem.modifyFile_keeps written _
  | renameFile => exact changes_attempted fun _ renamed => FileSystem.rename_keeps renamed
  | removeFile => exact changes_attempted fun _ removed => FileSystem.removeFile_keeps removed
  | removeDirectory =>
      exact changes_attempted fun _ removed => FileSystem.removeDirectory_keeps removed
  | runTool tool arguments => exact conduct_respond_runTool installs tool arguments world
  | hypervisor call =>
      cases call with
      | undefine domain =>
          refine ⟨⟨.refl _ _, fun _ member => .inl (List.mem_of_mem_filter member)⟩, ?_⟩
          intro _ member
          simpa using (List.mem_filter.mp member).2
      | _ => exact Steady.refl world
  | _ => exact rfl

end World

end VirtualLab
