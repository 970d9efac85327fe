import VirtualLab.Lifecycle
import VirtualLab.Proofs.Directories
import VirtualLab.Proofs.Runs

/-!
# Sites

A host with its files and its domains, on which machines are brought up and destroyed. Tools and
calls do what they are for and nothing more: what a tool writes depends on what it is told and on
the files it reads, and a tool that fails has done nothing.
-/

namespace VirtualLab

open BootConfig Hypervisor

structure Guest where
  status : DomainStatus
  snapshots : List String := []
  deriving DecidableEq, Repr, Inhabited

structure Site where
  files : FileSystem := {}
  domains : List (String × Guest) := []
  deriving DecidableEq, Repr, Inhabited

/-- What tools write, from what they are told and from the contents of the files that they read. -/
structure Craft where
  disk : (arguments : List String) → (backing : Option Bytes) → Bytes
  medium : (arguments : List String) → (contents : List (Option Bytes)) → Bytes
  bootReason : String

namespace FileSystem

def content (files : FileSystem) (path : Path) : Option Bytes := (files.read path).toOption

end FileSystem

namespace Craft

def backingOf : (arguments : List String) → Option Path
  | [_, _, _, "-b", image, _, _, _, _] => some ⟨image⟩
  | _ => none

def diskFrom (craft : Craft) (files : FileSystem) (arguments : List String) : Bytes :=
  craft.disk arguments ((backingOf arguments).bind files.content)

def mediumFrom (craft : Craft) (files : FileSystem) (arguments : List String) : Bytes :=
  craft.medium arguments ((arguments.drop 6).map fun text => files.content ⟨text⟩)

def running (craft : Craft) : DomainStatus := ⟨.running, craft.bootReason⟩

end Craft

namespace Site

def guest? (site : Site) (domain : String) : Option Guest := site.domains.lookup domain

def changeGuest (site : Site) (domain : String) (change : Guest → Guest) : Site :=
  { site with
    domains := site.domains.map fun entry =>
      if entry.1 = domain then (entry.1, change entry.2) else entry }

def removeGuest (site : Site) (domain : String) : Site :=
  { site with domains := site.domains.filter (·.1 ≠ domain) }

def onGuest {α : Type} (site : Site) (domain : String)
    (answer : Guest → Except LabError α × Site) : Except LabError α × Site :=
  match site.guest? domain with
  | some guest => answer guest
  | none => (.error (.notDeployed domain), site)

/-- What a call to the hypervisor comes to. A domain is undefined only if it has no snapshots. -/
def call (craft : Craft) (site : Site) : (call : Call) → Except LabError call.Value × Site
  | .domains => (.ok (site.domains.map (·.1)), site)
  | .status domain => site.onGuest domain fun guest => (.ok guest.status, site)
  | .start domain => site.onGuest domain fun _ =>
      (.ok (), site.changeGuest domain fun guest => { guest with status := craft.running })
  | .shutdown domain => site.onGuest domain fun _ => (.ok (), site)
  | .stop domain => site.onGuest domain fun _ =>
      (.ok (), site.changeGuest domain fun guest =>
        { guest with status := ⟨.shutOff, "forced poweroff"⟩ })
  | .undefine domain => site.onGuest domain fun guest =>
      if guest.snapshots.isEmpty then (.ok (), site.removeGuest domain)
      else (.error (.hypervisor "undefine" domain (.snapshotsLeft guest.snapshots)), site)
  | .createSnapshot domain snapshot _ => site.onGuest domain fun _ =>
      (.ok (), site.changeGuest domain fun guest =>
        { guest with snapshots := guest.snapshots ++ [snapshot] })
  | .snapshots domain => site.onGuest domain fun guest => (.ok guest.snapshots, site)
  | .deleteSnapshot domain snapshot => site.onGuest domain fun _ =>
      (.ok (), site.changeGuest domain fun guest =>
        { guest with snapshots := guest.snapshots.filter (· ≠ snapshot) })
  | .capabilities => (.ok "", site)

def attempted (site : Site) : Except FileError FileSystem → Except FileError Unit × Site
  | .ok changed => (.ok (), { site with files := changed })
  | .error cause => (.error cause, site)

def crafted (site : Site) (tool : String) (arguments : List String) (path : Path)
    (content : Bytes) : Except ToolFailure ToolOutput × Site :=
  match site.files.write path content with
  | .ok changed => (.ok {}, { site with files := changed })
  | .error _ => (.error (.failed tool arguments 1 ""), site)

/-- What a tool comes to. The installation tool powers on what it defines. -/
def runTool (craft : Craft) (site : Site) (tool : String) (arguments : List String) :
    Except ToolFailure ToolOutput × Site :=
  if tool = VirtualDisk.creationTool then
    site.crafted tool arguments ⟨arguments.dropLast.getLastD ""⟩
      (craft.diskFrom site.files arguments)
  else if tool = Bundle.packingTool then
    site.crafted tool arguments ⟨arguments.getD 1 ""⟩ (craft.mediumFrom site.files arguments)
  else if tool = InstallRequest.installationTool then
    match site.guest? (arguments.getD 3 "") with
    | some _ => (.error (.failed tool arguments 1 "already defined"), site)
    | none =>
      (.ok {}, { site with domains := (arguments.getD 3 "", ⟨craft.running, []⟩) :: site.domains })
  else (.error (.notStarted tool .notFound), site)

def respond (craft : Craft) : Script.Responder Site
  | .pathExists path, site => (site.files.pathExists path, site)
  | .isFile path, site => (site.files.isFile path, site)
  | .createDirectories path, site =>
      ((site.files.createDirectories path).1,
        { site with files := (site.files.createDirectories path).2 })
  | .readFile path, site => (site.files.read path, site)
  | .writeFile path content, site => site.attempted (site.files.write path content)
  | .appendFile path content, site => site.attempted (site.files.append path content)
  | .renameFile source target, site => site.attempted (site.files.rename source target)
  | .removeFile path, site => site.attempted (site.files.removeFile path)
  | .removeDirectory path, site => site.attempted (site.files.removeDirectory path)
  | .runTool tool arguments, site => site.runTool craft tool arguments
  | .hypervisor call, site => site.call craft call
  | .fetch _, site => (.error "", site)
  | .currentTime, site => ("", site)
  | .readLine, site => (.error (.other ""), site)
  | .print _, site => ((), site)

/-- What may fail while a machine is brought up. Directories may be made in part and a document may
be written in part. A tool that fails has done nothing, and neither has powering on. -/
def Fails : Conduct Site
  | .createDirectories path, before, answer, after =>
      answer.isOk = false ∧ after.domains = before.domains ∧
        before.files.AddsDirectories after.files ∧
          ∀ location entry, before.files.get? location = none →
            after.files.get? location = some entry →
              location ∈ path.stops before.files.workingDirectory
  | .writeFile path _, before, answer, after =>
      answer.isOk = false ∧ (after = before ∨ ∃ content changed,
        before.files.write path content = .ok changed ∧ after = { before with files := changed })
  | .runTool _ _, before, answer, after => answer.isOk = false ∧ after = before
  | .hypervisor (.start _), before, answer, after => answer.isOk = false ∧ after = before
  | _, _, _, _ => False

def conduct (craft : Craft) : Conduct Site := fun request before answer after =>
  (answer, after) = respond craft request before ∨ Fails request before answer after

theorem conduct_respond (craft : Craft) (request : Request) (site : Site) :
    conduct craft request site (respond craft request site).1 (respond craft request site).2 :=
  .inl rfl

def Sure (request : Request) : Prop := ∀ before answer after, ¬ Fails request before answer after

theorem run_of_runs {craft : Craft} {α : Type} {script : Script α} {holds : α → Prop}
    {start final : Site} {events : List (Event Site)} {value : α}
    (sure : script.Confined Sure holds)
    (run : script.Runs (conduct craft) start events value final) :
    script.run (respond craft) start = (value, final) := by
  induction run with
  | done => rfl
  | ask answered _ induction =>
      have responded := answered.resolve_right (sure.1 _ _ _)
      rw [Script.run, ← responded]
      exact induction (sure.2 _)

/-! ## Calls where nothing fails -/

theorem run_perform (craft : Craft) (call : Call) (site : Site) :
    (perform call).run.run (respond craft) site = site.call craft call := by
  rw [perform, Attempt.run_bind_of_ok (Attempt.run_ask _), Attempt.run_orFail]
  have unchanged : ∀ {α : Type} (result : Except LabError α), result.mapError id = result := by
    rintro α (failure | value) <;> rfl
  rw [unchanged]
  rfl

theorem mem_domains_iff {site : Site} {domain : String} :
    domain ∈ site.domains.map (·.1) ↔ (site.guest? domain).isSome := by
  rw [guest?, List.lookup_isSome_iff, List.mem_map]
  exact exists_congr fun entry => and_congr_right fun _ => by rw [beq_iff_eq, eq_comm]

theorem run_lookup (craft : Craft) (domain : String) (site : Site) :
    (lookup domain).run.run (respond craft) site =
      (.ok ((site.guest? domain).map (·.status)), site) := by
  rw [lookup, Attempt.run_bind_of_ok (run_perform craft .domains site)]
  split
  · rename_i defined
    obtain ⟨guest, found⟩ := Option.isSome_iff_exists.mp (mem_domains_iff.mp defined)
    have status : (perform (.status domain)).run.run (respond craft) site =
        (.ok guest.status, site) := by
      rw [run_perform, call, onGuest, found]
    rw [Attempt.run_bind_of_ok status, found]
    rfl
  · rename_i missing
    have absent : site.guest? domain = none := by
      rwa [mem_domains_iff, Option.not_isSome_iff_eq_none] at missing
    rw [absent]
    rfl

theorem lookup_sure (domain : String) : (lookup domain).Confined Sure fun _ => True := by
  have performs : ∀ call, Sure (.hypervisor call) →
      (perform call).Confined Sure fun _ => True := fun call sure =>
    Attempt.confined_bind (Attempt.confined_ask sure) fun _ =>
      Attempt.confined_orFail fun _ => trivial
  refine Attempt.confined_bind (performs .domains fun _ _ _ => id) fun domains => ?_
  split
  · exact Attempt.confined_bind (performs (.status domain) fun _ _ _ => id) fun _ =>
      Attempt.confined_pure _
  · exact Attempt.confined_pure _

theorem runs_lookup {craft : Craft} {domain : String} {start final : Site}
    {events : List (Event Site)} {outcome : Except LabError (Option DomainStatus)}
    (run : (lookup domain).run.Runs (conduct craft) start events outcome final) :
    outcome = .ok ((start.guest? domain).map (·.status)) ∧ final = start := by
  have ran := run_of_runs (lookup_sure domain).run run
  rw [run_lookup] at ran
  cases ran
  exact ⟨rfl, rfl⟩

end Site

end VirtualLab
