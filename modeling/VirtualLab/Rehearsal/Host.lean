import VirtualLab.Rehearsal.Network
import VirtualLab.Rehearsal.Tools

/-!
# The host of a rehearsal

The surroundings in which scripts are rehearsed: files, tools that are stood in for, a user, a clock
that stands still, and no network. The host keeps a journal of the runs of tools and of what was
printed.
-/

namespace VirtualLab.Rehearsal

structure Host where
  bench : Workbench := {}
  rules : List Rule := []
  time : String := ""
  input : String := ""
  calls : List (List String) := []
  printed : String := ""
  deriving DecidableEq, Repr, Inhabited

namespace Host

def files (host : Host) : FileSystem := host.bench.files

def withFiles (host : Host) (files : FileSystem) : Host :=
  { host with bench := { host.bench with files } }

def changed (host : Host) : Except FileError FileSystem → Except FileError Unit × Host
  | .ok files => (.ok (), host.withFiles files)
  | .error cause => (.error cause, host)

def runTool (host : Host) (tool : String) (arguments : List String) :
    Except ToolFailure ToolOutput × Host :=
  let host := { host with calls := host.calls ++ [tool :: arguments] }
  match Rule.applyFirst tool arguments host.rules with
  | some (some exit, rules) => (exit.result tool arguments, { host with rules })
  | some (none, rules) => (.error (.notStarted tool .notFound), { host with rules })
  | none =>
    match host.bench.run tool arguments with
    | some (exit, bench) => (exit.result tool arguments, { host with bench })
    | none => (.error (.notStarted tool .notFound), host)

def readLine (host : Host) : String × Host :=
  match Text.splitFirst ['\n'] host.input.toList with
  | some (line, rest) => (String.ofList line ++ "\n", { host with input := String.ofList rest })
  | none => (host.input, { host with input := "" })

/-- Answers every request. A call to the hypervisor that is not put to its client stays without a
connection. -/
def answer : Script.Responder Host
  | .pathExists path, host => (host.files.pathExists path, host)
  | .isFile path, host => (host.files.isFile path, host)
  | .createDirectories path, host =>
    ((host.files.createDirectories path).1, host.withFiles (host.files.createDirectories path).2)
  | .readFile path, host => (host.files.read path, host)
  | .writeFile path content, host => host.changed (host.files.write path content)
  | .appendFile path content, host => host.changed (host.files.append path content)
  | .renameFile source target, host => host.changed (host.files.rename source target)
  | .removeFile path, host => host.changed (host.files.removeFile path)
  | .removeDirectory path, host => host.changed (host.files.removeDirectory path)
  | .runTool tool arguments, host => host.runTool tool arguments
  | .fetch url, host => (.error (Network.refusal url), host)
  | .hypervisor _, host => (.error (.connection "" "not connected"), host)
  | .currentTime, host => (host.time, host)
  | .readLine, host => (.ok host.readLine.1, host.readLine.2)
  | .print text, host => ((), { host with printed := host.printed ++ text })

def perform {α : Type} (host : Host) (script : Script α) : α × Host := script.run answer host

end Host

end VirtualLab.Rehearsal
