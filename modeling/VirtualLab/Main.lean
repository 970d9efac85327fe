import VirtualLab.CommandLine.Run

/-!
# The program

The command line on the files and the terminal of the user. The program itself starts no tools and
fetches nothing, so a command that needs either ends with the message for that.
-/

namespace VirtualLab.Program

/-- The name under which the user's settings hold the path of the manifest. -/
def manifestSetting : String := "LVLAB_MANIFEST"

def fileError : IO.Error → FileError
  | .noFileOrDirectory _ _ _ => .notFound
  | .permissionDenied _ _ _ => .permissionDenied
  | .alreadyExists _ _ _ => .alreadyExists
  | failure => .other (toString failure)

def outcome {α : Type} (operation : IO α) : IO (Except FileError α) := do
  match ← operation.toBaseIO with
  | .ok value => return .ok value
  | .error failure => return .error (fileError failure)

def succeeds {α : Type} (operation : IO α) : IO Bool := return (← outcome operation).isOk

def put (path : Path) (mode : IO.FS.Mode) (content : Bytes) : IO Unit := do
  (← IO.FS.Handle.mk path.text mode).write ⟨content.toArray⟩

def answer : (request : Request) → IO request.Answer
  | .pathExists path => succeeds (IO.FS.Handle.mk path.text .read)
  | .isFile path => succeeds do (← IO.FS.Handle.mk path.text .read).read 1
  | .createDirectories path => outcome (IO.FS.createDirAll path.text)
  | .readFile path => outcome do return (← IO.FS.readBinFile path.text).toList
  | .writeFile path content => outcome (put path .write content)
  | .appendFile path content => outcome (put path .append content)
  | .renameFile source target => outcome (IO.FS.rename source.text target.text)
  | .removeFile path => outcome (IO.FS.removeFile path.text)
  | .removeDirectory path => outcome (IO.FS.removeDir path.text)
  | .runTool tool _ => return .error (.notStarted tool (.other "tools are not started"))
  | .fetch _ => return .error "nothing is fetched"
  | .hypervisor _ => return .error (.connection "" "not connected")
  | .currentTime => return "at an unknown time"
  | .readLine => outcome do (← IO.getStdin).getLine
  | .print text => do
    (← IO.getStdout).putStr text
    (← IO.getStdout).flush

def run (arguments : List String) : IO UInt32 := do
  match CommandLine.read (← IO.getEnv manifestSetting) arguments with
  | .error stop =>
    IO.eprintln "usage: lvlab [-f MANIFEST] [-c URI] COMMAND"
    return stop.exitCode.toUInt32
  | .ok invocation =>
    let home := (← IO.getEnv "HOME").map Path.mk
    match ← (invocation.run home).run.runM answer with
    | .ok () => return 0
    | .error failure =>
      IO.eprintln ("Error: " ++ failure.message)
      return 1

end VirtualLab.Program

def main (arguments : List String) : IO UInt32 := VirtualLab.Program.run arguments
