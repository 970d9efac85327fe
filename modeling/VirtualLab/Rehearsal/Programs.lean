import VirtualLab.Rehearsal.Shell
import VirtualLab.Rehearsal.Tools

/-!
# Programs of every system

Some programs that are installed everywhere, as they are found by name and run. What a program
prints is read as text whatever its bytes are, and a program that is killed has the code −1.
-/

namespace VirtualLab.Rehearsal.Programs

def directories : List String := ["/bin/", "/usr/bin/"]

def systemDirectories : List Location :=
  [["bin"], ["dev"], ["etc"], ["home"], ["root"], ["tmp"], ["usr"], ["usr", "bin"], ["var"], ["var", "lib"]]

def systemFiles : List Location := [["dev", "null"], ["etc", "passwd"], ["etc", "hosts"]]

def system : FileSystem where
  entries :=
    systemDirectories.map (·, .directory) ++ systemFiles.map fun location => (location, .file [])

def programAt (path : String) : Option String :=
  directories.findSome? fun directory =>
    if directory.toList.isPrefixOf path.toList then
      some (String.ofList (path.toList.drop directory.length))
    else none

def showFile (state : Shell.State) (file : String) : Shell.State :=
  let complaint := match system.find ⟨file⟩ with
    | .ok (_, .directory) => some "Is a directory"
    | .ok _ => none
    | .error .permissionDenied => some "Permission denied"
    | .error .notDirectory => some "Not a directory"
    | .error _ => some "No such file or directory"
  match complaint with
  | some reason =>
    { state.emit .error (Bytes.ofText ("cat: " ++ file ++ ": " ++ reason ++ "\n")) with code := 1 }
  | none => state

def behaviour (program : String) (arguments : List String) : Option Shell.State :=
  match program, arguments with
  | "true", _ => some {}
  | "false", _ => some { code := 1 }
  | "sleep", _ => some {}
  | "echo", words => some { output := Bytes.ofText (Shell.spaced words) }
  | "printf", _ => some (Shell.State.runWords {} {} (program :: arguments))
  | "sh", "-c" :: text :: arguments => some (Shell.run text arguments)
  | "sh", [] => some {}
  | "cat", files => some (files.foldl showFile {})
  | _, _ => none

def refusal (path : String) : FileError :=
  match system.find ⟨path⟩ with
  | .ok _ => .permissionDenied
  | .error cause => cause

/-- Runs a program. A name without a slash is looked for in the directories of programs. -/
def run (program : String) (arguments : List String) : Except ToolFailure ToolOutput :=
  let name := if program.toList.contains '/' then programAt program else some program
  match name.bind fun name => behaviour name arguments with
  | some final =>
    ToolExit.result program arguments {
      code := final.code
      stdout := Bytes.toTextWithFaults final.output
      stderr := Bytes.toTextWithFaults final.error
    }
  | none =>
    .error (.notStarted program (if program.toList.contains '/' then refusal program else .notFound))

end VirtualLab.Rehearsal.Programs
