import VirtualLab.Bytes
import VirtualLab.Hypervisor.Call

/-!
# Scripts

A script is a computation that asks its surroundings one request at a time and goes on with each
answer. It says nothing of what the answers are: the same script runs against a file system and
tools, against a model of them, or against surroundings that answer anything at all. Every script
ends after finitely many requests.
-/

namespace VirtualLab

structure ToolOutput where
  stdout : String := ""
  stderr : String := ""
  deriving DecidableEq, Repr, Inhabited

/-- What a server answered: the announced length, if any, the parts of the body as far as they
came, and why they ended early if they did. -/
structure Response where
  status : Nat
  announced : Option Nat
  chunks : List Bytes
  interruption : Option String
  deriving DecidableEq, Repr, Inhabited

inductive Request where
  | pathExists (path : Path)
  | isFile (path : Path)
  | createDirectories (path : Path)
  | readFile (path : Path)
  | writeFile (path : Path) (content : Bytes)
  | appendFile (path : Path) (content : Bytes)
  | renameFile (source target : Path)
  | removeFile (path : Path)
  | removeDirectory (path : Path)
  | runTool (tool : String) (arguments : List String)
  | fetch (url : String)
  | hypervisor (call : Hypervisor.Call)
  | currentTime
  | readLine
  | print (text : String)
  deriving DecidableEq, Repr

abbrev Request.Answer : Request → Type
  | .pathExists _ => Bool
  | .isFile _ => Bool
  | .createDirectories _ => Except FileError Unit
  | .readFile _ => Except FileError Bytes
  | .writeFile _ _ => Except FileError Unit
  | .appendFile _ _ => Except FileError Unit
  | .renameFile _ _ => Except FileError Unit
  | .removeFile _ => Except FileError Unit
  | .removeDirectory _ => Except FileError Unit
  | .runTool _ _ => Except ToolFailure ToolOutput
  | .fetch _ => Except String Response
  | .hypervisor call => Except LabError call.Value
  | .currentTime => String
  | .readLine => Except FileError String
  | .print _ => Unit

/-- A computation that ends with a value after asking requests. -/
inductive Script (α : Type) : Type where
  | done (value : α)
  | ask (request : Request) (next : request.Answer → Script α)

namespace Script

variable {α β : Type}

def bind : Script α → (α → Script β) → Script β
  | done value, next => next value
  | ask request answered, next => ask request fun answer => (answered answer).bind next

instance : Monad Script where
  pure := done
  bind := bind

theorem bind_done (script : Script α) : script.bind done = script := by
  induction script with
  | done value => rfl
  | ask request next hypothesis => simp only [bind, hypothesis]

theorem bind_assoc {γ : Type} (script : Script α) (first : α → Script β)
    (second : β → Script γ) :
    (script.bind first).bind second = script.bind fun value => (first value).bind second := by
  induction script with
  | done value => rfl
  | ask request next hypothesis => simp only [bind, hypothesis]

instance : LawfulMonad Script :=
  LawfulMonad.mk' Script
    (fun script => bind_done script)
    (fun _ _ => rfl)
    (fun script first second => bind_assoc script first second)

def request (request : Request) : Script request.Answer := ask request done

def readText (path : Path) : Script (Except FileError String) := do
  let content ← request (.readFile path)
  return content.bind fun bytes =>
    match Bytes.toText? bytes with
    | some text => .ok text
    | none => .error .notUtf8

abbrev Responder (σ : Type) := (request : Request) → σ → request.Answer × σ

def run {σ : Type} (responder : Responder σ) : Script α → σ → α × σ
  | done value, state => (value, state)
  | ask request next, state =>
    (next (responder request state).1).run responder (responder request state).2

theorem run_bind {σ : Type} (responder : Responder σ) (script : Script α) (next : α → Script β)
    (state : σ) :
    (script.bind next).run responder state =
      (next (script.run responder state).1).run responder (script.run responder state).2 := by
  induction script generalizing state with
  | done value => rfl
  | ask request answered hypothesis => simp only [bind, run, hypothesis]

def runM {m : Type → Type} [Monad m] (answer : (request : Request) → m request.Answer) :
    Script α → m α
  | done value => pure value
  | ask request next => do (next (← answer request)).runM answer

/-- The script with each request replaced by the script that answers it. -/
def answering (answerOf : (request : Request) → Script request.Answer) : Script α → Script α
  | done value => done value
  | ask request next => (answerOf request).bind fun answer => (next answer).answering answerOf

end Script

abbrev Attempt (ε α : Type) := ExceptT ε Script α

abbrev LabTask (α : Type) := Attempt LabError α

namespace Attempt

variable {ε α : Type}

def ask (request : Request) : Attempt ε request.Answer := ExceptT.lift (Script.request request)

def orFail {φ : Type} (wrap : φ → ε) : Except φ α → Attempt ε α
  | .ok value => pure value
  | .error cause => throw (wrap cause)

def outcome {φ : Type} (attempt : Attempt ε α) : Attempt φ (Except ε α) := ExceptT.lift attempt.run

def mapError {φ : Type} (wrap : ε → φ) (attempt : Attempt ε α) : Attempt φ α := do
  orFail wrap (← attempt.outcome)

end Attempt

end VirtualLab
