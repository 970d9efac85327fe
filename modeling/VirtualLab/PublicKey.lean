import VirtualLab.Script

/-!
# Public keys

A machine may be given the key of its user as a key line or as the path of a file that holds one. A
key line has an accepted type, a body of base64 characters and at most one word of comment.
-/

namespace VirtualLab.PublicKey

def keyTypes : List String := ["ssh-rsa", "ssh-dss", "ssh-ed25519"]

def isBodyCharacter (character : Char) : Bool :=
  character.isAlphanum || character == '+' || character == '/' || character == '='

def areKeyWords : List (List Char) → Bool
  | [kind, body] | [kind, body, _] =>
    keyTypes.contains (String.ofList kind) && body.all isBodyCharacter
  | _ => false

def isKeyLine (text : String) : Bool := areKeyWords (Text.words text.toList)

/-- The value names a file: it has a slash or a tilde. -/
def looksLikePath (value : String) : Bool :=
  value.toList.any fun character => character == '~' || character == '/'

/-- The key line that a configured value stands for: itself, or what its file holds. -/
def resolve (home : Option Path) (value : String) : LabTask String := do
  let value := Text.trim value
  if isKeyLine value then return value
  if !looksLikePath value then throw (.config (.keyNeitherLineNorPath value))
  let path := Path.expandHome home value
  let content ← Attempt.orFail (fun cause => .config (.keyUnreadable path cause))
    (← ExceptT.lift (Script.readText path))
  let key := Text.trim content
  if isKeyLine key then return key
  throw (.config (.keyFileWithoutKey path))

end VirtualLab.PublicKey
