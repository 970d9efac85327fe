import VirtualLab.Error
import VirtualLab.Text.Integer

/-!
# Checksum files

A checksum file lists digests of files in one of two forms: `SHA256 (name) = digest`, and a digest
followed by the name, which a star may mark as binary. All other lines say nothing; they may be
the armour of a signature. A name that is listed twice has its last digest.
-/

namespace VirtualLab

inductive ChecksumAlgorithm where
  | sha256
  | sha512
  deriving DecidableEq, Repr, Inhabited

namespace ChecksumAlgorithm

def parse (value : String) : Except LabError ChecksumAlgorithm :=
  let name := String.ofList (Text.lower (Text.trimmed value.toList))
  if name = "sha256" then .ok sha256
  else if name = "sha512" then .ok sha512
  else .error (.config (.unsupportedAlgorithm name))

end ChecksumAlgorithm

structure ChecksumEntry where
  file : String
  digest : String
  deriving DecidableEq, Repr, Inhabited

namespace ChecksumEntry

/-- The line says nothing by its form: it is empty, a comment or a line of signature armour. -/
def isNoise (line : List Char) : Bool :=
  line.isEmpty || line.head? == some '#' || "-----".toList.isPrefixOf line

/-- Reads `SHA256 (name) = digest`, for any algorithm whose name starts so. -/
def ofTagged (line : List Char) : Option ChecksumEntry := do
  let (head, digest) ← Text.splitFirst ") = ".toList line
  let (algorithm, file) ← Text.splitFirst " (".toList head
  if "SHA".toList.isPrefixOf algorithm then
    some ⟨String.ofList file, String.ofList (Text.lower (Text.trimmed digest))⟩
  else none

/-- Reads a digest and a file name as the only two words of a line. -/
def ofWords (line : List Char) : Option ChecksumEntry :=
  match Text.words line with
  | [digest, file] =>
    if digest.all fun character => (Text.digitValue character).isSome then
      let name := if file.head? = some '*' then file.tail else file
      some ⟨String.ofList name, String.ofList (Text.lower digest)⟩
    else none
  | _ => none

def ofLine (line : List Char) : Option ChecksumEntry :=
  let line := Text.trimmed line
  if isNoise line then none else (ofTagged line).or (ofWords line)

def ofText (content : String) : List ChecksumEntry :=
  (Text.lines content.toList).filterMap ofLine

/-- The digest that the entries list for a file: that of its last entry. -/
def digestOf (entries : List ChecksumEntry) (file : String) : Option String :=
  (entries.reverse.find? (·.file == file)).map (·.digest)

end ChecksumEntry

end VirtualLab
