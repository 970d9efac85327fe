import VirtualLab.Text.Integer

/-!
# Bytes

The content of files and of what is sent over a network.
-/

namespace VirtualLab

abbrev Bytes := List UInt8

namespace Bytes

def ofText (text : String) : Bytes := text.toUTF8.toList

def toText? (bytes : Bytes) : Option String := String.fromUTF8? ⟨bytes.toArray⟩

def toHex (bytes : Bytes) : String :=
  String.ofList <| bytes.flatMap fun byte =>
    [Nat.digitChar (byte.toNat / 16), Nat.digitChar (byte.toNat % 16)]

def ofHexDigits : List Char → Option Bytes
  | [] => some []
  | high :: low :: rest => do
    let high ← Text.digitValue high
    let low ← Text.digitValue low
    return UInt8.ofNat (high * 16 + low) :: (← ofHexDigits rest)
  | [_] => none

/-! ## Text with faults

Bytes that are not those of a text are read as far as they go: each longest run of bytes that could
begin a character but does not become one is read as the replacement character.
-/

/-- A character of which some bytes have been read: its value so far, how many bytes are missing,
and the least and the greatest byte that may come next. -/
structure PartialCharacter where
  value : Nat
  missing : Nat
  least : UInt8
  greatest : UInt8
  deriving DecidableEq, Repr, Inhabited

def replacementCharacter : Char := '\uFFFD'

def beginCharacter (byte : UInt8) : List Char × Option PartialCharacter :=
  if byte < 0x80 then ([Char.ofNat byte.toNat], none)
  else if 0xC2 ≤ byte ∧ byte ≤ 0xDF then ([], some ⟨byte.toNat - 0xC0, 1, 0x80, 0xBF⟩)
  else if byte = 0xE0 then ([], some ⟨0, 2, 0xA0, 0xBF⟩)
  else if byte = 0xED then ([], some ⟨0xD, 2, 0x80, 0x9F⟩)
  else if 0xE1 ≤ byte ∧ byte ≤ 0xEF then ([], some ⟨byte.toNat - 0xE0, 2, 0x80, 0xBF⟩)
  else if byte = 0xF0 then ([], some ⟨0, 3, 0x90, 0xBF⟩)
  else if 0xF1 ≤ byte ∧ byte ≤ 0xF3 then ([], some ⟨byte.toNat - 0xF0, 3, 0x80, 0xBF⟩)
  else if byte = 0xF4 then ([], some ⟨4, 3, 0x80, 0x8F⟩)
  else ([replacementCharacter], none)

def readOn : Option PartialCharacter → Bytes → List Char
  | none, [] => []
  | some _, [] => [replacementCharacter]
  | none, byte :: rest => (beginCharacter byte).1 ++ readOn (beginCharacter byte).2 rest
  | some begun, byte :: rest =>
    if begun.least ≤ byte ∧ byte ≤ begun.greatest then
      let value := begun.value * 0x40 + (byte.toNat - 0x80)
      if begun.missing = 1 then Char.ofNat value :: readOn none rest
      else readOn (some ⟨value, begun.missing - 1, 0x80, 0xBF⟩) rest
    else
      replacementCharacter :: (beginCharacter byte).1 ++ readOn (beginCharacter byte).2 rest

def toTextWithFaults (bytes : Bytes) : String := String.ofList (readOn none bytes)

end Bytes

end VirtualLab
