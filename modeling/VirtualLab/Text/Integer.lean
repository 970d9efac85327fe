/-!
# Reading integers

Whole numbers as a program prints them: an optional sign and at least one digit, nothing else.
-/

namespace VirtualLab.Text

def digitValue (character : Char) : Option Nat :=
  if '0' ≤ character && character ≤ '9' then some (character.toNat - '0'.toNat)
  else if 'a' ≤ character && character ≤ 'f' then some (character.toNat - 'a'.toNat + 10)
  else if 'A' ≤ character && character ≤ 'F' then some (character.toNat - 'A'.toNat + 10)
  else none

/-- The number that the digits write in `base`, given the value of those before them. -/
def digitsValue (base : Nat) : Nat → List Char → Option Nat
  | value, [] => some value
  | value, character :: rest =>
    match digitValue character with
    | some digit =>
      if digit < base then digitsValue base (value * base + digit) rest else none
    | none => none

def readNatural (base : Nat) (text : List Char) : Option Nat :=
  if text.isEmpty then none else digitsValue base 0 text

def leastInteger : Int := -9223372036854775808

def greatestInteger : Int := 9223372036854775807

/-- A decimal integer of 64 bits with an optional sign. -/
def readInteger (text : List Char) : Option Int :=
  let signed : Option Int :=
    match text with
    | '-' :: digits => (readNatural 10 digits).map fun value => -(value : Int)
    | '+' :: digits => (readNatural 10 digits).map fun value => (value : Int)
    | digits => (readNatural 10 digits).map fun value => (value : Int)
  signed.filter fun value => leastInteger ≤ value && value ≤ greatestInteger

end VirtualLab.Text
