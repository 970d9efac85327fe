import VirtualLab.Text.Integer
import VirtualLab.Text.Split

/-!
# What plain scalars stand for

A plain scalar may stand for nothing, a truth value or a number. These rules decide how a field is
read, and which texts have to be quoted so that they are read back as texts.
-/

namespace VirtualLab.Yaml.Scalar

def isNull (text : String) : Bool := ["~", "null", "Null", "NULL"].contains text

def readFlag (text : String) : Option Bool :=
  if ["true", "True", "TRUE"].contains text then some true
  else if ["false", "False", "FALSE"].contains text then some false
  else none

/-- More than one digit, the first of them zero: not a number, though all are digits. A sign may
come before them. -/
def isZeroPadded (text : List Char) : Bool :=
  let digits :=
    match text with
    | '-' :: rest | '+' :: rest => rest
    | _ => text
  1 < digits.length && digits.head? == some '0' && digits.all Char.isDigit

private def dropPlus : List Char → List Char
  | '+' :: rest => rest
  | text => text

private def startsWithSign (text : List Char) : Bool :=
  text.head? == some '+' || text.head? == some '-'

def radix : List Char → Nat × List Char
  | '0' :: 'x' :: digits => (16, digits)
  | '0' :: 'o' :: digits => (8, digits)
  | '0' :: 'b' :: digits => (2, digits)
  | digits => (10, digits)

/-- A number without a minus sign, below `bound`: decimal without padding, or with a base named at
its start. -/
def readUnsigned (bound : Nat) (text : List Char) : Option Nat :=
  let (base, digits) := radix (dropPlus text)
  if base = 10 && isZeroPadded text then none
  else (Text.readNatural base digits).filter (· < bound)

/-- The text is a number with a minus sign, at least minus `bound`. -/
def isNegative (bound : Nat) (text : List Char) : Bool :=
  match text with
  | '-' :: rest =>
    let (base, digits) := radix rest
    !(base = 10 && isZeroPadded text) &&
      ((Text.readNatural base digits).filter (· ≤ bound)).isSome
  | _ => false

structure Decimal where
  whole : List Char
  fraction : List Char
  exponent : Int

def readExponent : List Char → Option Int
  | [] => some 0
  | letter :: rest =>
    if letter = 'e' || letter = 'E' then
      match rest with
      | '-' :: digits => (Text.readNatural 10 digits).map fun value => -(value : Int)
      | '+' :: digits => (Text.readNatural 10 digits).map fun value => (value : Int)
      | digits => (Text.readNatural 10 digits).map fun value => (value : Int)
    else none

def readDecimal (text : List Char) : Option Decimal :=
  let whole := text.takeWhile Char.isDigit
  let rest := text.dropWhile Char.isDigit
  let (fraction, rest) :=
    match rest with
    | '.' :: tail => (tail.takeWhile Char.isDigit, tail.dropWhile Char.isDigit)
    | _ => ([], rest)
  if whole.isEmpty && fraction.isEmpty then none
  else (readExponent rest).map fun exponent => ⟨whole, fraction, exponent⟩

/-- Half a unit above the greatest double: decimals from here on have no finite double. -/
def doubleBound : Nat := Nat.pow 2 1024 - Nat.pow 2 970

def Decimal.isFinite (decimal : Decimal) : Bool :=
  match Text.readNatural 10 (decimal.whole ++ decimal.fraction) with
  | none | some 0 => true
  | some mantissa =>
    let exponent := decimal.exponent - decimal.fraction.length
    if exponent < 0 then
      -- A decimal with this many digits after the point is far below the bound.
      if (decimal.whole.length : Int) + decimal.exponent < 300 then true
      else mantissa < doubleBound * Nat.pow 10 exponent.natAbs
    else if exponent < 400 then mantissa * Nat.pow 10 exponent.toNat < doubleBound
    else false

def isFloat (text : List Char) : Bool :=
  let unsigned := dropPlus text
  if text.head? = some '+' && startsWithSign unsigned then false
  else
    let named := String.ofList text
    [".inf", ".Inf", ".INF"].contains (String.ofList unsigned) ||
      ["-.inf", "-.Inf", "-.INF", ".nan", ".NaN", ".NAN"].contains named ||
      match readDecimal (match unsigned with | '-' :: rest => rest | _ => unsigned) with
      | some decimal => decimal.isFinite
      | none => false

/-- As a plain scalar the text would stand for something else than itself, or could be taken for a
number. -/
def isAmbiguous (text : String) : Bool :=
  let characters := text.toList
  text.isEmpty || isNull text || (readFlag text).isSome || isZeroPadded characters ||
    (readUnsigned (Nat.pow 2 128) characters).isSome || isNegative (Nat.pow 2 127) characters ||
    isFloat characters

end VirtualLab.Yaml.Scalar
