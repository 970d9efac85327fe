import VirtualLab.Text.Blank
import VirtualLab.Text.Split

/-!
# The network in a rehearsal

A rehearsal runs without a network. This module gives the reason for which a download from a URL
then fails: the URL may have no scheme, one that is not downloaded from, or no host; otherwise its
host cannot be found or reached.
-/

namespace VirtualLab.Rehearsal.Network

structure Url where
  scheme : String
  authority : String
  target : String
  deriving DecidableEq, Repr, Inhabited

namespace Url

def isScheme : List Char → Bool
  | [] => false
  | first :: rest =>
    first.isAlpha && rest.all fun character => character.isAlphanum || "+-.".toList.contains character

def endsAuthority (character : Char) : Bool := "/\\?#".toList.contains character

/-- A character that stands in a URL only by the numbers of its bytes. -/
def isEncoded (character : Char) : Bool :=
  character.toNat ≤ 0x20 || 0x7E < character.toNat || "\"<>`".toList.contains character

def percentDigits (byte : UInt8) : List Char :=
  ['%', (Nat.digitChar (byte.toNat / 16)).toUpper, (Nat.digitChar (byte.toNat % 16)).toUpper]

def encoded (text : List Char) : List Char :=
  text.flatMap fun character =>
    if isEncoded character then character.toString.toUTF8.toList.flatMap percentDigits
    else [character]

/-- The parts of a URL that has a scheme. The scheme and the host are read in lower case, and an
empty path is a slash. -/
def ofText (text : String) : Option Url := do
  let (scheme, rest) ← Text.splitFirst [':'] (Text.trimmed text.toList)
  if !isScheme scheme then none
  let rest := rest.dropWhile fun character => character == '/' || character == '\\'
  let target := rest.dropWhile fun character => !endsAuthority character
  return {
    scheme := String.ofList (Text.lower scheme)
    authority := String.ofList (Text.lower (rest.takeWhile fun character => !endsAuthority character))
    target :=
      String.ofList (if target.head? = some '/' then encoded target else '/' :: encoded target)
  }

def text (url : Url) : String := url.scheme ++ "://" ++ url.authority ++ url.target

def isNumeric (url : Url) : Bool :=
  (Text.before ':' url.authority.toList).all fun character => character.isDigit || character == '.'

end Url

def refusal (text : String) : String :=
  match Url.ofText text with
  | none => "builder error: relative URL without a base"
  | some url =>
    if url.scheme = "http" ∨ url.scheme = "https" then
      if url.authority.isEmpty then "builder error: empty host"
      else
        "error sending request for url (" ++ url.text ++ "): error trying to connect: " ++
          if url.isNumeric then "tcp connect error: Network is unreachable (os error 101)"
          else "dns error: failed to lookup address information: Temporary failure in name resolution"
    else "builder error for url (" ++ text ++ "): URL scheme is not allowed"

end VirtualLab.Rehearsal.Network
