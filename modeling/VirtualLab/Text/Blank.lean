/-!
# Blank characters

A character is blank when it has the property White_Space. Trimming and cutting into words go by
this class, so a no-break space or an ideographic space separates words, while a zero-width space
does not. Results are stated on lists of characters; the functions on strings only convert.
-/

namespace VirtualLab.Text

def isBlank (character : Char) : Bool :=
  let code := character.toNat
  (0x09 ≤ code && code ≤ 0x0D) || code == 0x20 || code == 0x85 || code == 0xA0 ||
    code == 0x1680 || (0x2000 ≤ code && code ≤ 0x200A) || code == 0x2028 || code == 0x2029 ||
    code == 0x202F || code == 0x205F || code == 0x3000

def trimStart (text : List Char) : List Char := text.dropWhile isBlank

def trimEnd (text : List Char) : List Char := (text.reverse.dropWhile isBlank).reverse

def trimmed (text : List Char) : List Char := trimEnd (trimStart text)

def trim (text : String) : String := String.ofList (trimmed text.toList)

def isBlankText (text : String) : Bool := text.toList.all isBlank

/-- The pieces between the separators, empty pieces included: one more than there are
separators. -/
def pieces (isSeparator : Char → Bool) : List Char → List (List Char)
  | [] => [[]]
  | character :: rest =>
    if isSeparator character then [] :: pieces isSeparator rest
    else
      match pieces isSeparator rest with
      | [] => [[character]]
      | first :: others => (character :: first) :: others

/-- The longest runs of characters that are not blank, in order. -/
def words (text : List Char) : List (List Char) :=
  (pieces isBlank text).filter fun word => !word.isEmpty

end VirtualLab.Text
