import VirtualLab.Text.Split

/-!
# Paths

A path is kept as it was written, so that messages and tool arguments show it unchanged. What it
names is read off its components: empty segments and single dots between slashes count for
nothing.
-/

namespace VirtualLab

structure Path where
  text : String
  deriving DecidableEq, Repr, Inhabited

namespace Path

def isAbsolute (path : Path) : Bool := path.text.toList.head? == some '/'

/-- The path `part` as seen from `base`. An absolute part stands alone; otherwise one slash comes
between the two unless the base is empty or already ends in one. -/
def join (base : Path) (part : String) : Path :=
  if part.toList.head? = some '/' then ⟨part⟩
  else if base.text.toList.isEmpty || base.text.toList.getLast? = some '/' then ⟨base.text ++ part⟩
  else ⟨base.text ++ "/" ++ part⟩

def withSuffix (path : Path) (suffix : String) : Path := ⟨path.text ++ suffix⟩

/-- The segments between slashes, empty ones included. -/
def segments (text : List Char) : List (List Char) := Text.pieces (· == '/') text

def isTrivial (segment : List Char) : Bool := segment.isEmpty || segment == ['.']

/-- The start of a path that is kept whatever is cut off its end, and the segments after it. The
start is the slash of an absolute path or the leading dot of a relative one. -/
def rootAndSegments (path : Path) : String × List (List Char) :=
  match path.text.toList with
  | '/' :: rest => ("/", segments rest)
  | ['.'] => (".", [])
  | '.' :: '/' :: rest => (".", segments ('/' :: rest))
  | text => ("", segments text)

def dropTrivialEnd (parts : List (List Char)) : List (List Char) :=
  (parts.reverse.dropWhile isTrivial).reverse

def ofRootAndSegments (root : String) (parts : List (List Char)) : Path :=
  ⟨root ++ Text.joined "/" (parts.map String.ofList)⟩

def parent (path : Path) : Option Path :=
  let (root, parts) := path.rootAndSegments
  match (dropTrivialEnd parts).reverse with
  | [] => if root = "." then some ⟨""⟩ else none
  | _ :: earlier => some (ofRootAndSegments root (dropTrivialEnd earlier.reverse))

/-- The last name of a path; none where the path ends in the root, a dot or two dots. -/
def fileName (path : Path) : Option String :=
  match (dropTrivialEnd path.rootAndSegments.2).reverse with
  | [] => none
  | last :: _ => if last = ['.', '.'] then none else some (String.ofList last)

def names (path : Path) : List String :=
  ((segments path.text.toList).filter fun segment => !isTrivial segment).map String.ofList

/-- The path of the home directory in place of a leading tilde. Without a home directory the tilde
stays. -/
def expandHome (home : Option Path) (text : String) : Path :=
  match home, text.toList with
  | some directory, ['~'] => directory
  | some directory, '~' :: '/' :: rest => directory.join (String.ofList rest)
  | _, _ => ⟨text⟩

end Path

end VirtualLab
