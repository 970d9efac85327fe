import VirtualLab.Bytes
import VirtualLab.Image.Checksum

/-!
# Digests

The two digests with 256 and 512 bits are one construction at two word sizes: the message is padded
to whole blocks of sixteen words, and each block is mixed into eight words of state. What differs
between the two is a record: word size, constants and rotations. Words are kept in 64 bits, of
which a construction with shorter words leaves the upper ones zero.
-/

namespace VirtualLab

namespace Digest

/-- Three words made from one, combined by exclusive or: two rotations and a rotation or shift. -/
structure Mixing where
  first : UInt64
  second : UInt64
  third : UInt64
  deriving Repr

structure Construction where
  wordBits : UInt64
  greatestWord : UInt64
  initial : List UInt64
  constants : Array UInt64
  stateLow : Mixing
  stateHigh : Mixing
  scheduleLow : Mixing
  scheduleHigh : Mixing

def initial256 : List UInt64 := [
  0x6a09e667, 0xbb67ae85, 0x3c6ef372, 0xa54ff53a, 0x510e527f, 0x9b05688c, 0x1f83d9ab,
  0x5be0cd19]

def constants256 : Array UInt64 := #[
  0x428a2f98, 0x71374491, 0xb5c0fbcf, 0xe9b5dba5, 0x3956c25b, 0x59f111f1, 0x923f82a4,
  0xab1c5ed5, 0xd807aa98, 0x12835b01, 0x243185be, 0x550c7dc3, 0x72be5d74, 0x80deb1fe,
  0x9bdc06a7, 0xc19bf174, 0xe49b69c1, 0xefbe4786, 0x0fc19dc6, 0x240ca1cc, 0x2de92c6f,
  0x4a7484aa, 0x5cb0a9dc, 0x76f988da, 0x983e5152, 0xa831c66d, 0xb00327c8, 0xbf597fc7,
  0xc6e00bf3, 0xd5a79147, 0x06ca6351, 0x14292967, 0x27b70a85, 0x2e1b2138, 0x4d2c6dfc,
  0x53380d13, 0x650a7354, 0x766a0abb, 0x81c2c92e, 0x92722c85, 0xa2bfe8a1, 0xa81a664b,
  0xc24b8b70, 0xc76c51a3, 0xd192e819, 0xd6990624, 0xf40e3585, 0x106aa070, 0x19a4c116,
  0x1e376c08, 0x2748774c, 0x34b0bcb5, 0x391c0cb3, 0x4ed8aa4a, 0x5b9cca4f, 0x682e6ff3,
  0x748f82ee, 0x78a5636f, 0x84c87814, 0x8cc70208, 0x90befffa, 0xa4506ceb, 0xbef9a3f7,
  0xc67178f2]

def sha256 : Construction where
  wordBits := 32
  greatestWord := 0xffffffff
  initial := initial256
  constants := constants256
  stateLow := ⟨2, 13, 22⟩
  stateHigh := ⟨6, 11, 25⟩
  scheduleLow := ⟨7, 18, 3⟩
  scheduleHigh := ⟨17, 19, 10⟩

def initial512 : List UInt64 := [
  0x6a09e667f3bcc908, 0xbb67ae8584caa73b, 0x3c6ef372fe94f82b, 0xa54ff53a5f1d36f1,
  0x510e527fade682d1, 0x9b05688c2b3e6c1f, 0x1f83d9abfb41bd6b, 0x5be0cd19137e2179]

def constants512 : Array UInt64 := #[
  0x428a2f98d728ae22, 0x7137449123ef65cd, 0xb5c0fbcfec4d3b2f, 0xe9b5dba58189dbbc,
  0x3956c25bf348b538, 0x59f111f1b605d019, 0x923f82a4af194f9b, 0xab1c5ed5da6d8118,
  0xd807aa98a3030242, 0x12835b0145706fbe, 0x243185be4ee4b28c, 0x550c7dc3d5ffb4e2,
  0x72be5d74f27b896f, 0x80deb1fe3b1696b1, 0x9bdc06a725c71235, 0xc19bf174cf692694,
  0xe49b69c19ef14ad2, 0xefbe4786384f25e3, 0x0fc19dc68b8cd5b5, 0x240ca1cc77ac9c65,
  0x2de92c6f592b0275, 0x4a7484aa6ea6e483, 0x5cb0a9dcbd41fbd4, 0x76f988da831153b5,
  0x983e5152ee66dfab, 0xa831c66d2db43210, 0xb00327c898fb213f, 0xbf597fc7beef0ee4,
  0xc6e00bf33da88fc2, 0xd5a79147930aa725, 0x06ca6351e003826f, 0x142929670a0e6e70,
  0x27b70a8546d22ffc, 0x2e1b21385c26c926, 0x4d2c6dfc5ac42aed, 0x53380d139d95b3df,
  0x650a73548baf63de, 0x766a0abb3c77b2a8, 0x81c2c92e47edaee6, 0x92722c851482353b,
  0xa2bfe8a14cf10364, 0xa81a664bbc423001, 0xc24b8b70d0f89791, 0xc76c51a30654be30,
  0xd192e819d6ef5218, 0xd69906245565a910, 0xf40e35855771202a, 0x106aa07032bbd1b8,
  0x19a4c116b8d2d0c8, 0x1e376c085141ab53, 0x2748774cdf8eeb99, 0x34b0bcb5e19b48a8,
  0x391c0cb3c5c95a63, 0x4ed8aa4ae3418acb, 0x5b9cca4f7763e373, 0x682e6ff3d6b2b8a3,
  0x748f82ee5defb2fc, 0x78a5636f43172f60, 0x84c87814a1f0ab72, 0x8cc702081a6439ec,
  0x90befffa23631e28, 0xa4506cebde82bde9, 0xbef9a3f7b2c67915, 0xc67178f2e372532b,
  0xca273eceea26619c, 0xd186b8c721c0c207, 0xeada7dd6cde0eb1e, 0xf57d4f7fee6ed178,
  0x06f067aa72176fba, 0x0a637dc5a2c898a6, 0x113f9804bef90dae, 0x1b710b35131c471b,
  0x28db77f523047d84, 0x32caab7b40c72493, 0x3c9ebe0a15c9bebc, 0x431d67c49c100d4c,
  0x4cc5d4becb3e42b6, 0x597f299cfc657e2a, 0x5fcb6fab3ad6faec, 0x6c44198c4a475817]

def sha512 : Construction where
  wordBits := 64
  greatestWord := 0xffffffffffffffff
  initial := initial512
  constants := constants512
  stateLow := ⟨28, 34, 39⟩
  stateHigh := ⟨14, 18, 41⟩
  scheduleLow := ⟨1, 8, 7⟩
  scheduleHigh := ⟨19, 61, 6⟩

structure State where
  (a b c d e f g h : UInt64)

namespace State

def toList (state : State) : List UInt64 :=
  [state.a, state.b, state.c, state.d, state.e, state.f, state.g, state.h]

def ofList (words : List UInt64) : State :=
  let word := fun index => words.getD index 0
  ⟨word 0, word 1, word 2, word 3, word 4, word 5, word 6, word 7⟩

end State

namespace Construction

def trim (construction : Construction) (sum : UInt64) : UInt64 := sum &&& construction.greatestWord

def rotate (construction : Construction) (word count : UInt64) : UInt64 :=
  construction.trim ((word >>> count) ||| (word <<< (construction.wordBits - count)))

def rotations (construction : Construction) (mixing : Mixing) (word : UInt64) : UInt64 :=
  construction.rotate word mixing.first ^^^ construction.rotate word mixing.second ^^^
    construction.rotate word mixing.third

def rotationsAndShift (construction : Construction) (mixing : Mixing) (word : UInt64) : UInt64 :=
  construction.rotate word mixing.first ^^^ construction.rotate word mixing.second ^^^
    (word >>> mixing.third)

def wordSize (construction : Construction) : Nat := construction.wordBits.toNat / 8

def blockSize (construction : Construction) : Nat := 16 * construction.wordSize

def bigEndian : (count value : Nat) → Bytes
  | 0, _ => []
  | count + 1, value => bigEndian count (value / 256) ++ [UInt8.ofNat value]

/-- A one bit, zero bits up to the end of a block, and at that end the length in bits. -/
def padding (construction : Construction) (length : Nat) : Bytes :=
  let lengthSize := 2 * construction.wordSize
  let excess := (length + 1 + lengthSize) % construction.blockSize
  let zeros := if excess = 0 then 0 else construction.blockSize - excess
  0x80 :: List.replicate zeros 0 ++ bigEndian lengthSize (8 * length)

def wordAt (construction : Construction) (message : Array UInt8) (position : Nat) : UInt64 :=
  (List.range construction.wordSize).foldl
    (fun value offset => (value <<< 8) ||| (message.getD (position + offset) 0).toUInt64) 0

def blockAt (construction : Construction) (message : Array UInt8) (position : Nat) :
    Array UInt64 :=
  Array.ofFn fun index : Fin 16 =>
    construction.wordAt message (position + index.val * construction.wordSize)

/-- One word for every round: those of the block, then each from four earlier ones. -/
def schedule (construction : Construction) (block : Array UInt64) : Array UInt64 :=
  (List.range (construction.constants.size - 16)).foldl
    (fun words index =>
      words.push <| construction.trim <|
        construction.rotationsAndShift construction.scheduleHigh (words.getD (index + 14) 0) +
          words.getD (index + 9) 0 +
          construction.rotationsAndShift construction.scheduleLow (words.getD (index + 1) 0) +
          words.getD index 0)
    block

def round (construction : Construction) (state : State) (constant word : UInt64) : State :=
  let choice := (state.e &&& state.f) ^^^ (~~~state.e &&& state.g)
  let majority := (state.a &&& state.b) ^^^ (state.a &&& state.c) ^^^ (state.b &&& state.c)
  let first :=
    state.h + construction.rotations construction.stateHigh state.e + choice + constant + word
  let second := construction.rotations construction.stateLow state.a + majority
  ⟨construction.trim (first + second), state.a, state.b, state.c,
    construction.trim (state.d + first), state.e, state.f, state.g⟩

def add (construction : Construction) (left right : State) : State :=
  State.ofList <|
    List.zipWith (fun one other => construction.trim (one + other)) left.toList right.toList

def compress (construction : Construction) (state : State) (block : Array UInt64) : State :=
  let words := construction.schedule block
  construction.add state <|
    (List.range construction.constants.size).foldl
      (fun state index =>
        construction.round state (construction.constants.getD index 0) (words.getD index 0))
      state

def digest (construction : Construction) (message : Bytes) : Bytes :=
  let padded := (message ++ construction.padding message.length).toArray
  let final :=
    (List.range (padded.size / construction.blockSize)).foldl
      (fun state index =>
        construction.compress state
          (construction.blockAt padded (index * construction.blockSize)))
      (State.ofList construction.initial)
  final.toList.flatMap fun word => bigEndian construction.wordSize word.toNat

end Construction

end Digest

def ChecksumAlgorithm.digest (algorithm : ChecksumAlgorithm) (content : Bytes) : String :=
  match algorithm with
  | sha256 => (Digest.sha256.digest content).toHex
  | sha512 => (Digest.sha512.digest content).toHex

end VirtualLab
