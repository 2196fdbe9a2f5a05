/-! # SHA-2

The family of hash functions, for words of any width: SHA-256 has words of 32 bits, SHA-384 and
SHA-512 have words of 64. The round constants of the narrow function are the upper halves of
those of the wide ones. -/

namespace Gatehouse.Sha2

abbrev Bytes := List UInt8

/-- The first 64 bits of the fractions of the cube roots of the first eighty primes. -/
def cubeRoots : List Nat :=
  [0x428a2f98d728ae22, 0x7137449123ef65cd, 0xb5c0fbcfec4d3b2f,
   0xe9b5dba58189dbbc, 0x3956c25bf348b538, 0x59f111f1b605d019,
   0x923f82a4af194f9b, 0xab1c5ed5da6d8118, 0xd807aa98a3030242,
   0x12835b0145706fbe, 0x243185be4ee4b28c, 0x550c7dc3d5ffb4e2,
   0x72be5d74f27b896f, 0x80deb1fe3b1696b1, 0x9bdc06a725c71235,
   0xc19bf174cf692694, 0xe49b69c19ef14ad2, 0xefbe4786384f25e3,
   0x0fc19dc68b8cd5b5, 0x240ca1cc77ac9c65, 0x2de92c6f592b0275,
   0x4a7484aa6ea6e483, 0x5cb0a9dcbd41fbd4, 0x76f988da831153b5,
   0x983e5152ee66dfab, 0xa831c66d2db43210, 0xb00327c898fb213f,
   0xbf597fc7beef0ee4, 0xc6e00bf33da88fc2, 0xd5a79147930aa725,
   0x06ca6351e003826f, 0x142929670a0e6e70, 0x27b70a8546d22ffc,
   0x2e1b21385c26c926, 0x4d2c6dfc5ac42aed, 0x53380d139d95b3df,
   0x650a73548baf63de, 0x766a0abb3c77b2a8, 0x81c2c92e47edaee6,
   0x92722c851482353b, 0xa2bfe8a14cf10364, 0xa81a664bbc423001,
   0xc24b8b70d0f89791, 0xc76c51a30654be30, 0xd192e819d6ef5218,
   0xd69906245565a910, 0xf40e35855771202a, 0x106aa07032bbd1b8,
   0x19a4c116b8d2d0c8, 0x1e376c085141ab53, 0x2748774cdf8eeb99,
   0x34b0bcb5e19b48a8, 0x391c0cb3c5c95a63, 0x4ed8aa4ae3418acb,
   0x5b9cca4f7763e373, 0x682e6ff3d6b2b8a3, 0x748f82ee5defb2fc,
   0x78a5636f43172f60, 0x84c87814a1f0ab72, 0x8cc702081a6439ec,
   0x90befffa23631e28, 0xa4506cebde82bde9, 0xbef9a3f7b2c67915,
   0xc67178f2e372532b, 0xca273eceea26619c, 0xd186b8c721c0c207,
   0xeada7dd6cde0eb1e, 0xf57d4f7fee6ed178, 0x06f067aa72176fba,
   0x0a637dc5a2c898a6, 0x113f9804bef90dae, 0x1b710b35131c471b,
   0x28db77f523047d84, 0x32caab7b40c72493, 0x3c9ebe0a15c9bebc,
   0x431d67c49c100d4c, 0x4cc5d4becb3e42b6, 0x597f299cfc657e2a,
   0x5fcb6fab3ad6faec, 0x6c44198c4a475817]

/-- The first 64 bits of the fractions of the square roots of the first eight primes. -/
def squareRoots : List Nat :=
  [0x6a09e667f3bcc908, 0xbb67ae8584caa73b, 0x3c6ef372fe94f82b,
   0xa54ff53a5f1d36f1, 0x510e527fade682d1, 0x9b05688c2b3e6c1f,
   0x1f83d9abfb41bd6b, 0x5be0cd19137e2179]

/-- Likewise for the next eight primes. -/
def laterSquareRoots : List Nat :=
  [0xcbbb9d5dc1059ed8, 0x629a292a367cd507, 0x9159015a3070dd17,
   0x152fecd8f70e5939, 0x67332667ffc00b31, 0x8eb44a8768581511,
   0xdb0c2e0d64f98fa7, 0x47b5481dbefa4fa4]

/-- What tells the functions of the family apart, for words of `8 * wordBytes` bits. -/
structure Variant (width : Nat) where
  wordBytes : Nat
  constants : List (BitVec width)
  initial : List (BitVec width)
  /-- Rotations of the two mixing functions of a round. -/
  mixA : Nat × Nat × Nat
  mixE : Nat × Nat × Nat
  /-- Two rotations and a shift for each of the two functions that extend a block. -/
  extend0 : Nat × Nat × Nat
  extend1 : Nat × Nat × Nat
  /-- Bytes of the digest. -/
  digestBytes : Nat

/-- Words of 32 bits. -/
def sha256 : Variant 32 where
  wordBytes := 4
  constants := (cubeRoots.take 64).map fun k => BitVec.ofNat 32 (k >>> 32)
  initial := squareRoots.map fun h => BitVec.ofNat 32 (h >>> 32)
  mixA := (2, 13, 22)
  mixE := (6, 11, 25)
  extend0 := (7, 18, 3)
  extend1 := (17, 19, 10)
  digestBytes := 32

/-- Words of 64 bits. -/
def sha512 : Variant 64 where
  wordBytes := 8
  constants := cubeRoots.map (BitVec.ofNat 64)
  initial := squareRoots.map (BitVec.ofNat 64)
  mixA := (28, 34, 39)
  mixE := (14, 18, 41)
  extend0 := (1, 8, 7)
  extend1 := (19, 61, 6)
  digestBytes := 64

/-- As `sha512`, but from other words, and cut short. -/
def sha384 : Variant 64 :=
  { sha512 with initial := laterSquareRoots.map (BitVec.ofNat 64), digestBytes := 48 }

variable {width : Nat}

/-! ### Blocks -/

def Variant.blockBytes (v : Variant width) : Nat := 16 * v.wordBytes

/-- The number in `count` bytes, the most significant first. -/
def bigEndian : Nat → Nat → Bytes
  | 0, _ => []
  | count + 1, n => bigEndian count (n / 256) ++ [UInt8.ofNat (n % 256)]

/-- The message, a single bit, zeros up to the end of a block, and the length in bits. -/
def pad (v : Variant width) (message : Bytes) : Bytes :=
  let lengthBytes := 2 * v.wordBytes
  let used := (message.length + 1 + lengthBytes) % v.blockBytes
  let zeros := (v.blockBytes - used) % v.blockBytes
  message ++ 0x80 :: (List.replicate zeros 0 ++ bigEndian lengthBytes (8 * message.length))

/-- The list in pieces of `size`; `fuel` bounds their number. -/
def pieces (size : Nat) : Nat → List α → List (List α)
  | 0, _ => []
  | _, [] => []
  | fuel + 1, xs => xs.take size :: pieces size fuel (xs.drop size)

def word (bytes : Bytes) : BitVec width :=
  BitVec.ofNat width (bytes.foldl (fun acc b => 256 * acc + b.toNat) 0)

/-! ### Rounds -/

def rotations (r : Nat × Nat × Nat) (x : BitVec width) : BitVec width :=
  x.rotateRight r.1 ^^^ x.rotateRight r.2.1 ^^^ x.rotateRight r.2.2

def rotationsAndShift (r : Nat × Nat × Nat) (x : BitVec width) : BitVec width :=
  x.rotateRight r.1 ^^^ x.rotateRight r.2.1 ^^^ (x >>> r.2.2)

/-- The words of a block, then as many as are still missing, each from the sixteen before it. -/
def extend (v : Variant width) (block : List (BitVec width)) : Array (BitVec width) :=
  (List.range (v.constants.length - 16)).foldl (fun ws i =>
    ws.push (rotationsAndShift v.extend1 (ws.getD (i + 14) 0) + ws.getD (i + 9) 0 +
      rotationsAndShift v.extend0 (ws.getD (i + 1) 0) + ws.getD i 0)) block.toArray

/-- The eight words that a digest is worked out in. -/
structure Registers (width : Nat) where
  a : BitVec width
  b : BitVec width
  c : BitVec width
  d : BitVec width
  e : BitVec width
  f : BitVec width
  g : BitVec width
  h : BitVec width

namespace Registers

def ofList : List (BitVec width) → Registers width
  | [a, b, c, d, e, f, g, h] => ⟨a, b, c, d, e, f, g, h⟩
  | _ => ⟨0, 0, 0, 0, 0, 0, 0, 0⟩

def toList (r : Registers width) : List (BitVec width) := [r.a, r.b, r.c, r.d, r.e, r.f, r.g, r.h]

def add (r s : Registers width) : Registers width :=
  ⟨r.a + s.a, r.b + s.b, r.c + s.c, r.d + s.d, r.e + s.e, r.f + s.f, r.g + s.g, r.h + s.h⟩

end Registers

/-- One step with a constant and a word of the block. -/
def round (v : Variant width) (r : Registers width) (constant input : BitVec width) :
    Registers width :=
  let choice := (r.e &&& r.f) ^^^ (~~~r.e &&& r.g)
  let majority := (r.a &&& r.b) ^^^ (r.a &&& r.c) ^^^ (r.b &&& r.c)
  let t := r.h + rotations v.mixE r.e + choice + constant + input
  ⟨t + (rotations v.mixA r.a + majority), r.a, r.b, r.c, r.d + t, r.e, r.f, r.g⟩

/-- Takes in a block. -/
def compress (v : Variant width) (r : Registers width) (block : Bytes) : Registers width :=
  let words := (pieces v.wordBytes 16 block).map word
  let inputs := (extend v words).toList
  r.add ((v.constants.zip inputs).foldl (fun r ki => round v r ki.1 ki.2) r)

/-- The digest of a message. -/
def digest (v : Variant width) (message : Bytes) : Bytes :=
  let padded := pad v message
  let blocks := pieces v.blockBytes (padded.length / v.blockBytes) padded
  let last := blocks.foldl (compress v) (.ofList v.initial)
  (last.toList.flatMap fun w => bigEndian v.wordBytes w.toNat).take v.digestBytes

end Gatehouse.Sha2
