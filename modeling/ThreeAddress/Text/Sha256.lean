import ThreeAddress.Bytes

/-!
# SHA-256

The hash function of FIPS 180-4 on byte strings. File contents and cache keys are identified by it.

## Main definitions

* `Sha256.pad` : the message with its length, in whole blocks.
* `Sha256.digest` : the 32 bytes of the hash.
-/

namespace ThreeAddress.Sha256

/-- Rotates a word to the right. -/
def rotate (x : UInt32) (n : UInt32) : UInt32 :=
  (x >>> n) ||| (x <<< (32 - n))

/-- The round constants. -/
def constants : Array UInt32 :=
  #[0x428a2f98, 0x71374491, 0xb5c0fbcf, 0xe9b5dba5, 0x3956c25b, 0x59f111f1, 0x923f82a4, 0xab1c5ed5,
    0xd807aa98, 0x12835b01, 0x243185be, 0x550c7dc3, 0x72be5d74, 0x80deb1fe, 0x9bdc06a7, 0xc19bf174,
    0xe49b69c1, 0xefbe4786, 0x0fc19dc6, 0x240ca1cc, 0x2de92c6f, 0x4a7484aa, 0x5cb0a9dc, 0x76f988da,
    0x983e5152, 0xa831c66d, 0xb00327c8, 0xbf597fc7, 0xc6e00bf3, 0xd5a79147, 0x06ca6351, 0x14292967,
    0x27b70a85, 0x2e1b2138, 0x4d2c6dfc, 0x53380d13, 0x650a7354, 0x766a0abb, 0x81c2c92e, 0x92722c85,
    0xa2bfe8a1, 0xa81a664b, 0xc24b8b70, 0xc76c51a3, 0xd192e819, 0xd6990624, 0xf40e3585, 0x106aa070,
    0x19a4c116, 0x1e376c08, 0x2748774c, 0x34b0bcb5, 0x391c0cb3, 0x4ed8aa4a, 0x5b9cca4f, 0x682e6ff3,
    0x748f82ee, 0x78a5636f, 0x84c87814, 0x8cc70208, 0x90befffa, 0xa4506ceb, 0xbef9a3f7, 0xc67178f2]

/-- The eight working words. -/
structure State where
  /-- First word. -/
  a : UInt32
  /-- Second word. -/
  b : UInt32
  /-- Third word. -/
  c : UInt32
  /-- Fourth word. -/
  d : UInt32
  /-- Fifth word. -/
  e : UInt32
  /-- Sixth word. -/
  f : UInt32
  /-- Seventh word. -/
  g : UInt32
  /-- Eighth word. -/
  h : UInt32
deriving Repr, DecidableEq

/-- The words at the start. -/
def initial : State :=
  ⟨0x6a09e667, 0xbb67ae85, 0x3c6ef372, 0xa54ff53a, 0x510e527f, 0x9b05688c, 0x1f83d9ab, 0x5be0cd19⟩

/-- The big-endian bytes of a number, `n` of them. -/
def bigEndian (n value : Nat) : Bytes :=
  (List.range n).reverse.map fun i => UInt8.ofNat (value >>> (8 * i))

/-- The message with a marker bit, zeros and its length in bits, in whole blocks of 64 bytes. -/
def pad (m : Bytes) : Bytes :=
  let zeros := (119 - m.length % 64) % 64
  m ++ 0x80 :: List.replicate zeros 0 ++ bigEndian 8 (8 * m.length)

/-- Reads bytes as big-endian words. -/
def words : Bytes → List UInt32
  | b0 :: b1 :: b2 :: b3 :: rest =>
    ((b0.toUInt32 <<< 24) ||| (b1.toUInt32 <<< 16) ||| (b2.toUInt32 <<< 8) ||| b3.toUInt32)
      :: words rest
  | _ => []

/-- Extends the schedule by one word. -/
def extend (w : Array UInt32) : Array UInt32 :=
  let n := w.size
  let x := w.getD (n - 15) 0
  let y := w.getD (n - 2) 0
  let s0 := rotate x 7 ^^^ rotate x 18 ^^^ (x >>> 3)
  let s1 := rotate y 17 ^^^ rotate y 19 ^^^ (y >>> 10)
  w.push (w.getD (n - 16) 0 + s0 + w.getD (n - 7) 0 + s1)

/-- The schedule of a block of sixteen words. -/
def schedule (block : List UInt32) : Array UInt32 :=
  (List.range 48).foldl (fun w _ => extend w) block.toArray

/-- One round with its constant and its word of the schedule. -/
def round (s : State) (kw : UInt32 × UInt32) : State :=
  let s1 := rotate s.e 6 ^^^ rotate s.e 11 ^^^ rotate s.e 25
  let choice := (s.e &&& s.f) ^^^ (~~~s.e &&& s.g)
  let t1 := s.h + s1 + choice + kw.1 + kw.2
  let s0 := rotate s.a 2 ^^^ rotate s.a 13 ^^^ rotate s.a 22
  let majority := (s.a &&& s.b) ^^^ (s.a &&& s.c) ^^^ (s.b &&& s.c)
  ⟨t1 + s0 + majority, s.a, s.b, s.c, s.d + t1, s.e, s.f, s.g⟩

/-- Mixes a block into the words. -/
def compress (s : State) (block : List UInt32) : State :=
  let t := (constants.toList.zip (schedule block).toList).foldl round s
  ⟨s.a + t.a, s.b + t.b, s.c + t.c, s.d + t.d, s.e + t.e, s.f + t.f, s.g + t.g, s.h + t.h⟩

/-- Mixes whole blocks of sixteen words, at most `n` of them. -/
def compressAll : (n : Nat) → State → List UInt32 → State
  | 0, s, _ => s
  | n + 1, s, ws => compressAll n (compress s (ws.take 16)) (ws.drop 16)

/-- The hash of a byte string. -/
def digest (m : Bytes) : Bytes :=
  let ws := words (pad m)
  let s := compressAll (ws.length / 16) initial ws
  [s.a, s.b, s.c, s.d, s.e, s.f, s.g, s.h].flatMap fun w => bigEndian 4 w.toNat

end ThreeAddress.Sha256
