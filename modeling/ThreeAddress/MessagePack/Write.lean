import ThreeAddress.Bytes

/-!
# Writing MessagePack

Every value starts with a byte that tells its form. Where several forms fit, the shortest is
written, apart from unsigned words, which keep their full width.
-/

namespace ThreeAddress.MessagePack

/-- Writes the low bytes of a number, the highest one first. -/
def bigEndian : (width n : Nat) → Bytes
  | 0, _ => []
  | width + 1, n => bigEndian width (n / 256) ++ [UInt8.ofNat (n % 256)]

/-- Writes the value that stands for nothing. -/
def writeNil : Bytes := [0xC0]

/-- Writes a truth value. -/
def writeBool (b : Bool) : Bytes :=
  [if b then 0xC3 else 0xC2]

/-- Writes a 16-bit word in full width. -/
def writeWord16 (n : UInt16) : Bytes :=
  0xCD :: bigEndian 2 n.toNat

/-- Writes a 64-bit word in full width. -/
def writeWord64 (n : UInt64) : Bytes :=
  0xCF :: bigEndian 8 n.toNat

/-- Writes a natural number below 2^64 in the shortest form. -/
def writeNat (n : Nat) : Bytes :=
  if n < 0x80 then [UInt8.ofNat n]
  else if n < UInt8.size then 0xCC :: bigEndian 1 n
  else if n < UInt16.size then 0xCD :: bigEndian 2 n
  else if n < UInt32.size then 0xCE :: bigEndian 4 n
  else 0xCF :: bigEndian 8 n

/-- Writes a 64-bit integer in the shortest form. -/
def writeInt (n : Int64) : Bytes :=
  let v := n.toInt
  if 0 ≤ v then writeNat v.toNat
  else
    let bits := n.toUInt64.toNat
    if -32 ≤ v then [UInt8.ofNat bits]
    else if -0x80 ≤ v then 0xD0 :: bigEndian 1 bits
    else if -0x8000 ≤ v then 0xD1 :: bigEndian 2 bits
    else if -0x80000000 ≤ v then 0xD2 :: bigEndian 4 bits
    else 0xD3 :: bigEndian 8 bits

/-- Writes a text of fewer than 2^32 bytes. -/
def writeText (b : Bytes) : Bytes :=
  let n := b.length
  (if n < 32 then [UInt8.ofNat (0xA0 + n)]
    else if n < UInt8.size then 0xD9 :: bigEndian 1 n
    else if n < UInt16.size then 0xDA :: bigEndian 2 n
    else 0xDB :: bigEndian 4 n) ++ b

/-- Writes a byte string of fewer than 2^8 bytes. -/
def writeBinary (b : Bytes) : Bytes :=
  0xC4 :: bigEndian 1 b.length ++ b

/-- Writes the length of an array of fewer than 2^32 elements. -/
def writeArrayLength (n : Nat) : Bytes :=
  if n < 16 then [UInt8.ofNat (0x90 + n)]
  else if n < UInt16.size then 0xDC :: bigEndian 2 n
  else 0xDD :: bigEndian 4 n

/-- Writes a list of texts; an empty one is written as nothing. -/
def writeTexts (ts : List Bytes) : Bytes :=
  if ts = [] then writeNil else writeArrayLength ts.length ++ ts.flatMap writeText

/-- Writes the length of a map of fewer than 16 entries. -/
def writeMapLength (n : Nat) : Bytes :=
  [UInt8.ofNat (0x80 + n)]

end ThreeAddress.MessagePack
