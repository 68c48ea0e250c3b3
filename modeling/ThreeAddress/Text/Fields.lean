import ThreeAddress.Text.Utf8

/-!
# Fields

A line is split into fields at runs of white space, in the sense of Unicode.
-/

namespace ThreeAddress.Fields

/-- Tests for a white space character. -/
def isSpace (c : Char) : Bool :=
  let n := c.toNat
  (9 ≤ n && n ≤ 13) || n == 0x20 || n == 0x85 || n == 0xA0 || n == 0x1680
    || (0x2000 ≤ n && n ≤ 0x200A) || n == 0x2028 || n == 0x2029 || n == 0x202F || n == 0x205F
    || n == 0x3000

/-- Adds a finished field. -/
def close (field : Bytes) (fields : List Bytes) : List Bytes :=
  if field = [] then fields else field :: fields

/-- Splits pieces into fields; `field` holds the bytes of the field being read. -/
def splitPieces (field : Bytes) : List Utf8.Piece → List Bytes
  | [] => close field []
  | p :: ps =>
    if p.valid && isSpace p.char then close field (splitPieces [] ps)
    else splitPieces (field ++ p.bytes) ps

/-- Splits a byte string into its fields. -/
def split (b : Bytes) : List Bytes :=
  splitPieces [] (Utf8.pieces b)

end ThreeAddress.Fields
