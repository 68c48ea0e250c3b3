import ThreeAddress.Bytes

/-!
# Reading UTF-8

A byte string is read character by character. A byte that starts no valid encoding counts as one
piece of its own and reads as the replacement character U+FFFD.

## Main definitions

* `Utf8.decode?` : the character at the front of a byte string with its number of bytes.
* `Utf8.pieces` : the whole byte string as a list of pieces.
* `Utf8.isValid` : every piece is a proper encoding.
-/

namespace ThreeAddress.Utf8

/-- Stands for a byte that starts no valid encoding. -/
def replacement : Char := Char.ofNat 0xFFFD

/-- Tests whether a byte lies in a closed range. -/
def between (lo hi b : UInt8) : Bool :=
  decide (lo ≤ b) && decide (b ≤ hi)

/-- The six payload bits of a continuation byte. -/
def payload (b : UInt8) : Nat :=
  b.toNat % 64

/-- Reads the valid encoding at the front of a byte string: the character and its number of bytes.
Overlong forms, surrogates and values above U+10FFFF are no encodings. -/
def encoding? : Bytes → Option (Char × Nat)
  | [] => none
  | b0 :: rest =>
    if b0 < 0x80 then
      some (Char.ofNat b0.toNat, 1)
    else if between 0xC2 0xDF b0 then
      match rest with
      | b1 :: _ =>
        if between 0x80 0xBF b1 then
          some (Char.ofNat (b0.toNat % 32 * 64 + payload b1), 2)
        else none
      | _ => none
    else if between 0xE0 0xEF b0 then
      match rest with
      | b1 :: b2 :: _ =>
        let lo := if b0 == 0xE0 then 0xA0 else 0x80
        let hi := if b0 == 0xED then 0x9F else 0xBF
        if between lo hi b1 && between 0x80 0xBF b2 then
          some (Char.ofNat (b0.toNat % 16 * 4096 + payload b1 * 64 + payload b2), 3)
        else none
      | _ => none
    else if between 0xF0 0xF4 b0 then
      match rest with
      | b1 :: b2 :: b3 :: _ =>
        let lo := if b0 == 0xF0 then 0x90 else 0x80
        let hi := if b0 == 0xF4 then 0x8F else 0xBF
        if between lo hi b1 && between 0x80 0xBF b2 && between 0x80 0xBF b3 then
          some (Char.ofNat (b0.toNat % 8 * 262144 + payload b1 * 4096 + payload b2 * 64
            + payload b3), 4)
        else none
      | _ => none
    else none

/-- Reads the character at the front of a byte string with its number of bytes. -/
def decode? : Bytes → Option (Char × Nat)
  | [] => none
  | b :: rest => some ((encoding? (b :: rest)).getD (replacement, 1))

/-- A stretch of bytes that reads as one character. -/
structure Piece where
  /-- The character read. -/
  char : Char
  /-- The bytes it was read from. -/
  bytes : Bytes
  /-- Whether the bytes are the encoding of the character. -/
  valid : Bool
deriving Repr, DecidableEq

/-- Reads pieces, passing over the `skip` bytes that the last piece has already taken. -/
def piecesFrom : (skip : Nat) → Bytes → List Piece
  | _, [] => []
  | skip + 1, _ :: rest => piecesFrom skip rest
  | 0, b :: rest =>
    match encoding? (b :: rest) with
    | some (c, n) => ⟨c, (b :: rest).take n, true⟩ :: piecesFrom (n - 1) rest
    | none => ⟨replacement, [b], false⟩ :: piecesFrom 0 rest

/-- Reads a byte string as a list of pieces. -/
def pieces (b : Bytes) : List Piece :=
  piecesFrom 0 b

/-- Reads a byte string as a list of characters. -/
def chars (b : Bytes) : List Char :=
  (pieces b).map Piece.char

/-- Counts the characters of a byte string. -/
def length (b : Bytes) : Nat :=
  (pieces b).length

/-- Tests whether a byte string is the encoding of a text. -/
def isValid (b : Bytes) : Bool :=
  (pieces b).all Piece.valid

/-- Gives the text that a byte string encodes. -/
def toString (b : Bytes) : String :=
  String.ofList (chars b)

end ThreeAddress.Utf8
