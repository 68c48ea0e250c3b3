/-!
# Byte strings

Sources, names, messages and emitted code are byte strings: a source file may hold bytes that are
no valid text, and such bytes travel unchanged into messages and instructions.

## Main definitions

* `Bytes` : byte strings.
* `utf8` : the encoding of a text.
* `decimal` : the digits of a number.
* `Bytes.splitOn`, `Bytes.joinWith` : lists of fields around a separator, and back.
-/

namespace ThreeAddress

/-- A byte string. -/
abbrev Bytes := List UInt8

/-- Encodes a text in UTF-8. -/
def utf8 (s : String) : Bytes :=
  s.toList.flatMap String.utf8EncodeChar

/-- Encodes a list of characters in UTF-8. -/
def utf8Chars (cs : List Char) : Bytes :=
  cs.flatMap String.utf8EncodeChar

/-- Writes a number in decimal, without leading zeros. -/
def decimal (n : Nat) : Bytes :=
  (Nat.toDigits 10 n).map Char.toUInt8

/-- Writes an integer in decimal, with a minus sign in front of a negative one. -/
def signedDecimal : Int → Bytes
  | .ofNat n => decimal n
  | .negSucc n => '-'.toUInt8 :: decimal (n + 1)

/-- Gives the lower-case hexadecimal digit of a number below 16. -/
def hexDigit (n : Nat) : UInt8 :=
  (Nat.digitChar (n % 16)).toUInt8

/-- Writes the low `width` hexadecimal digits of a number. -/
def hexPadded (width n : Nat) : Bytes :=
  (List.range width).reverse.map fun i => hexDigit (n >>> (4 * i))

/-- Writes each byte as two hexadecimal digits. -/
def hex (b : Bytes) : Bytes :=
  b.flatMap fun x => hexPadded 2 x.toNat

namespace Bytes

/-- Removes `p` from the front of `b`, if `b` starts with it. -/
def strip? : (p b : Bytes) → Option Bytes
  | [], b => some b
  | _ :: _, [] => none
  | x :: p, y :: b => if x == y then strip? p b else none

/-- Removes `p` from the end of `b`, if `b` ends with it. -/
def stripEnd? (p b : Bytes) : Option Bytes :=
  (strip? p.reverse b.reverse).map List.reverse

/-- Tests whether `p` occurs in `b`. -/
def hasInfix (p : Bytes) : Bytes → Bool
  | [] => p.isEmpty
  | x :: b => p.isPrefixOf (x :: b) || hasInfix p b

/-- Splits a byte string at every occurrence of a separator. There is always at least one field. -/
def splitOn (sep : UInt8) : Bytes → List Bytes
  | [] => [[]]
  | x :: b =>
    if x == sep then [] :: splitOn sep b
    else match splitOn sep b with
      | [] => [[x]]
      | f :: fs => (x :: f) :: fs

/-- Puts a separator between neighbouring fields. -/
def joinWith (sep : Bytes) : List Bytes → Bytes
  | [] => []
  | [f] => f
  | f :: g :: fs => f ++ sep ++ joinWith sep (g :: fs)

/-- Compares byte strings in lexicographic order. -/
def lessEq : Bytes → Bytes → Bool
  | [], _ => true
  | _ :: _, [] => false
  | x :: a, y :: b => if x == y then lessEq a b else decide (x < y)

/-- Pads a byte string of `len` columns with blanks on the right. -/
def padRight (width len : Nat) (b : Bytes) : Bytes :=
  b ++ List.replicate (width - len) ' '.toUInt8

/-- Pads a byte string of `len` columns with blanks on the left. -/
def padLeft (width len : Nat) (b : Bytes) : Bytes :=
  List.replicate (width - len) ' '.toUInt8 ++ b

/-- Every split puts back together: joining the fields with the separator gives the byte string. -/
theorem joinWith_splitOn (sep : UInt8) (b : Bytes) : joinWith [sep] (splitOn sep b) = b := by
  induction b with
  | nil => rfl
  | cons x b ih =>
    have hne : splitOn sep b ≠ [] := by
      cases b with
      | nil => simp [splitOn]
      | cons y b =>
        simp only [splitOn]
        split
        · simp
        · split <;> simp
    simp only [splitOn]
    by_cases h : x == sep
    · simp only [h, if_true]
      cases hs : splitOn sep b with
      | nil => exact absurd hs hne
      | cons f fs =>
        rw [hs] at ih
        simp [joinWith, ih, eq_of_beq h]
    · simp only [h, Bool.false_eq_true, if_false]
      cases hs : splitOn sep b with
      | nil => exact absurd hs hne
      | cons f fs =>
        rw [hs] at ih
        cases fs with
        | nil => simpa [joinWith] using ih
        | cons g gs => simpa [joinWith] using ih

end Bytes

end ThreeAddress
