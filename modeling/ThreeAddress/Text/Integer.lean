import ThreeAddress.Bytes

/-!
# Reading integers

Integers are read in a given base, or in the base that their own marker announces: `0x`, `0b` and
`0o`, and a leading zero for octal. Where the base is announced, underscores may separate digits.

## Main definitions

* `Integer.Base` : a fixed base, or the announced one.
* `Integer.readNat` : unsigned numbers below a bound.
* `Integer.readInt64` : signed numbers of 64 bits.
-/

namespace ThreeAddress.Integer

/-- Why a text is no number. -/
inductive ReadError where
  /-- It is not written as a number. -/
  | malformed
  /-- The number is too large. -/
  | outOfRange
deriving Repr, DecidableEq

/-- The wording of a reading failure. -/
def ReadError.message : ReadError → Bytes
  | .malformed => utf8 "invalid syntax"
  | .outOfRange => utf8 "value out of range"

/-- How the base of a number is found. -/
inductive Base where
  /-- The base is known. -/
  | fixed (base : Nat)
  /-- The number announces its base, and underscores may separate its digits. -/
  | announced
deriving Repr, DecidableEq

/-- The lower-case form of an ASCII letter. -/
def lower (b : UInt8) : UInt8 :=
  b ||| 0x20

/-- The value of a digit or letter. -/
def digitValue? (b : UInt8) : Option Nat :=
  if '0'.toUInt8 ≤ b ∧ b ≤ '9'.toUInt8 then some (b.toNat - 48)
  else if 'a'.toUInt8 ≤ lower b ∧ lower b ≤ 'z'.toUInt8 then some ((lower b).toNat - 87)
  else none

/-- Gives the base that a marker byte announces. -/
def baseOfMarker? (b : UInt8) : Option Nat :=
  if lower b == 'b'.toUInt8 then some 2
  else if lower b == 'o'.toUInt8 then some 8
  else if lower b == 'x'.toUInt8 then some 16
  else none

/-- Splits a number into its announced base and its digits. A marker needs something after it. -/
def announcedBase : Bytes → Nat × Bytes
  | [] => (10, [])
  | z :: rest =>
    if z == '0'.toUInt8 then
      match rest with
      | m :: d :: more =>
        match baseOfMarker? m with
        | some base => (base, d :: more)
        | none => (8, rest)
      | _ => (8, rest)
    else (10, z :: rest)

/-- Reads digits in order; the first one that is wrong or leads above `bound` decides the error. -/
def readDigits (base bound : Nat) (underscores : Bool) (acc : Nat) : Bytes → Except ReadError Nat
  | [] => .ok acc
  | b :: rest =>
    if underscores && b == '_'.toUInt8 then readDigits base bound underscores acc rest
    else match digitValue? b with
      | none => .error .malformed
      | some d =>
        if base ≤ d then .error .malformed
        else if bound < acc * base + d then .error .outOfRange
        else readDigits base bound underscores (acc * base + d) rest

/-- What stands in front of a position, as far as underscores care. -/
inductive Before where
  /-- The start of the number. -/
  | start
  /-- A digit or a base marker. -/
  | digit
  /-- An underscore. -/
  | underscore
  /-- Anything else. -/
  | other
deriving Repr, DecidableEq

/-- Tests whether every underscore follows a digit and is followed by one. -/
def underscoresFit (hexadecimal : Bool) : Before → Bytes → Bool
  | before, [] => before != .underscore
  | before, b :: rest =>
    let isDigit := match digitValue? b with
      | some d => d < 10 || (hexadecimal && d < 16)
      | none => false
    if isDigit then underscoresFit hexadecimal .digit rest
    else if b == '_'.toUInt8 then before == .digit && underscoresFit hexadecimal .underscore rest
    else before != .underscore && underscoresFit hexadecimal .other rest

/-- Removes a sign. -/
def unsigned : Bytes → Bytes
  | [] => []
  | s :: rest => if s == '+'.toUInt8 || s == '-'.toUInt8 then rest else s :: rest

/-- Tests whether the underscores of a number with its sign and base marker are well placed. -/
def underscoresOk (text : Bytes) : Bool :=
  match unsigned text with
  | z :: m :: rest =>
    match if z == '0'.toUInt8 then baseOfMarker? m else none with
    | some base => underscoresFit (base == 16) .digit rest
    | none => underscoresFit false .start (z :: m :: rest)
  | short => underscoresFit false .start short

/-- Reads an unsigned number that is at most `bound`. -/
def readNat (base : Base) (bound : Nat) (text : Bytes) : Except ReadError Nat :=
  if text = [] then .error .malformed
  else match base with
    | .fixed b => readDigits b bound false 0 text
    | .announced => do
      let (b, digits) := announcedBase text
      let n ← readDigits b bound true 0 digits
      if digits.contains '_'.toUInt8 && !underscoresOk text then throw .malformed
      return n

/-- The least number whose 64 bits start with the bit of the sign. -/
def signBit : Nat := 0x8000000000000000

/-- Reads a signed number of 64 bits. -/
def readInt64 (base : Base) (text : Bytes) : Except ReadError Int :=
  match text with
  | [] => .error .malformed
  | s :: _ => do
    let negative := s == '-'.toUInt8
    let n ← readNat base (UInt64.size - 1) (unsigned text)
    if negative then
      if signBit < n then throw .outOfRange else return -(n : Int)
    else if signBit ≤ n then throw .outOfRange
    else return (n : Int)

end ThreeAddress.Integer
