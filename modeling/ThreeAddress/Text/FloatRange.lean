import ThreeAddress.Text.Integer

/-!
# The range of float literals

A decimal float literal denotes a rational number. It is in range when the nearest 64-bit float is
finite: when it lies below the midpoint between the largest float and the next power of two.

## Main definitions

* `FloatRange.Decimal` : the digits and the exponent of a literal.
* `FloatRange.inRange` : whether the nearest float is finite.
-/

namespace ThreeAddress.FloatRange

/-- A decimal number: the digits read as a whole number, times a power of ten. -/
structure Decimal where
  /-- The digits without the point. -/
  mantissa : Nat
  /-- The number of digits behind the point. -/
  places : Nat
  /-- The written exponent. -/
  exponent : Int
deriving Repr, DecidableEq

/-- The value of the decimal digits of a text; separators do not count. -/
def digitsValue (bs : Bytes) : Nat :=
  bs.foldl (fun n b => if b == '_'.toUInt8 then n else n * 10 + (b.toNat - 48)) 0

/-- Counts the digits of a text. -/
def digitCount (bs : Bytes) : Nat :=
  (bs.filter fun b => b != '_'.toUInt8).length

/-- Reads the magnitude of an exponent. Digits behind the point where it passes ten thousand no
longer matter. -/
def exponentValue (bs : Bytes) : Nat :=
  bs.foldl (fun n b =>
    if b == '_'.toUInt8 then n else if n < 10000 then n * 10 + (b.toNat - 48) else n) 0

/-- Reads the exponent of a literal behind its letter. -/
def readExponent : Bytes → Int
  | [] => 0
  | s :: rest =>
    if s == '-'.toUInt8 then -(exponentValue rest : Int)
    else if s == '+'.toUInt8 then exponentValue rest
    else exponentValue (s :: rest)

/-- Reads a float literal. -/
def read (text : Bytes) : Decimal :=
  let isLetter := fun b : UInt8 => Integer.lower b == 'e'.toUInt8
  let number := text.takeWhile fun b => !isLetter b
  let whole := number.takeWhile fun b => b != '.'.toUInt8
  let fraction := number.drop (whole.length + 1)
  ⟨digitsValue (whole ++ fraction), digitCount fraction,
    readExponent (text.drop (number.length + 1))⟩

/-- The least number whose nearest 64-bit float is infinite. -/
def overflowBound : Nat :=
  0x3FFFFFFFFFFFFF <<< 970

/-- Tests whether a decimal number is below the overflow bound. Numbers whose power of ten alone
decides are settled without computing it. -/
def Decimal.inRange (d : Decimal) : Bool :=
  let scale := d.exponent - d.places
  let digits := (Nat.toDigits 10 d.mantissa).length
  if d.mantissa = 0 then true
  else if 310 < digits + scale then false
  else if digits + scale < 300 then true
  else if 0 ≤ scale then decide (d.mantissa * Nat.pow 10 scale.toNat < overflowBound)
  else decide (d.mantissa < overflowBound * Nat.pow 10 (-scale).toNat)

/-- Tests whether the nearest 64-bit float of a literal is finite. -/
def inRange (text : Bytes) : Bool :=
  (read text).inRange

end ThreeAddress.FloatRange
