import ThreeAddress.Bytes

/-!
# Fixed decimal places

Numbers written with a fixed number of decimal places, rounded to the nearest such number; a value
half way between two goes to the one with the even last digit.

## Main definitions

* `Fixed.roundQuotient` : a quotient as the nearest natural number.
* `Fixed.quotient` : a quotient with fixed places.
* `Fixed.float` : a binary floating-point number with fixed places.
-/

namespace ThreeAddress.Fixed

/-- The natural number nearest to a quotient; a half goes to the even neighbour. -/
def roundQuotient (num den : Nat) : Nat :=
  let q := num / den
  let r := num % den
  if 2 * r < den then q
  else if den < 2 * r then q + 1
  else q + q % 2

/-- Writes so many units of the last place as a decimal number. -/
def ofUnits (places units : Nat) : Bytes :=
  let scale := Nat.pow 10 places
  let fraction := decimal (units % scale)
  decimal (units / scale) ++ utf8 "."
    ++ List.replicate (places - fraction.length) '0'.toUInt8 ++ fraction

/-- Writes a quotient with fixed places. -/
def quotient (places num den : Nat) : Bytes :=
  ofUnits places (roundQuotient (num * Nat.pow 10 places) den)

/-- The number of fractions that a floating-point number can have. -/
def fractionSize : Nat := 0x10000000000000

/-- The numerator and the denominator of the magnitude of a finite floating-point number. -/
def magnitude (f : Float) : Nat × Nat :=
  let bits := f.toBits.toNat
  let exponent := (bits >>> 52) % 0x800
  let fraction := bits % fractionSize
  let mantissa := if exponent = 0 then fraction else fractionSize + fraction
  let power := max exponent 1
  if 1075 ≤ power then (mantissa <<< (power - 1075), 1) else (mantissa, 1 <<< (1075 - power))

/-- Writes the magnitude of a finite floating-point number with fixed places. -/
def float (places : Nat) (f : Float) : Bytes :=
  let (num, den) := magnitude f
  quotient places num den

end ThreeAddress.Fixed
