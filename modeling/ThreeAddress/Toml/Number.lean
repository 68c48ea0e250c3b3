import ThreeAddress.Text.FloatRange
import ThreeAddress.Toml.Text

/-!
# Numbers, moments and other plain values of TOML

## Main definitions

* `Toml.Scalar` : values that are neither lists nor tables.
* `Toml.isMoment` : dates and times that exist.
* `Toml.scanScalar` : a value, and what follows.
-/

namespace ThreeAddress.Toml

/-- A value that is neither a list nor a table. -/
inductive Scalar where
  /-- A text. -/
  | text (value : Bytes)
  /-- A whole number of 64 bits. -/
  | integer (value : Int)
  /-- A truth value. -/
  | truth (value : Bool)
  /-- A floating-point number as it is written. -/
  | float (literal : Bytes)
  /-- A date or a time as it is written. -/
  | moment (literal : Bytes)
deriving Repr, DecidableEq

/-- Tests whether a byte is a decimal digit. -/
def isDigit (b : UInt8) : Bool :=
  byte '0' ≤ b && b ≤ byte '9'

/-- Tests whether every underscore follows a hexadecimal digit and the last byte is one. -/
def underscoresOk (afterDigit : Bool) : Bytes → Bool
  | [] => afterDigit
  | b :: rest =>
    if b == byte '_' && !afterDigit then false
    else underscoresOk (((Integer.digitValue? b).map fun d => decide (d < 16)).getD false) rest

/-- Tests whether a number starts with a zero that is neither alone nor a marker of a base. -/
def hasLeadingZero (b : Bytes) : Bool :=
  match b with
  | z :: m :: rest =>
    (z == byte '0' && !(m == byte 'b' || m == byte 'o' || m == byte 'x'))
      || ((z == byte '-' || z == byte '+') && m == byte '0' && !rest.isEmpty)
  | _ => false

/-- The whole number that a literal denotes. -/
def integer? (literal : Bytes) : Option Scalar :=
  if !underscoresOk false literal || hasLeadingZero literal then none
  else match Integer.readInt64 .announced literal with
    | .ok n => some (.integer n)
    | .error _ => none

/-- Tests whether a text consists of at least one digit, with underscores between digits. -/
def isDigits (b : Bytes) : Bool :=
  underscoresOk false b && b.all fun x => isDigit x || x == byte '_'

/-- Tests whether a float literal is well formed: digits, then a point with digits behind it or
nothing, then an exponent or nothing. -/
def isFloat (literal : Bytes) : Bool :=
  let body := Integer.unsigned literal
  let mantissa := body.takeWhile fun x => x != byte 'e' && x != byte 'E'
  let exponent := body.drop mantissa.length
  let whole := mantissa.takeWhile fun x => x != byte '.'
  let fraction := mantissa.drop whole.length
  isDigits whole && !hasLeadingZero whole
    && (fraction.isEmpty || isDigits (fraction.drop 1))
    && (exponent.isEmpty || isDigits (Integer.unsigned (exponent.drop 1)))

/-- The floating-point number that a literal denotes. -/
def float? (literal : Bytes) : Option Scalar :=
  if isFloat literal && FloatRange.inRange (Integer.unsigned literal) then some (.float literal)
  else none

/-- Reads so many digits. -/
def readDigits (n : Nat) : StateT Bytes Option Nat := fun b =>
  let digits := b.take n
  if digits.length = n ∧ digits.all isDigit then some (FloatRange.digitsValue digits, b.drop n)
  else none

/-- Reads one of some bytes. -/
def readOne (allowed : List Char) : StateT Bytes Option Unit := fun b =>
  match b with
  | [] => none
  | x :: rest => if (allowed.map byte).contains x then some ((), rest) else none

/-- Reads two digits that are not above a bound. -/
def readPair (bound : Nat) : StateT Bytes Option Nat := do
  let n ← readDigits 2
  if n ≤ bound then return n else failure

/-- The number of days of a month. -/
def daysIn (year month : Nat) : Nat :=
  if month = 2 then
    if year % 4 = 0 ∧ (year % 100 ≠ 0 ∨ year % 400 = 0) then 29 else 28
  else if month = 4 ∨ month = 6 ∨ month = 9 ∨ month = 11 then 30
  else 31

/-- Reads a date. -/
def readDate : StateT Bytes Option Unit := do
  let year ← readDigits 4
  readOne ['-']
  let month ← readPair 12
  readOne ['-']
  let day ← readPair (daysIn year month)
  if month = 0 ∨ day = 0 then failure

/-- Reads the fraction of a second, if there is one. -/
def readFraction : StateT Bytes Option Unit := fun b =>
  match b with
  | p :: d :: rest =>
    if p == byte '.' && isDigit d then some ((), rest.dropWhile isDigit) else some ((), b)
  | _ => some ((), b)

/-- Reads the hour of a time of day, which may have one digit only. -/
def readHour : StateT Bytes Option Unit := do
  let b ← get
  if (b.take 2).all isDigit then
    let _ ← readPair 23
  else
    let _ ← readDigits 1

/-- Reads a time of day. -/
def readTime : StateT Bytes Option Unit := do
  readHour
  readOne [':']
  let _ ← readPair 59
  readOne [':']
  let _ ← readPair 59
  readFraction

/-- Reads the distance from universal time, if there is one. -/
def readZone : StateT Bytes Option Unit := fun b =>
  match b with
  | [] => some ((), [])
  | z :: rest =>
    if z == byte 'Z' || z == byte 'z' then some ((), rest)
    else if z == byte '+' || z == byte '-' then
      (do let _ ← readPair 24; readOne [':']; let _ ← readPair 60 : StateT Bytes Option Unit) rest
    else none

/-- Tests whether a reader takes all of a text. -/
def takesAll (r : StateT Bytes Option Unit) (b : Bytes) : Bool :=
  match r b with
  | some (_, rest) => rest.isEmpty
  | none => false

/-- Tests whether a literal is a date, a time of day, or both with a letter or a blank between
them. -/
def isMoment (b : Bytes) : Bool :=
  takesAll readDate b || takesAll readTime b
    || takesAll (do readDate; readOne ['T', 't', ' ']; readTime; readZone) b

/-- A number with digits in a base, from behind its marker on. -/
def scanBase (marker : Bytes) (base : Nat) (b : Bytes) : Option (Scalar × Bytes) :=
  let isOf := fun x : UInt8 => ((Integer.digitValue? x).map fun d => decide (d < base)).getD false
  if (b.head?.map isOf).getD false then
    let digits := b.takeWhile fun x => isOf x || x == byte '_'
    (integer? (marker ++ digits)).map fun s => (s, b.drop digits.length)
  else none

/-- A decimal number behind its sign. -/
def scanDecimal (sign b : Bytes) : Option (Scalar × Bytes) :=
  let whole := b.takeWhile fun x => isDigit x || x == byte '_'
  match b.drop whole.length with
  | x :: _ =>
    if x == byte '.' || x == byte 'e' || x == byte 'E' then
      let literal := b.takeWhile fun x => isDigit x || (utf8 "_.-+eE").contains x
      (float? (sign ++ literal)).map fun s => (s, b.drop literal.length)
    else (integer? (sign ++ whole)).map fun s => (s, b.drop whole.length)
  | [] => (integer? (sign ++ whole)).map fun s => (s, [])

/-- The text without blanks at its end. -/
def trimEnd (b : Bytes) : Bytes :=
  (b.reverse.dropWhile isBlank).reverse

/-- A date or a time. -/
def scanMoment (b : Bytes) : Option (Scalar × Bytes) :=
  let raw := b.takeWhile fun x => isDigit x || (utf8 "-:Tt .Zz+").contains x
  let literal := trimEnd raw
  if isMoment literal then some (.moment literal, b.drop raw.length) else none

/-- A number that starts with a digit, or a date or a time. A lone zero starts no date. -/
def scanNumber (b : Bytes) : Option (Scalar × Bytes) :=
  let digits := b.takeWhile isDigit
  match b.drop digits.length with
  | x :: rest =>
    if digits == utf8 "0" then
      if x == byte 'b' then scanBase (utf8 "0b") 2 rest
      else if x == byte 'o' then scanBase (utf8 "0o") 8 rest
      else if x == byte 'x' then scanBase (utf8 "0x") 16 rest
      else scanDecimal [] b
    else if x == byte '-' || x == byte ':' then scanMoment b
    else scanDecimal [] b
  | [] => scanDecimal [] b

/-- A number behind its sign; it has no marker of a base. -/
def scanSigned (sign : UInt8) (b : Bytes) : Option (Scalar × Bytes) :=
  match b with
  | [] => none
  | d :: rest =>
    let isMarker := match rest with
      | m :: _ => d == byte '0' && (m == byte 'b' || m == byte 'o' || m == byte 'x')
      | [] => false
    if isMarker || !isDigit d then none else scanDecimal [sign] b

/-- The words that are values. -/
def words : List (Bytes × Scalar) :=
  [(utf8 "true", .truth true), (utf8 "false", .truth false)]
    ++ ([utf8 "inf", utf8 "nan", utf8 "+inf", utf8 "-inf", utf8 "+nan", utf8 "-nan"]).map
      fun w => (w, Scalar.float w)

/-- A value that is neither a list nor a table, and what follows. -/
def scanScalar (b : Bytes) : Option (Scalar × Bytes) :=
  match words.findSome? fun w => (Bytes.strip? w.1 b).map fun rest => (w.2, rest) with
  | some r => some r
  | none =>
    match b with
    | [] => none
    | x :: rest =>
      if x == byte '"' || x == byte '\'' then (scanString b).map fun r => (.text r.1, r.2)
      else if isDigit x then scanNumber b
      else if x == byte '+' || x == byte '-' then scanSigned x rest
      else none

end ThreeAddress.Toml
