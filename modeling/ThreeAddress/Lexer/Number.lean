import ThreeAddress.Lexer.Character
import ThreeAddress.Lexer.Scan

/-!
# Number literals

Integers are written in decimal, or in hexadecimal, binary or octal behind `0x`, `0b` or `0o`.
Floats have a fraction, an exponent or both. Single underscores may stand between digits. A
malformed literal is one invalid token.

## Main definitions

* `digitRun` : the digits and separators at the front.
* `isSeparated` : every separator stands between two digits.
* `scanNumber` : reads a literal.
-/

namespace ThreeAddress.Lexer

/-- The digits and underscores at the front of a byte string that starts with a digit. -/
def digitRun (digit : UInt8 → Bool) (bs : Bytes) : Bytes :=
  if bs.head?.any digit then bs.takeWhile fun b => digit b || b == '_'.toUInt8 else []

/-- Tests whether no two underscores are neighbours and none is the last byte. -/
def isSeparated : Bytes → Bool
  | [] => true
  | [b] => b != '_'.toUInt8
  | a :: b :: run => !(a == '_'.toUInt8 && b == '_'.toUInt8) && isSeparated (b :: run)

/-- The name characters at the front. -/
def nameTail (bs : Bytes) : Bytes :=
  bs.takeWhile isNamePart

/-- Ends a literal of `taken` bytes in front of `rest`: no name character may follow at once. -/
def finishNumber (kind : TokenKind) (taken : Nat) (rest : Bytes) : Scan :=
  if rest.head?.any isNameStart then .bad (taken + (nameTail rest).length) .badSuffix
  else ⟨kind, taken, []⟩

/-- Gives up on a literal with a misplaced separator, with all name characters that follow. -/
def badSeparator (taken : Nat) (rest : Bytes) : Scan :=
  .bad (taken + (nameTail rest).length) .badSeparator

/-- Reads the digits of a literal behind its base marker. -/
def scanBased (digit : UInt8 → Bool) (rest : Bytes) : Scan :=
  let run := digitRun digit rest
  let taken := 2 + run.length
  if run = [] then .bad 2 .missingDigits
  else if isSeparated run then finishNumber .integer taken (rest.drop run.length)
  else badSeparator taken (rest.drop run.length)

/-- The number of sign bytes at the front, 0 or 1. -/
def signSize (bs : Bytes) : Nat :=
  if bs.head?.any fun s => s == '+'.toUInt8 || s == '-'.toUInt8 then 1 else 0

/-- Reads the exponent of a literal of `taken` bytes, if one follows, and ends the literal. -/
def scanExponent (kind : TokenKind) (taken : Nat) (rest : Bytes) : Scan :=
  match rest with
  | e :: more =>
    if e == 'e'.toUInt8 || e == 'E'.toUInt8 then
      let sign := signSize more
      let run := digitRun isDigit (more.drop sign)
      let size := taken + 1 + sign + run.length
      if run = [] then .bad (taken + (nameTail rest).length) .badExponent
      else if isSeparated run then
        finishNumber .float size (more.drop (sign + run.length))
      else badSeparator size (more.drop (sign + run.length))
    else finishNumber kind taken rest
  | [] => finishNumber kind taken rest

/-- Reads a literal that starts with decimal digits. A point belongs to it if a digit follows, and
spoils it if neither a digit nor a name does; a point at the very end is left alone. -/
def scanDecimal (bs : Bytes) : Scan :=
  let run := digitRun isDigit bs
  let rest := bs.drop run.length
  if !isSeparated run then badSeparator run.length rest
  else match rest with
    | p :: d :: _ =>
      if p == '.'.toUInt8 then
        if isDigit d then
          let fraction := digitRun isDigit (rest.drop 1)
          let taken := run.length + 1 + fraction.length
          if isSeparated fraction then scanExponent .float taken (bs.drop taken)
          else badSeparator taken (bs.drop taken)
        else if isNameStart d then scanExponent .integer run.length rest
        else .bad (run.length + 1) .missingFraction
      else scanExponent .integer run.length rest
    | _ => scanExponent .integer run.length rest

/-- Gives the digits that a base marker announces. -/
def baseDigits? (b : UInt8) : Option (UInt8 → Bool) :=
  if b == 'x'.toUInt8 || b == 'X'.toUInt8 then some isHexDigit
  else if b == 'b'.toUInt8 || b == 'B'.toUInt8 then some isBinaryDigit
  else if b == 'o'.toUInt8 || b == 'O'.toUInt8 then some isOctalDigit
  else none

/-- Reads the number literal at the front of a byte string that starts with a digit. -/
def scanNumber (bs : Bytes) : Scan :=
  match bs with
  | z :: b :: rest =>
    if z == '0'.toUInt8 then
      match baseDigits? b with
      | some digit => scanBased digit rest
      | none =>
        if isDigit b then .bad (digitRun isDigit bs).length .leadingZeros
        else scanDecimal bs
    else scanDecimal bs
  | _ => scanDecimal bs

end ThreeAddress.Lexer
