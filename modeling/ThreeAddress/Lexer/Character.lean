import ThreeAddress.Bytes
import ThreeAddress.Unicode.Digit
import ThreeAddress.Unicode.Letter
import ThreeAddress.Unicode.NonspacingMark

/-!
# Character classes of the source language

Blanks, digits of the four number bases, and the characters of identifiers.
-/

namespace ThreeAddress.Lexer

/-- Spaces, tabs, newlines and carriage returns. -/
def isBlank (b : UInt8) : Bool :=
  b == ' '.toUInt8 || b == '\t'.toUInt8 || b == '\n'.toUInt8 || b == '\r'.toUInt8

/-- The decimal digits. -/
def isDigit (b : UInt8) : Bool :=
  decide ('0'.toUInt8 ≤ b) && decide (b ≤ '9'.toUInt8)

/-- The hexadecimal digits of either case. -/
def isHexDigit (b : UInt8) : Bool :=
  isDigit b || (decide ('a'.toUInt8 ≤ b) && decide (b ≤ 'f'.toUInt8))
    || (decide ('A'.toUInt8 ≤ b) && decide (b ≤ 'F'.toUInt8))

/-- The binary digits. -/
def isBinaryDigit (b : UInt8) : Bool :=
  b == '0'.toUInt8 || b == '1'.toUInt8

/-- The octal digits. -/
def isOctalDigit (b : UInt8) : Bool :=
  decide ('0'.toUInt8 ≤ b) && decide (b ≤ '7'.toUInt8)

/-- The ASCII characters that start an identifier: letters and the underscore. -/
def isNameStart (b : UInt8) : Bool :=
  b == '_'.toUInt8 || (decide ('A'.toUInt8 ≤ b) && decide (b ≤ 'Z'.toUInt8))
    || (decide ('a'.toUInt8 ≤ b) && decide (b ≤ 'z'.toUInt8))

/-- The ASCII characters that continue an identifier. -/
def isNamePart (b : UInt8) : Bool :=
  isNameStart b || isDigit b

/-- The characters that start an identifier. -/
def isNameStartChar (c : Char) : Bool :=
  if c.toNat < 0x80 then isNameStart c.toUInt8 else Unicode.isLetter c

/-- The characters that continue an identifier. -/
def isNamePartChar (c : Char) : Bool :=
  if c.toNat < 0x80 then isNamePart c.toUInt8
  else Unicode.isLetter c || Unicode.isDecimalDigit c || Unicode.isNonspacingMark c

end ThreeAddress.Lexer
