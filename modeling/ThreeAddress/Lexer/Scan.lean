import ThreeAddress.Diagnostic.Code
import ThreeAddress.Text.Quoted
import ThreeAddress.Token.Kind

/-!
# Scans

What reading one token from the front of the remaining bytes yields.
-/

namespace ThreeAddress.Lexer

/-- What can be wrong with a token. -/
inductive Complaint where
  /-- A character that starts no token. -/
  | unknownChar (c : Char)
  /-- A base marker without digits after it. -/
  | missingDigits
  /-- A decimal literal that starts with a zero and goes on. -/
  | leadingZeros
  /-- An underscore that is not between two digits. -/
  | badSeparator
  /-- A point that no digit follows. -/
  | missingFraction
  /-- An exponent without digits. -/
  | badExponent
  /-- Name characters right behind a literal. -/
  | badSuffix
  /-- A char literal without a character. -/
  | emptyChar
  /-- A backslash in front of a character that has no escape. -/
  | unknownEscape
  /-- A char literal without its closing quote. -/
  | unterminatedChar
deriving Repr, DecidableEq

namespace Complaint

/-- The code of a complaint. -/
def code : Complaint → Code
  | .unknownChar _ | .unknownEscape => .unknownChar
  | .missingDigits | .leadingZeros | .badSeparator | .missingFraction | .badExponent
  | .badSuffix => .badNumber
  | .emptyChar => .emptyChar
  | .unterminatedChar => .unterminatedChar

/-- The wording of a complaint. -/
def message : Complaint → Bytes
  | .unknownChar c => utf8 "unknown character " ++ Quoted.char c
  | .missingDigits => utf8 "missing digits after base prefix"
  | .leadingZeros => utf8 "leading zeros are not allowed in decimal literals"
  | .badSeparator => utf8 "invalid digit separator"
  | .missingFraction => utf8 "expected digit after '.'"
  | .badExponent => utf8 "malformed exponent"
  | .badSuffix => utf8 "invalid suffix on number literal"
  | .emptyChar => utf8 "empty char literal"
  | .unknownEscape => utf8 "unknown escape sequence"
  | .unterminatedChar => utf8 "unterminated char literal"

end Complaint

/-- One token read from the front of the remaining bytes. -/
structure Scan where
  /-- The kind of the token. -/
  kind : TokenKind
  /-- The number of bytes it takes. -/
  size : Nat
  /-- The complaints about it in the order they were found, each with the number of bytes from the
  start of the token that it is about. -/
  complaints : List (Nat × Complaint) := []
deriving Repr, DecidableEq

/-- An invalid token with one complaint about all of it. -/
def Scan.bad (size : Nat) (c : Complaint) : Scan :=
  ⟨.invalid, size, [(size, c)]⟩

end ThreeAddress.Lexer
