import ThreeAddress.Text.Utf8
import ThreeAddress.Unicode.Printable

/-!
# Quoted text

Messages and listings show names and texts between quotes. A printable character shows as itself;
control characters have short escapes, and everything else is written by its code: `\x` for a byte
below 0x80 or one that is no valid text, `\u` and `\U` for other characters.
-/

namespace ThreeAddress.Quoted

/-- The escape letters of the control characters that have one. -/
def controlLetter? (c : Char) : Option Char :=
  match c.toNat with
  | 7 => some 'a'
  | 8 => some 'b'
  | 9 => some 't'
  | 10 => some 'n'
  | 11 => some 'v'
  | 12 => some 'f'
  | 13 => some 'r'
  | _ => none

/-- Writes one character between the given quotes. -/
def escape (quote c : Char) : Bytes :=
  if c = quote ∨ c = '\\' then utf8Chars ['\\', c]
  else if Unicode.isPrintable c then utf8Chars [c]
  else match controlLetter? c with
    | some l => utf8Chars ['\\', l]
    | none =>
      let n := c.toNat
      if n < 0x20 ∨ n = 0x7F then utf8 "\\x" ++ hexPadded 2 n
      else if n < 0x10000 then utf8 "\\u" ++ hexPadded 4 n
      else utf8 "\\U" ++ hexPadded 8 n

/-- Writes a byte string between double quotes. -/
def text (b : Bytes) : Bytes :=
  utf8 "\"" ++ (Utf8.pieces b).flatMap (fun p =>
    if p.valid then escape '"' p.char else utf8 "\\x" ++ hex p.bytes) ++ utf8 "\""

/-- Writes a character between single quotes. -/
def char (c : Char) : Bytes :=
  utf8 "'" ++ escape '\'' c ++ utf8 "'"

end ThreeAddress.Quoted
