import ThreeAddress.Text.Fields

/-!
# Letter case and blanks around a word

Words of the command line are compared without regard to case, some of them also without regard to
white space around them.
-/

namespace ThreeAddress.Letters

/-- The lower-case form of a character, as far as it is an ASCII letter or becomes one: the Kelvin
sign and the dotted capital I do. -/
def lowerChar (c : Char) : Char :=
  if 'A' ≤ c ∧ c ≤ 'Z' then Char.ofNat (c.toNat + 32)
  else if c.toNat = 0x212A then 'k'
  else if c.toNat = 0x130 then 'i'
  else c

/-- The lower-case form of a word. Bytes that are no text become the replacement character. -/
def lower (b : Bytes) : Bytes :=
  (Utf8.chars b).flatMap fun c => utf8Chars [lowerChar c]

/-- The form of a character that all its cases share, as far as it is an ASCII letter: the Kelvin
sign and the long s are cases of one. -/
def foldChar (c : Char) : Char :=
  if c.toNat = 0x130 then c
  else if c.toNat = 0x17F then 's'
  else lowerChar c

/-- The form of a word that all its spellings in upper and lower case share. -/
def fold (b : Bytes) : Bytes :=
  (Utf8.pieces b).flatMap fun p => if p.valid then utf8Chars [foldChar p.char] else p.bytes

/-- Removes white space from the front of a list of pieces. -/
def trimFront (ps : List Utf8.Piece) : List Utf8.Piece :=
  ps.dropWhile fun p => p.valid && Fields.isSpace p.char

/-- Removes white space from both ends. -/
def trim (b : Bytes) : Bytes :=
  ((trimFront (trimFront (Utf8.pieces b)).reverse).reverse).flatMap Utf8.Piece.bytes

end ThreeAddress.Letters
