import ThreeAddress.Lexer.Scan

/-!
# Char literals

A char literal holds one character or one of the escapes for newline, tab, carriage return, zero,
backslash and quote between single quotes. A literal without its closing quote takes everything up
to the end of the line or the next semicolon.
-/

namespace ThreeAddress.Lexer

/-- The letters that may follow a backslash. -/
def isEscape (b : UInt8) : Bool :=
  b == 'n'.toUInt8 || b == 't'.toUInt8 || b == 'r'.toUInt8 || b == '0'.toUInt8
    || b == '\\'.toUInt8 || b == '\''.toUInt8

/-- The number of bytes of the character at the front, 0 at the end. -/
def charSize (bs : Bytes) : Nat :=
  ((Utf8.decode? bs).map Prod.snd).getD 0

/-- Takes the rest of a literal that is not closed after `taken` bytes, in front of `rest`. -/
def unterminated (taken : Nat) (rest : Bytes) (earlier : List (Nat × Complaint)) : Scan :=
  let size := taken + (rest.takeWhile fun b => b != '\n'.toUInt8 && b != ';'.toUInt8).length
  ⟨.invalid, size, earlier ++ [(size, .unterminatedChar)]⟩

/-- Closes a literal after `taken` bytes, in front of `rest`. -/
def closeChar (taken : Nat) (rest : Bytes) (earlier : List (Nat × Complaint)) : Scan :=
  if rest.head? = some '\''.toUInt8 then ⟨.char, taken + 1, earlier⟩
  else unterminated taken rest earlier

/-- Reads the char literal at the front of a byte string; `body` is what follows its opening
quote. -/
def scanChar (body : Bytes) : Scan :=
  match body with
  | [] => unterminated 1 body []
  | b :: rest =>
    if b == '\n'.toUInt8 then unterminated 1 body []
    else if b == '\''.toUInt8 then .bad 2 .emptyChar
    else if b == '\\'.toUInt8 then
      if rest.head?.any isEscape then closeChar 3 (rest.drop 1) []
      else
        let taken := 2 + charSize rest
        closeChar taken (rest.drop (charSize rest)) [(taken, .unknownEscape)]
    else closeChar (1 + charSize body) (body.drop (charSize body)) []

end ThreeAddress.Lexer
