import ThreeAddress.Lexer.Character

/-!
# Trivia

Blanks and comments stand between tokens and mean nothing. A comment runs from two slashes to the
end of its line.
-/

namespace ThreeAddress.Lexer

/-- Counts the bytes of trivia at the front; `inComment` says whether a comment is open. -/
def triviaFrom : (inComment : Bool) → Bytes → Nat
  | _, [] => 0
  | true, b :: rest => 1 + triviaFrom (b != '\n'.toUInt8) rest
  | false, b :: rest =>
    if isBlank b then 1 + triviaFrom false rest
    else if b == '/'.toUInt8 && rest.head? == some '/'.toUInt8 then 1 + triviaFrom true rest
    else 0

/-- Counts the bytes of trivia at the front. -/
def triviaSize (rest : Bytes) : Nat :=
  triviaFrom false rest

end ThreeAddress.Lexer
