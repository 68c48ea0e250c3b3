import ThreeAddress.Source.Span
import ThreeAddress.Token.Kind

/-!
# Tokens

A token is a kind with its place in the source and its text.
-/

namespace ThreeAddress

/-- A source token. -/
structure Token where
  /-- What the token is. -/
  kind : TokenKind
  /-- Where it stands. -/
  span : Span
  /-- Its text; identifiers carry their normalized spelling. -/
  text : Bytes
deriving Repr, DecidableEq, Inhabited

namespace Token

/-- The text of a token as an instruction operand: its own text, or the fixed text of its kind. -/
def render (t : Token) : Bytes :=
  if t.text = [] then t.kind.fixedText?.getD [] else t.text

/-- How a message names the token it met. -/
def describe (t : Token) : Bytes :=
  match t.kind with
  | .endOfFile => utf8 "end of file"
  | .invalid => utf8 "invalid token"
  | k => if t.text = [] then k.spelling else utf8 "'" ++ t.text ++ utf8 "'"

end Token

end ThreeAddress
