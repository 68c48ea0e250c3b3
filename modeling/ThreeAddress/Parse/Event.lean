import ThreeAddress.DataType.Basic
import ThreeAddress.Lexer.Basic

/-!
# Parse events

Parsing turns the tokens of a source into a list of events: declarations, blocks, and expressions in
postfix order. The events are everything that the later analysis needs, complaints included, in the
order in which they come up. Whether a name is declared or an operand fits plays no part in parsing.
-/

namespace ThreeAddress.Parse

/-- What parsing has to say. -/
inductive Event where
  /-- A token is looked at for the first time, so what lexing found about it comes up now. -/
  | look (lexeme : Lexeme)
  /-- The tokens do not fit the grammar, or a size is out of range. -/
  | complain (diagnostic : Diagnostic)
  /-- A block is opened. -/
  | openBlock
  /-- The innermost block is closed. -/
  | closeBlock
  /-- A name is declared. -/
  | declare (name : Token) (type : DataType)
  /-- Operand: a name. -/
  | name (token : Token)
  /-- Operand: a literal. -/
  | literal (token : Token)
  /-- Operand: a run of invalid tokens. -/
  | invalid (span : Span)
  /-- The last two operands become one by a binary operator. -/
  | binary (op : Token)
  /-- The last operand is put under a unary operator. -/
  | unary (op : Token)
  /-- The last operand stands in parentheses. -/
  | group (opening closing : Span)
  /-- The last operand indexes the one before it, which is a name. -/
  | index (closing : Span)
  /-- An expression statement is complete. -/
  | finish
  /-- A statement is given up, with what was read of it. -/
  | abandon
deriving Repr, DecidableEq

/-- The tokens ahead of the parser. -/
structure Input where
  /-- The tokens up to the end of the file. -/
  ahead : List Lexeme
  /-- The place of the end of the file. -/
  ending : Span
  /-- Whether the first token has been looked at. -/
  looked : Bool := false
  /-- The place of the last token taken. -/
  last : Span := {}
deriving Repr, DecidableEq

namespace Input

/-- The input of a list of lexemes that ends with the end of the file. -/
def ofLexemes (ls : List Lexeme) : Input where
  ahead := ls.takeWhile fun l => l.token.kind != .endOfFile
  ending := ((ls.find? fun l => l.token.kind == .endOfFile).map fun l => l.token.span).getD {}

/-- The number of tokens ahead. -/
def size (i : Input) : Nat :=
  i.ahead.length

/-- The token that marks the end. -/
def endToken (i : Input) : Token :=
  ⟨.endOfFile, i.ending, []⟩

/-- The next token. -/
def head (i : Input) : Token :=
  match i.ahead with
  | [] => i.endToken
  | l :: _ => l.token

/-- The kind of the next token. -/
def kind (i : Input) : TokenKind :=
  match i.ahead with
  | [] => .endOfFile
  | l :: _ => l.token.kind

/-- The event of looking at the next token, unless that has happened. -/
def lookEvents (i : Input) : List Event :=
  match i.ahead with
  | l :: _ => if i.looked then [] else [.look l]
  | [] => []

/-- The input after looking at the next token. -/
def look (i : Input) : Input :=
  { i with looked := true }

/-- The input behind the next token. -/
def tail (i : Input) : Input :=
  match i.ahead with
  | [] => i
  | l :: rest => { i with ahead := rest, looked := false, last := l.token.span }

/-- Where to complain about the next token: at the token, or right behind the last one taken when
there is none. -/
def complaintSpan (i : Input) : Span :=
  match i.ahead with
  | l :: _ => l.token.span
  | [] => if 0 < i.last.stop then ⟨i.last.file, i.last.stop, i.last.stop⟩ else i.ending

@[simp] theorem ahead_look (i : Input) : i.look.ahead = i.ahead := rfl

@[simp] theorem ahead_tail (i : Input) : i.tail.ahead = i.ahead.tail := by
  unfold tail
  split <;> simp_all

theorem tail_suffix (i : Input) : i.tail.ahead <:+ i.ahead := by
  rw [ahead_tail]
  exact List.tail_suffix _

theorem size_tail_lt {i : Input} {l : Lexeme} {rest : List Lexeme} (h : i.ahead = l :: rest) :
    i.tail.size < i.size := by
  simp [size, h]

end Input

end ThreeAddress.Parse
