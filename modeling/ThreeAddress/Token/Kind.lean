import ThreeAddress.Bytes

/-!
# Token kinds

The kinds of source tokens with their numbers, names and spellings.
-/

namespace ThreeAddress

/-- The kind of a source token. -/
inductive TokenKind where
  /-- An erroneous token. -/
  | invalid
  /-- The end of the source. -/
  | endOfFile
  /-- A name. -/
  | identifier
  /-- Written `let`. -/
  | keywordLet
  /-- Written `true`. -/
  | keywordTrue
  /-- Written `false`. -/
  | keywordFalse
  /-- An integer literal. -/
  | integer
  /-- A float literal. -/
  | float
  /-- A char literal. -/
  | char
  /-- Written `+`. -/
  | plus
  /-- Written `-`. -/
  | minus
  /-- Written `*`. -/
  | star
  /-- Written `/`. -/
  | slash
  /-- Written `~`. -/
  | tilde
  /-- Written `:`. -/
  | colon
  /-- Written `;`. -/
  | semicolon
  /-- Written `,`. -/
  | comma
  /-- Written `(`. -/
  | leftParen
  /-- Written `)`. -/
  | rightParen
  /-- Written `{`. -/
  | leftBrace
  /-- Written `}`. -/
  | rightBrace
  /-- Written `[`. -/
  | leftBracket
  /-- Written `]`. -/
  | rightBracket
  /-- A number that names no kind. -/
  | unassigned (number : UInt8)
deriving Repr, DecidableEq, Inhabited

namespace TokenKind

/-- The kinds in the order of their numbers. -/
def all : List TokenKind :=
  [.invalid, .endOfFile, .identifier, .keywordLet, .keywordTrue, .keywordFalse, .integer,
    .float, .char, .plus, .minus, .star, .slash, .tilde, .colon, .semicolon, .comma, .leftParen,
    .rightParen, .leftBrace, .rightBrace, .leftBracket, .rightBracket]

/-- Gives the kind with a number. -/
def ofNumber (n : UInt8) : TokenKind :=
  match all[n.toNat]? with
  | some k => k
  | none => .unassigned n

/-- The name of a kind in listings. -/
def name : TokenKind → Bytes
  | .invalid => utf8 "Invalid"
  | .endOfFile => utf8 "EOF"
  | .identifier => utf8 "Ident"
  | .keywordLet => utf8 "KwLet"
  | .keywordTrue => utf8 "KwTrue"
  | .keywordFalse => utf8 "KwFalse"
  | .integer => utf8 "IntLit"
  | .float => utf8 "FloatLit"
  | .char => utf8 "CharLit"
  | .plus => utf8 "Plus"
  | .minus => utf8 "Minus"
  | .star => utf8 "Star"
  | .slash => utf8 "Slash"
  | .tilde => utf8 "Tilde"
  | .colon => utf8 "Colon"
  | .semicolon => utf8 "Semicolon"
  | .comma => utf8 "Comma"
  | .leftParen => utf8 "LParen"
  | .rightParen => utf8 "RParen"
  | .leftBrace => utf8 "LBrace"
  | .rightBrace => utf8 "RBrace"
  | .leftBracket => utf8 "LBracket"
  | .rightBracket => utf8 "RBracket"
  | .unassigned n => utf8 "Kind(" ++ decimal n.toNat ++ utf8 ")"

/-- The fixed text of a kind, for keywords, operators and punctuation. -/
def fixedText? : TokenKind → Option Bytes
  | .keywordLet => some (utf8 "let")
  | .keywordTrue => some (utf8 "true")
  | .keywordFalse => some (utf8 "false")
  | .plus => some (utf8 "+")
  | .minus => some (utf8 "-")
  | .star => some (utf8 "*")
  | .slash => some (utf8 "/")
  | .tilde => some (utf8 "~")
  | .colon => some (utf8 ":")
  | .semicolon => some (utf8 ";")
  | .comma => some (utf8 ",")
  | .leftParen => some (utf8 "(")
  | .rightParen => some (utf8 ")")
  | .leftBrace => some (utf8 "\x7b")
  | .rightBrace => some (utf8 "\x7d")
  | .leftBracket => some (utf8 "[")
  | .rightBracket => some (utf8 "]")
  | _ => none

/-- How messages refer to a kind: its text between quotes, or a description. -/
def spelling (k : TokenKind) : Bytes :=
  match k.fixedText? with
  | some s => utf8 "'" ++ s ++ utf8 "'"
  | none =>
    match k with
    | .identifier => utf8 "identifier"
    | .integer => utf8 "integer literal"
    | .float => utf8 "float literal"
    | .char => utf8 "char literal"
    | .endOfFile => utf8 "end of file"
    | k => k.name

/-- Tests for a literal: a number, a char or a truth value. -/
def isLiteral : TokenKind → Bool
  | .integer | .float | .char | .keywordTrue | .keywordFalse => true
  | _ => false

/-- Tests for one of the four arithmetic operators. -/
def isArithmetic : TokenKind → Bool
  | .plus | .minus | .star | .slash => true
  | _ => false

/-- Tests for an identifier. -/
def isIdentifier : TokenKind → Bool
  | .identifier => true
  | _ => false

/-- Gives the keyword that a name spells. Keywords are lower case. -/
def keyword? (name : Bytes) : Option TokenKind :=
  if name = utf8 "let" then some .keywordLet
  else if name = utf8 "true" then some .keywordTrue
  else if name = utf8 "false" then some .keywordFalse
  else none

/-- Gives the operator or punctuation mark that a byte spells. -/
def ofPunctuation? (b : UInt8) : Option TokenKind :=
  match b with
  | 0x2B => some .plus
  | 0x2D => some .minus
  | 0x2A => some .star
  | 0x2F => some .slash
  | 0x7E => some .tilde
  | 0x3A => some .colon
  | 0x3B => some .semicolon
  | 0x2C => some .comma
  | 0x28 => some .leftParen
  | 0x29 => some .rightParen
  | 0x7B => some .leftBrace
  | 0x7D => some .rightBrace
  | 0x5B => some .leftBracket
  | 0x5D => some .rightBracket
  | _ => none

end TokenKind

end ThreeAddress
