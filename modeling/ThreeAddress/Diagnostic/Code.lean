import ThreeAddress.Bytes

/-!
# Severities and codes of diagnostics

A severity is a rank: information, warning and error are ranks 0 to 2, and every rank from 2 on
counts as an error. A code is a number; its thousand says which part of the compiler it belongs to.
-/

namespace ThreeAddress

/-- The importance of a diagnostic. -/
structure Severity where
  /-- Its rank: higher is more important. -/
  rank : UInt8
deriving Repr, DecidableEq, Inhabited

namespace Severity

/-- Information. -/
def info : Severity := ⟨0⟩

/-- A warning. -/
def warning : Severity := ⟨1⟩

/-- An error. -/
def error : Severity := ⟨2⟩

/-- Tests whether a severity makes a unit fail. -/
def isError (s : Severity) : Bool :=
  decide (error.rank ≤ s.rank)

/-- Tests whether a severity is a warning or more. -/
def isWarning (s : Severity) : Bool :=
  decide (warning.rank ≤ s.rank)

/-- The name of a severity. -/
def name (s : Severity) : Bytes :=
  if s = info then utf8 "INFO"
  else if s = warning then utf8 "WARNING"
  else if s = error then utf8 "ERROR"
  else utf8 "UNKNOWN"

end Severity

/-- The number that says what a diagnostic is about. -/
structure Code where
  /-- The number. -/
  number : UInt16
deriving Repr, DecidableEq, Inhabited

namespace Code

/-- Something without a code of its own. -/
def unknown : Code := ⟨0⟩

/-- A character that starts no token, or an unknown escape. -/
def unknownChar : Code := ⟨1001⟩

/-- A malformed or oversized number literal. -/
def badNumber : Code := ⟨1002⟩

/-- A char literal without its closing quote. -/
def unterminatedChar : Code := ⟨1003⟩

/-- A char literal without a character. -/
def emptyChar : Code := ⟨1005⟩

/-- A token that no statement can start with. -/
def unexpectedToken : Code := ⟨2001⟩

/-- A statement without its semicolon. -/
def expectSemicolon : Code := ⟨2002⟩

/-- A declaration without its name. -/
def expectIdentifier : Code := ⟨2003⟩

/-- A declaration without its type. -/
def expectType : Code := ⟨2004⟩

/-- A declaration without its colon. -/
def expectColon : Code := ⟨2005⟩

/-- A parenthesis that is never closed. -/
def unclosedParen : Code := ⟨2006⟩

/-- A block that is never closed. -/
def unclosedBrace : Code := ⟨2007⟩

/-- A bracket that is never closed. -/
def unclosedBracket : Code := ⟨2008⟩

/-- A place where an expression is missing. -/
def expectExpression : Code := ⟨2009⟩

/-- A name that no open block declares. -/
def undeclared : Code := ⟨3001⟩

/-- An index on something that is no array. -/
def notArray : Code := ⟨3002⟩

/-- Operands without a common numeric type. -/
def coercion : Code := ⟨3003⟩

/-- A size of zero or of more than 32 bits. -/
def badArraySize : Code := ⟨3004⟩

/-- A name that its block declares twice. -/
def redeclared : Code := ⟨3005⟩

/-- An operator that takes no such operands. -/
def badOperator : Code := ⟨3006⟩

/-- A declaration whose storage cannot be addressed. -/
def frameTooLarge : Code := ⟨3007⟩

/-- A file could not be loaded. -/
def loadFailed : Code := ⟨4001⟩

/-- The titles of the codes that have one. -/
def titles : List (UInt16 × String) :=
  [(0, "Unknown error"),
    (1000, "Lexical information"),
    (1001, "Unknown character"),
    (1002, "Malformed number literal"),
    (1003, "Unterminated char literal"),
    (1004, "Token too long"),
    (1005, "Empty char literal"),
    (2000, "Syntax information"),
    (2001, "Unexpected token"),
    (2002, "Expected semicolon"),
    (2003, "Expected identifier"),
    (2004, "Expected type"),
    (2005, "Expected ':'"),
    (2006, "Unclosed parenthesis"),
    (2007, "Unclosed block"),
    (2008, "Unclosed bracket"),
    (2009, "Expected expression"),
    (3000, "Semantic information"),
    (3001, "Undeclared identifier"),
    (3002, "Indexed identifier is not an array"),
    (3003, "Operand types cannot be coerced"),
    (3004, "Invalid array or string size"),
    (3005, "Identifier redeclared in the same block"),
    (3006, "Operator not supported"),
    (3007, "Block frame exceeds addressable size"),
    (4001, "I/O load file error"),
    (4002, "I/O write error"),
    (5000, "Project information"),
    (5001, "Invalid ez.toml"),
    (5002, "Package name is missing")]

/-- The title of a code; codes without one share the title of the unknown code. -/
def title (c : Code) : Bytes :=
  match titles.find? fun p => p.1 == c.number with
  | some p => utf8 p.2
  | none => utf8 "Unknown error"

/-- The letters of the part of the compiler that a code belongs to. -/
def family? (c : Code) : Option Bytes :=
  match c.number.toNat / 1000 with
  | 1 => some (utf8 "LEX")
  | 2 => some (utf8 "SYN")
  | 3 => some (utf8 "SEM")
  | 4 => some (utf8 "IO")
  | 5 => some (utf8 "PRJ")
  | _ => none

/-- The identifier of a code: family and number, or `E0000` outside the families. -/
def id (c : Code) : Bytes :=
  match c.family? with
  | some f => f ++ decimal c.number.toNat
  | none => utf8 "E0000"

/-- The identifier with the title. -/
def render (c : Code) : Bytes :=
  utf8 "[" ++ c.id ++ utf8 "]: " ++ c.title

end Code

end ThreeAddress
