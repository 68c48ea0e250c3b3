import ThreeAddress.DataType.Width
import ThreeAddress.Fault
import ThreeAddress.Token.Basic

/-!
# Expressions

Typed expression trees. Identifiers, constants and temporaries are atoms, which stand in
instructions as they are; the other nodes are lowered to one instruction each.

## Main definitions

* `Identifier`, `Expr` : declared names and expression trees.
* `Expr.type?` : the type of an expression.
* `Expr.render` : the operand text of an expression.
* `Expr.isAtom` : whether an expression is an operand already.
-/

namespace ThreeAddress

/-- A declared name. -/
structure Identifier where
  /-- The name. -/
  name : Bytes
  /-- Its type. -/
  type : DataType
  /-- The offset of its storage in the enclosing frame. -/
  offset : UInt64
deriving Repr, DecidableEq, Inhabited

/-- An expression. -/
inductive Expr where
  /-- An operand that was left out. -/
  | absent
  /-- A declared name. -/
  | identifier (id : Identifier)
  /-- A literal. -/
  | constant (token : Token) (type : DataType)
  /-- A value that an instruction computes. -/
  | temporary (id : UInt64) (type : DataType)
  /-- A binary operation. -/
  | arithmetic (op : TokenKind) (type : DataType) (left right : Expr)
  /-- A unary operation. -/
  | unary (op : TokenKind) (type : DataType) (operand : Expr)
  /-- An element of an array. -/
  | index (array : Identifier) (index : Expr)
deriving Repr, DecidableEq, Inhabited

/-- The operand name of a temporary. -/
def temporaryName (id : UInt64) : Bytes :=
  utf8 "__t" ++ decimal id.toNat

namespace Expr

/-- The type of an expression. The type of an element is the type of its array. -/
def type? : Expr → Option DataType
  | absent => none
  | identifier id => some id.type
  | constant _ t | temporary _ t | arithmetic _ t _ _ | unary _ t _ => some t
  | index a _ => some a.type

/-- The operand text: operands in order for a binary operation, the operand alone for a unary one,
and the index in front of the array for an element. -/
def render : Expr → Except Fault Bytes
  | absent => .error .absent
  | identifier id => .ok id.name
  | constant t _ => .ok t.render
  | temporary id _ => .ok (temporaryName id)
  | arithmetic _ _ l r => do
    let left ← l.render
    let right ← r.render
    return left ++ utf8 " " ++ right
  | unary _ _ x => x.render
  | index a i => do
    let text ← i.render
    return text ++ utf8 " " ++ a.name

/-- Tests whether an expression can stand in an instruction as it is. -/
def isAtom : Expr → Except Fault Bool
  | absent => .error (.refused (utf8 "expr: unknown node <nil>"))
  | identifier _ | constant _ _ | temporary _ _ => .ok true
  | arithmetic _ _ _ _ | unary _ _ _ | index _ _ => .ok false

end Expr

end ThreeAddress
