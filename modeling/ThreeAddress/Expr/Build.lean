import ThreeAddress.Expr.Basic

/-!
# Building expressions

Operations are built from an operator and operands; their type is the common type of the operands.
An operator that has no such node, or operands without a common type, are refused.

## Main definitions

* `BuildError` : why a node is refused.
* `Expr.newArithmetic`, `Expr.newUnary` : checked construction.
-/

namespace ThreeAddress

/-- Why a node is refused. -/
inductive BuildError where
  /-- The operator has no node with that many operands. -/
  | operator (op : TokenKind) (arity : Nat)
  /-- The two operands have no common type. -/
  | coercion (op : TokenKind) (left right : DataType)
  /-- The operand of a unary operator is not numeric. -/
  | unaryCoercion (op : TokenKind) (operand : DataType)
  /-- An operand is missing. -/
  | fault (cause : Fault)
deriving Repr, DecidableEq

/-- The wording of a refusal. -/
def BuildError.message : BuildError → Bytes
  | .operator op arity =>
    utf8 "operator " ++ op.spelling ++ utf8 " is not a valid " ++ decimal arity
      ++ utf8 "-ary expression operator"
  | .coercion op left right =>
    utf8 "cannot coerce " ++ left.render ++ utf8 " and " ++ right.render
      ++ utf8 " for operator " ++ op.spelling
  | .unaryCoercion op operand =>
    utf8 "cannot apply unary operator " ++ op.spelling ++ utf8 " to " ++ operand.render
  | .fault cause => cause.message

namespace Expr

/-- The type of an operand that has to be there. -/
def operandType (e : Expr) : Except BuildError DataType :=
  match e.type? with
  | some t => .ok t
  | none => .error (.fault .absent)

/-- Builds a binary operation. -/
def newArithmetic (op : TokenKind) (left right : Expr) : Except BuildError Expr :=
  if op.isArithmetic then do
    let s ← left.operandType
    let t ← right.operandType
    match s.upcast? t with
    | some type => return arithmetic op type left right
    | none => throw (.coercion op s t)
  else .error (.operator op 2)

/-- Tests for an operator that takes one operand. -/
def isUnaryOperator (op : TokenKind) : Bool :=
  op == .minus || op == .tilde

/-- Builds a unary operation. Its type is at least as wide as a 64-bit integer. -/
def newUnary (op : TokenKind) (operand : Expr) : Except BuildError Expr :=
  if isUnaryOperator op then do
    let t ← operand.operandType
    match DataType.int64.upcast? t with
    | some type => return unary op type operand
    | none => throw (.unaryCoercion op t)
  else .error (.operator op 1)

end Expr

end ThreeAddress
