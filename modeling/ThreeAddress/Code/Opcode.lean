import ThreeAddress.Bytes
import ThreeAddress.Token.Kind

/-!
# Opcodes

The operations of three-address code. Value instructions write a temporary; jumps name a label.
-/

namespace ThreeAddress

/-- An operation of three-address code. -/
inductive Opcode where
  /-- Sum. -/
  | add
  /-- Difference. -/
  | sub
  /-- Product. -/
  | mul
  /-- Quotient. -/
  | div
  /-- Unary operation. -/
  | inv
  /-- Element of an array. -/
  | idx
  /-- Jump. -/
  | jmp
  /-- Jump if true. -/
  | jmpt
  /-- Jump if false. -/
  | jmpf
deriving Repr, DecidableEq

namespace Opcode

/-- All opcodes. -/
def all : List Opcode :=
  [.add, .sub, .mul, .div, .inv, .idx, .jmp, .jmpt, .jmpf]

/-- The spelling of an opcode. -/
def name : Opcode → Bytes
  | .add => utf8 "add"
  | .sub => utf8 "sub"
  | .mul => utf8 "mul"
  | .div => utf8 "div"
  | .inv => utf8 "inv"
  | .idx => utf8 "idx"
  | .jmp => utf8 "jmp"
  | .jmpt => utf8 "jmpt"
  | .jmpf => utf8 "jmpf"

/-- Tests whether an opcode is a jump. -/
def isJump : Opcode → Bool
  | .jmp | .jmpt | .jmpf => true
  | _ => false

/-- Gives the opcode of a spelling. -/
def ofName? (name : Bytes) : Option Opcode :=
  all.find? fun o => o.name == name

/-- Gives the opcode of an arithmetic operator. -/
def ofArithmetic? : TokenKind → Option Opcode
  | .plus => some .add
  | .minus => some .sub
  | .star => some .mul
  | .slash => some .div
  | _ => none

end Opcode

end ThreeAddress
