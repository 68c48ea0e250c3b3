import ThreeAddress.Code.Opcode
import ThreeAddress.Text.Fields
import ThreeAddress.Text.Integer
import ThreeAddress.Text.Quoted

/-!
# Checking emitted code

The lines of a unit are well formed when every line is a label or an indented instruction with a
known opcode, every value instruction writes a temporary numbered above all earlier ones, and every
temporary that is read was written by an earlier line.

## Main definitions

* `LineFault` : what is wrong with a line.
* `checkLines` : the first fault of a list of lines.
-/

namespace ThreeAddress

/-- What is wrong with a line of code. -/
inductive LineFault where
  /-- It is neither a label nor indented. -/
  | notIndented (line : Bytes)
  /-- It has no operands. -/
  | noOperands (line : Bytes)
  /-- A value instruction writes something that is no temporary. -/
  | noTemporary (line : Bytes)
  /-- A value instruction writes a temporary that is not above the earlier ones. -/
  | reused (operand : Bytes)
  /-- A temporary is read that no earlier line wrote. -/
  | unwritten (operand : Bytes)
  /-- A jump goes to something that is no label. -/
  | noLabel (line : Bytes)
  /-- The opcode is not known. -/
  | unknownOpcode (opcode : Bytes)
deriving Repr, DecidableEq

/-- The wording of a fault in the line with the given number. -/
def LineFault.message (number : Nat) (f : LineFault) : Bytes :=
  utf8 "line " ++ decimal number ++ utf8 " " ++ match f with
    | .notIndented line => Quoted.text line ++ utf8 " is not indented"
    | .noOperands line => Quoted.text line ++ utf8 " has no operands"
    | .noTemporary line => Quoted.text line ++ utf8 " does not write a temporary"
    | .reused operand => utf8 "reuses or reorders temporary " ++ operand
    | .unwritten operand => utf8 "reads " ++ operand ++ utf8 " before it is written"
    | .noLabel line => Quoted.text line ++ utf8 " jumps to a non-label"
    | .unknownOpcode opcode => utf8 "has unknown opcode " ++ Quoted.text opcode

/-- Reads a decimal number of 64 bits. -/
def wordOf? (digits : Bytes) : Option UInt64 :=
  match Integer.readNat (.fixed 10) (UInt64.size - 1) digits with
  | .ok n => some (UInt64.ofNat n)
  | .error _ => none

/-- The number of the temporary that an operand names. -/
def temporaryOf? (operand : Bytes) : Option UInt64 :=
  (Bytes.strip? (utf8 "__t") operand).bind wordOf?

/-- Tests for a line that holds a label alone. -/
def isLabelLine (line : Bytes) : Bool :=
  (((Bytes.strip? (utf8 "L") line).bind (Bytes.stripEnd? (utf8 ":"))).bind wordOf?).isSome

/-- What earlier lines have written. -/
structure Written where
  /-- The temporaries written. -/
  defined : List UInt64 := []
  /-- The least number that may be written next. -/
  next : UInt64 := 0
deriving Repr, DecidableEq, Inhabited

/-- The first operand that reads a temporary not written before. -/
def unwritten? (w : Written) (operands : List Bytes) : Option Bytes :=
  operands.find? fun o =>
    match temporaryOf? o with
    | some id => !w.defined.contains id
    | none => false

/-- Checks that the operands read were written before. -/
def checkReads (w : Written) (operands : List Bytes) : Except LineFault Unit :=
  match unwritten? w operands with
  | some o => .error (.unwritten o)
  | none => .ok ()

/-- Checks one instruction with its first operand and the others. -/
def checkInstruction (w : Written) (line opcode target : Bytes) (operands : List Bytes) :
    Except LineFault Written :=
  match Opcode.ofName? opcode with
  | none => .error (.unknownOpcode opcode)
  | some o =>
    if o.isJump then
      if (utf8 "L").isPrefixOf target then do
        checkReads w operands
        return w
      else .error (.noLabel line)
    else
      match temporaryOf? target with
      | none => .error (.noTemporary line)
      | some id =>
        if id < w.next then .error (.reused target)
        else do
          checkReads w operands
          return ⟨id :: w.defined, id + 1⟩

/-- Checks one line. -/
def checkLine (w : Written) (line : Bytes) : Except LineFault Written :=
  if isLabelLine line then .ok w
  else match Bytes.strip? (utf8 "\t") line with
    | none => .error (.notIndented line)
    | some body =>
      match Fields.split body with
      | opcode :: target :: operands => checkInstruction w line opcode target operands
      | _ => .error (.noOperands line)

/-- Checks lines from the given number on; the first fault comes with the number of its line. -/
def checkLinesFrom (w : Written) (number : Nat) : List Bytes → Except (Nat × LineFault) Written
  | [] => .ok w
  | line :: lines =>
    match checkLine w line with
    | .ok w => checkLinesFrom w (number + 1) lines
    | .error f => .error (number, f)

/-- Checks the lines of a unit. -/
def checkLines (lines : List Bytes) : Except (Nat × LineFault) Written :=
  checkLinesFrom {} 1 lines

end ThreeAddress
