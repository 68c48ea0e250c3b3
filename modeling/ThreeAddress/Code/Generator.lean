import ThreeAddress.Code.Opcode
import ThreeAddress.Code.Sink
import ThreeAddress.Expr.Build

/-!
# Lowering to three-address code

A composite expression is lowered operand by operand, then stored into a fresh temporary by one
instruction. Temporaries are numbered from 0 in the order of evaluation, labels from 1.

## Main definitions

* `Ids` : the numbers handed out.
* `Generator` : the state of lowering: a sink, the numbers, and a record of steps.
* `Generator.reduce` : lowers an expression to an atom.
* `Generator.generate` : lowers the operands only.
* `Generator.jumping`, `Generator.labelLine` : jumps and labels.
-/

namespace ThreeAddress

/-- The numbers handed out to temporaries and labels. -/
structure Ids where
  /-- How many temporaries there are. -/
  temps : UInt64 := 0
  /-- How many labels there are. -/
  labels : UInt64 := 0
deriving Repr, DecidableEq, Inhabited

/-- A step worth telling to an observer: its name and what it was about. -/
structure Point where
  /-- The name of the step. -/
  name : Bytes
  /-- What it was about. -/
  detail : Bytes
deriving Repr, DecidableEq

/-- The state of lowering. -/
structure Generator where
  /-- Where instructions go. -/
  sink : Sink := .recorder
  /-- The numbers handed out. -/
  ids : Ids := {}
  /-- The steps so far, the latest first. -/
  points : List Point := []
deriving Repr, DecidableEq, Inhabited

/-- Why lowering stopped. -/
inductive LowerError where
  /-- A node could not be built again over its lowered operands. -/
  | build (cause : BuildError)
  /-- The sink refused. -/
  | sink (cause : SinkError)
  /-- The expression has no code. -/
  | fault (cause : Fault)
deriving Repr, DecidableEq

/-- The wording of a lowering failure. -/
def LowerError.message : LowerError → Bytes
  | .build cause => cause.message
  | .sink cause => cause.message
  | .fault cause => cause.message

/-- A lowering step: it changes the generator even when it fails. -/
abbrev Lower := EStateM LowerError Generator

namespace Generator

/-- Takes the number of a fresh temporary. -/
def nextTemp : Lower UInt64 := fun g =>
  .ok g.ids.temps { g with ids := { g.ids with temps := g.ids.temps + 1 } }

/-- Takes the number of a fresh label. -/
def nextLabel : Lower UInt64 := fun g =>
  let id := g.ids.labels + 1
  .ok id { g with ids := { g.ids with labels := id } }

/-- Records a step. -/
def point (name detail : Bytes) : Lower Unit := fun g =>
  .ok () { g with points := ⟨name, detail⟩ :: g.points }

/-- Hands the sink to one of its operations. -/
def emit (operation : Sink → Option SinkError × Sink) : Lower Unit := fun g =>
  match operation g.sink with
  | (none, s) => .ok () { g with sink := s }
  | (some e, s) => .error (.sink e) { g with sink := s }

/-- Records an instruction and emits it. -/
def instruction (text : Bytes) : Lower Unit := do
  point (utf8 "emit") text
  emit fun s => s.instruction text

/-- Turns a checked construction into a lowering step. -/
def build : Except BuildError Expr → Lower Expr
  | .ok e => pure e
  | .error e => throw (.build e)

/-- Turns an answer that may be a fault into a lowering step. -/
def orFault {α : Type} : Except Fault α → Lower α
  | .ok a => pure a
  | .error f => throw (.fault f)

/-- The opcode of an arithmetic operator. -/
def arithmeticOpcode (op : TokenKind) : Except Fault Opcode :=
  match Opcode.ofArithmetic? op with
  | some o => .ok o
  | none => .error (.refused (utf8 "tac: bad arithmetic operator " ++ op.name))

/-- Stores a node over lowered operands into a fresh temporary. -/
def store (op : Opcode) (node : Expr) : Lower Expr := do
  let id ← nextTemp
  match node.type? with
  | none => throw (.fault .absent)
  | some type =>
    let operands ← orFault node.render
    instruction (op.name ++ utf8 " " ++ temporaryName id ++ utf8 " " ++ operands)
    return .temporary id type

/-- Lowers an expression to an atom. An atom stays as it is and emits nothing. -/
def reduce : Expr → Lower Expr
  | .absent => do
    let _ ← orFault Expr.absent.isAtom
    return .absent
  | .identifier id => return .identifier id
  | .constant t type => return .constant t type
  | .temporary id type => return .temporary id type
  | .arithmetic op _ l r => do
    let opcode ← orFault (arithmeticOpcode op)
    let left ← reduce l
    let right ← reduce r
    let node ← build (Expr.newArithmetic op left right)
    store opcode node
  | .unary op _ x => do
    let operand ← reduce x
    let node ← build (Expr.newUnary op operand)
    store .inv node
  | .index a i => do
    let place ← reduce i
    store .idx (.index a place)

/-- Lowers the operands of an expression and builds the node again over them. The array of an
element is not lowered. -/
def generate : Expr → Lower Expr
  | .absent => throw (.fault (.refused (utf8 "tac: unknown expression node <nil>")))
  | .identifier id => return .identifier id
  | .constant t type => return .constant t type
  | .temporary id type => return .temporary id type
  | .arithmetic op _ l r => do
    let left ← reduce l
    let right ← reduce r
    build (Expr.newArithmetic op left right)
  | .unary op _ x => do
    let operand ← reduce x
    build (Expr.newUnary op operand)
  | .index a i => do
    let place ← reduce i
    return .index a place

/-- Emits the jumps that go where the truth of an expression says. The label 0 stands for going on
with the next instruction. -/
def jumping (e : Expr) (trueLabel falseLabel : UInt64) : Lower Unit := do
  let test ← orFault e.render
  let jump (op : Opcode) (label : UInt64) : Lower Unit :=
    instruction (op.name ++ utf8 " " ++ labelName label ++ utf8 " " ++ test)
  if trueLabel = 0 then
    if falseLabel = 0 then pure () else jump .jmpf falseLabel
  else do
    jump .jmpt trueLabel
    if falseLabel = 0 then pure ()
    else instruction (Opcode.jmp.name ++ utf8 " " ++ labelName falseLabel)

/-- Places a label on a line of its own. -/
def labelLine (id : UInt64) : Lower Unit := do
  emit fun s => s.label id
  emit fun s => s.writeLine (utf8 ":")

end Generator

end ThreeAddress
