import ThreeAddress.Code.Generator

/-!
# The listing of an expression

Lowering an expression emits a list of instructions that can be told beforehand: the operands of a
node first, from left to right, then the node itself into the next temporary. Nothing in the list
depends on the sink or on what was emitted before, except that its temporaries are numbered from
the counter on.

## Main definitions

* `Instruction` : an opcode, the temporary written, and the texts of the operands.
* `Expr.Built`, `Expr.Constructed` : the expressions that checked construction yields, without and
  with temporaries among the leaves.
* `Expr.operations`, `Expr.code`, `Expr.atom` : the number of instructions of an expression, the
  instructions, and the atom that holds its value afterwards.
* `Generator.emitted` : a generator after a list of instructions.

## Main results

* `Generator.run_reduce_constructed` : over a sink that takes everything, lowering a constructed
  expression succeeds, emits its listing and yields its atom.
-/

namespace ThreeAddress

/-- An instruction that writes a temporary. -/
structure Instruction where
  /-- The operation. -/
  opcode : Opcode
  /-- The temporary written. -/
  target : UInt64
  /-- The texts of the operands. -/
  operands : List Bytes
deriving Repr, DecidableEq

namespace Instruction

/-- The text of an instruction: opcode, target and operands with blanks between them. -/
def text (i : Instruction) : Bytes :=
  i.opcode.name ++ utf8 " " ++ temporaryName i.target ++ utf8 " "
    ++ Bytes.joinWith (utf8 " ") i.operands

/-- The line of an instruction. -/
def line (i : Instruction) : Bytes :=
  utf8 "\t" ++ i.text

/-- What the sink is given for an instruction: its line with a newline. -/
def chunk (i : Instruction) : Bytes :=
  i.line ++ utf8 "\n"

end Instruction

namespace Expr

/-- What checked construction of a binary operation yields, and when. -/
theorem newArithmetic_eq_ok {op : TokenKind} {l r e : Expr} :
    newArithmetic op l r = .ok e ↔ op.isArithmetic = true ∧ ∃ s t type, l.type? = some s ∧
      r.type? = some t ∧ s.upcast? t = some type ∧ e = .arithmetic op type l r := by
  unfold newArithmetic
  by_cases hop : op.isArithmetic = true
  · simp only [hop, if_true, true_and]
    cases hl : l.type? with
    | none => simp [operandType, hl, bind, Except.bind]
    | some s =>
      cases hr : r.type? with
      | none => simp [operandType, hl, hr, bind, Except.bind]
      | some t =>
        cases hu : s.upcast? t with
        | none => simp [operandType, hl, hr, hu, bind, Except.bind, throw, throwThe,
            MonadExceptOf.throw]
        | some type => simp [operandType, hl, hr, hu, bind, Except.bind, pure, Except.pure, eq_comm]
  · simp [hop]

/-- What checked construction of a unary operation yields, and when. -/
theorem newUnary_eq_ok {op : TokenKind} {x e : Expr} :
    newUnary op x = .ok e ↔ isUnaryOperator op = true ∧ ∃ t type, x.type? = some t ∧
      DataType.int64.upcast? t = some type ∧ e = .unary op type x := by
  unfold newUnary
  by_cases hop : isUnaryOperator op = true
  · simp only [hop, if_true, true_and]
    cases hx : x.type? with
    | none => simp [operandType, hx, bind, Except.bind]
    | some t =>
      cases hu : DataType.int64.upcast? t with
      | none => simp [operandType, hx, hu, bind, Except.bind, throw, throwThe, MonadExceptOf.throw]
      | some type => simp [operandType, hx, hu, bind, Except.bind, pure, Except.pure, eq_comm]
  · simp [hop]

/-- Checked construction only looks at the types of the operands. -/
theorem newArithmetic_congr {op : TokenKind} {type : DataType} {l l' r r' : Expr}
    (h : newArithmetic op l r = .ok (arithmetic op type l r)) (hl : l'.type? = l.type?)
    (hr : r'.type? = r.type?) : newArithmetic op l' r' = .ok (arithmetic op type l' r') := by
  obtain ⟨hop, s, t, u, hs, ht, hu, heq⟩ := newArithmetic_eq_ok.mp h
  obtain ⟨-, rfl, -, -⟩ := arithmetic.inj heq
  exact newArithmetic_eq_ok.mpr ⟨hop, s, t, _, hl.trans hs, hr.trans ht, hu, rfl⟩

theorem newUnary_congr {op : TokenKind} {type : DataType} {x x' : Expr}
    (h : newUnary op x = .ok (unary op type x)) (hx : x'.type? = x.type?) :
    newUnary op x' = .ok (unary op type x') := by
  obtain ⟨hop, t, u, ht, hu, heq⟩ := newUnary_eq_ok.mp h
  obtain ⟨-, rfl, -⟩ := unary.inj heq
  exact newUnary_eq_ok.mpr ⟨hop, t, _, hx.trans ht, hu, rfl⟩

/-- An arithmetic operator has its opcode. -/
theorem exists_opcode {op : TokenKind} (h : op.isArithmetic = true) :
    ∃ o, Opcode.ofArithmetic? op = some o := by
  cases op with
  | plus | minus | star | slash => exact ⟨_, rfl⟩
  | _ => cases h

/-- The expressions that checked construction yields from declared names and literals. -/
inductive Built : Expr → Prop
  | identifier (id : Identifier) : Built (.identifier id)
  | constant (token : Token) (type : DataType) : Built (.constant token type)
  | arithmetic {op : TokenKind} {l r e : Expr} (hl : Built l) (hr : Built r)
      (h : newArithmetic op l r = .ok e) : Built e
  | unary {op : TokenKind} {x e : Expr} (hx : Built x) (h : newUnary op x = .ok e) : Built e
  | index (array : Identifier) {i : Expr} (hi : Built i) : Built (.index array i)

/-- The expressions that checked construction yields from declared names, literals and
temporaries. -/
inductive Constructed : Expr → Prop
  | identifier (id : Identifier) : Constructed (.identifier id)
  | constant (token : Token) (type : DataType) : Constructed (.constant token type)
  | temporary (id : UInt64) (type : DataType) : Constructed (.temporary id type)
  | arithmetic {op : TokenKind} {l r e : Expr} (hl : Constructed l) (hr : Constructed r)
      (h : newArithmetic op l r = .ok e) : Constructed e
  | unary {op : TokenKind} {x e : Expr} (hx : Constructed x) (h : newUnary op x = .ok e) :
      Constructed e
  | index (array : Identifier) {i : Expr} (hi : Constructed i) : Constructed (.index array i)

theorem Built.constructed {e : Expr} (h : e.Built) : e.Constructed := by
  induction h with
  | identifier id => exact .identifier id
  | constant t type => exact .constant t type
  | arithmetic _ _ h ihl ihr => exact .arithmetic ihl ihr h
  | unary _ h ih => exact .unary ih h
  | index a _ ih => exact .index a ih

/-- The number of instructions that an expression is lowered to. -/
def operations : Expr → Nat
  | arithmetic _ _ l r => l.operations + r.operations + 1
  | unary _ _ x => x.operations + 1
  | index _ i => i.operations + 1
  | _ => 0

/-- The atom that holds the value of an expression once it is lowered with temporaries from `n`
on. -/
def atom (n : UInt64) : Expr → Expr
  | arithmetic _ type l r => .temporary (n + UInt64.ofNat (l.operations + r.operations)) type
  | unary _ type x => .temporary (n + UInt64.ofNat x.operations) type
  | index a i => .temporary (n + UInt64.ofNat i.operations) a.type
  | e => e

/-- The text of that atom. -/
def operand (n : UInt64) (e : Expr) : Bytes :=
  match e.atom n with
  | .identifier id => id.name
  | .constant t _ => t.render
  | .temporary id _ => temporaryName id
  | _ => []

/-- The instructions of an expression with temporaries from `n` on. -/
def code (n : UInt64) : Expr → List Instruction
  | arithmetic op _ l r =>
    let m := n + UInt64.ofNat l.operations
    l.code n ++ r.code m ++ [⟨(Opcode.ofArithmetic? op).getD .add,
      n + UInt64.ofNat (l.operations + r.operations), [l.operand n, r.operand m]⟩]
  | unary _ _ x => x.code n ++ [⟨.inv, n + UInt64.ofNat x.operations, [x.operand n]⟩]
  | index a i => i.code n ++ [⟨.idx, n + UInt64.ofNat i.operations, [i.operand n, a.name]⟩]
  | _ => []

@[simp] theorem length_code (n : UInt64) (e : Expr) : (e.code n).length = e.operations := by
  induction e generalizing n with
  | arithmetic op type l r hl hr => simp [code, operations, hl, hr, Nat.add_assoc]
  | unary op type x hx => simp [code, operations, hx]
  | index a i hi => simp [code, operations, hi]
  | _ => rfl

/-- A built expression and its atom have the same type. -/
theorem type?_atom (n : UInt64) (e : Expr) : (e.atom n).type? = e.type? := by
  cases e <;> rfl

theorem Constructed.ne_absent {e : Expr} (h : e.Constructed) : e ≠ absent := by
  rintro rfl
  cases h with
  | arithmetic _ _ he =>
    obtain ⟨-, _, _, _, -, -, -, heq⟩ := newArithmetic_eq_ok.mp he
    cases heq
  | unary _ he =>
    obtain ⟨-, _, _, -, -, heq⟩ := newUnary_eq_ok.mp he
    cases heq

theorem Constructed.render_atom {e : Expr} (h : e.Constructed) (n : UInt64) :
    (e.atom n).render = .ok (e.operand n) := by
  cases e with
  | absent => exact absurd rfl h.ne_absent
  | _ => rfl

theorem Constructed.isAtom_atom {e : Expr} (h : e.Constructed) (n : UInt64) :
    (e.atom n).isAtom = .ok true := by
  cases e with
  | absent => exact absurd rfl h.ne_absent
  | _ => rfl

theorem render_atom (n : UInt64) {e : Expr} (h : e.Built) :
    (e.atom n).render = .ok (e.operand n) :=
  h.constructed.render_atom n

theorem isAtom_atom (n : UInt64) {e : Expr} (h : e.Built) : (e.atom n).isAtom = .ok true :=
  h.constructed.isAtom_atom n

end Expr

/-- A sink that has not failed and takes everything. -/
structure Sink.Open (s : Sink) : Prop where
  /-- It has not failed. -/
  failure : s.failure = none
  /-- It has no bound. -/
  room : s.room = none

theorem Sink.Open.recorder : Sink.recorder.Open := ⟨rfl, rfl⟩

namespace Generator

/-- A generator after a list of instructions. -/
def emitted (g : Generator) (is : List Instruction) : Generator where
  sink := { g.sink with chunks := (is.map Instruction.chunk).reverse ++ g.sink.chunks }
  ids := { g.ids with temps := g.ids.temps + UInt64.ofNat is.length }
  points := (is.map fun i => (⟨utf8 "emit", i.text⟩ : Point)).reverse ++ g.points

@[simp] theorem emitted_nil (g : Generator) : g.emitted [] = g := by
  simp [emitted]

@[simp] theorem emitted_emitted (g : Generator) (is js : List Instruction) :
    (g.emitted is).emitted js = g.emitted (is ++ js) := by
  simp [emitted, UInt64.ofNat_add, UInt64.add_assoc]

@[simp] theorem temps_emitted (g : Generator) (is : List Instruction) :
    (g.emitted is).ids.temps = g.ids.temps + UInt64.ofNat is.length := rfl

theorem open_emitted {g : Generator} (h : g.sink.Open) (is : List Instruction) :
    (g.emitted is).sink.Open := ⟨h.failure, h.room⟩

variable {α β : Type} {x : Lower α} {f : α → Lower β} {g g' : Generator}

theorem run_bind {a : α} (h : x.run g = .ok a g') : (x >>= f).run g = (f a).run g' := by
  change EStateM.bind x f g = f a g'
  rw [EStateM.bind, show x g = .ok a g' from h]

theorem run_orFault {a : α} {r : Except Fault α} (h : r = .ok a) (g : Generator) :
    (orFault r).run g = .ok a g := by
  rw [h]
  rfl

theorem run_build {e : Expr} {r : Except BuildError Expr} (h : r = .ok e) (g : Generator) :
    (build r).run g = .ok e g := by
  rw [h]
  rfl

/-- Storing a node takes the next temporary and emits one instruction. -/
theorem run_store (hg : g.sink.Open) (op : Opcode) (operands : List Bytes) {node : Expr}
    {type : DataType} (ht : node.type? = some type)
    (hr : node.render = .ok (Bytes.joinWith (utf8 " ") operands)) :
    (store op node).run g = .ok (.temporary g.ids.temps type)
      (g.emitted [⟨op, g.ids.temps, operands⟩]) := by
  simp only [store, EStateM.run, bind, EStateM.bind, nextTemp, ht, hr, orFault, pure,
    EStateM.pure, instruction, point, emit, Sink.instruction, Sink.write, hg.failure, hg.room]
  simp [emitted, Instruction.chunk, Instruction.line, Instruction.text, hg.failure, hg.room]

/-- Lowering a constructed expression over a sink that takes everything emits its listing and yields
its atom. -/
theorem run_reduce_constructed {e : Expr} (he : e.Constructed) (hg : g.sink.Open) :
    (reduce e).run g = .ok (e.atom g.ids.temps) (g.emitted (e.code g.ids.temps)) := by
  induction he generalizing g with
  | identifier id => simp [reduce, Expr.code, Expr.atom, EStateM.run, pure, EStateM.pure]
  | constant t type => simp [reduce, Expr.code, Expr.atom, EStateM.run, pure, EStateM.pure]
  | temporary id type => simp [reduce, Expr.code, Expr.atom, EStateM.run, pure, EStateM.pure]
  | @arithmetic op l r e hl hr he ihl ihr =>
    obtain ⟨hop, s, t, type, -, -, -, rfl⟩ := Expr.newArithmetic_eq_ok.mp he
    obtain ⟨o, ho⟩ := Expr.exists_opcode hop
    have hcode : arithmeticOpcode op = .ok o := by rw [arithmeticOpcode, ho]
    let m := g.ids.temps + UInt64.ofNat l.operations
    have hnode := Expr.newArithmetic_congr he (Expr.type?_atom g.ids.temps l) (Expr.type?_atom m r)
    rw [reduce, run_bind (run_orFault hcode g), run_bind (ihl hg),
      run_bind (ihr (open_emitted hg _)), emitted_emitted, temps_emitted, Expr.length_code,
      run_bind (run_build hnode _),
      run_store (open_emitted hg _) o [l.operand g.ids.temps, r.operand m] rfl
        (by simp [Expr.render, hl.render_atom, hr.render_atom, bind, Except.bind,
          pure, Except.pure, Bytes.joinWith])]
    simp [Expr.atom, Expr.code, ho, m, UInt64.ofNat_add]
  | @unary op x e hx he ih =>
    obtain ⟨-, t, type, -, -, rfl⟩ := Expr.newUnary_eq_ok.mp he
    have hnode := Expr.newUnary_congr he (Expr.type?_atom g.ids.temps x)
    rw [reduce, run_bind (ih hg), run_bind (run_build hnode _),
      run_store (open_emitted hg _) .inv [x.operand g.ids.temps] rfl
        (by simp [Expr.render, hx.render_atom, Bytes.joinWith])]
    simp [Expr.atom, Expr.code]
  | @index a i hi ih =>
    rw [reduce, run_bind (ih hg),
      run_store (open_emitted hg _) .idx [i.operand g.ids.temps, a.name] rfl
        (by simp [Expr.render, hi.render_atom, bind, Except.bind, pure, Except.pure,
          Bytes.joinWith])]
    simp [Expr.atom, Expr.code]

theorem run_reduce {e : Expr} (he : e.Built) (hg : g.sink.Open) :
    (reduce e).run g = .ok (e.atom g.ids.temps) (g.emitted (e.code g.ids.temps)) :=
  run_reduce_constructed he.constructed hg

end Generator

end ThreeAddress
