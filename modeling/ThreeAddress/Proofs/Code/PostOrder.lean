import Mathlib.Data.List.Forall2
import ThreeAddress.Proofs.Code.Acceptance

/-!
# Lowering in post-order

The listing of an expression holds one instruction for every node that is no atom. The nodes come
operands first and from left to right, and their instructions write consecutive temporaries. Every
node is built again over the atoms that its operands are lowered to. That cannot fail, since an
expression has the type of its atom.

## Main definitions

* `Expr.composites` : the nodes that are no atoms, in post-order.
* `Instruction.Stores` : an instruction that computes a node from what its operands were lowered to.
* `Expr.overAtoms` : a node built again over its lowered operands.

## Main results

* `Expr.stores_code` : the listing of an expression, instruction by instruction.
* `Generator.run_generate` : lowering the operands of a node alone.
* `Generator.run_reduce_postOrder` : lowering never fails, emits one instruction for each node and
  keeps the type.
-/

namespace ThreeAddress

namespace Expr

/-- The nodes of an expression that are no atoms: the operands of a node first, from left to right,
then the node itself. -/
def composites : Expr → List Expr
  | arithmetic op type l r => l.composites ++ r.composites ++ [arithmetic op type l r]
  | unary op type x => x.composites ++ [unary op type x]
  | index a i => i.composites ++ [index a i]
  | _ => []

@[simp] theorem length_composites (e : Expr) : e.composites.length = e.operations := by
  induction e with
  | arithmetic op type l r hl hr => simp [composites, operations, hl, hr, Nat.add_assoc]
  | unary op type x hx => simp [composites, operations, hx]
  | index a i hi => simp [composites, operations, hi]
  | _ => rfl

/-- What names an expression right behind its instructions, in front of the one that writes the
temporary `n`: an atom is its own text, and any other expression is in the temporary written
last. -/
def operandBefore (n : UInt64) : Expr → Bytes
  | absent => []
  | identifier id => id.name
  | constant t _ => t.render
  | temporary id _ => temporaryName id
  | arithmetic _ _ _ _ | unary _ _ _ | index _ _ => temporaryName (n - 1)

theorem operand_eq_operandBefore (n : UInt64) (e : Expr) :
    e.operand n = e.operandBefore (n + UInt64.ofNat e.operations) := by
  have hlast (k : Nat) : n + UInt64.ofNat k = n + UInt64.ofNat (k + 1) - 1 := by
    rw [UInt64.ofNat_add, ← UInt64.add_assoc]
    exact (UInt64.add_sub_cancel _ _).symm
  cases e with
  | arithmetic op type l r => exact congrArg temporaryName (hlast _)
  | unary op type x => exact congrArg temporaryName (hlast _)
  | index a i => exact congrArg temporaryName (hlast _)
  | _ => rfl

end Expr

/-- An instruction computes a node: it has the opcode of the node and names the operands of the
node. The instructions of the right operand stand right in front of it, and those of the left one in
front of these. -/
inductive Instruction.Stores (i : Instruction) : Expr → Prop
  | arithmetic {op : TokenKind} {type : DataType} {l r : Expr}
      (hopcode : Opcode.ofArithmetic? op = some i.opcode)
      (hoperands : i.operands = [l.operandBefore (i.target - UInt64.ofNat r.operations),
        r.operandBefore i.target]) : Stores i (.arithmetic op type l r)
  | unary {op : TokenKind} {type : DataType} {x : Expr} (hopcode : i.opcode = .inv)
      (hoperands : i.operands = [x.operandBefore i.target]) : Stores i (.unary op type x)
  | index {a : Identifier} {place : Expr} (hopcode : i.opcode = .idx)
      (hoperands : i.operands = [place.operandBefore i.target, a.name]) :
      Stores i (.index a place)

namespace Expr

/-- The listing of an expression computes its nodes in post-order, one by each instruction. -/
theorem stores_code {e : Expr} (he : e.Constructed) (n : UInt64) :
    List.Forall₂ Instruction.Stores (e.code n) e.composites := by
  induction he generalizing n with
  | identifier | constant | temporary => exact .nil
  | @arithmetic op l r _ hl hr h ihl ihr =>
    obtain ⟨hop, s, t, type, -, -, -, rfl⟩ := newArithmetic_eq_ok.mp h
    obtain ⟨o, ho⟩ := exists_opcode hop
    refine List.rel_append (List.rel_append (ihl n) (ihr _)) (.cons (.arithmetic ?_ ?_) .nil)
    · rw [ho, Option.getD_some]
    · rw [operand_eq_operandBefore, operand_eq_operandBefore]
      simp only [UInt64.ofNat_add, ← UInt64.add_assoc, UInt64.add_sub_cancel]
  | @unary op x _ hx h ih =>
    obtain ⟨-, t, type, -, -, rfl⟩ := newUnary_eq_ok.mp h
    exact List.rel_append (ih n) (.cons (.unary rfl (by rw [operand_eq_operandBefore])) .nil)
  | index a hi ih =>
    exact List.rel_append (ih n) (.cons (.index rfl (by rw [operand_eq_operandBefore])) .nil)

/-- A node over the atoms that its operands are lowered to with temporaries from `n` on. An atom
stays as it is. -/
def overAtoms (n : UInt64) : Expr → Expr
  | arithmetic op type l r => arithmetic op type (l.atom n) (r.atom (n + UInt64.ofNat l.operations))
  | unary op type x => unary op type (x.atom n)
  | index a i => index a (i.atom n)
  | e => e

theorem type?_overAtoms (n : UInt64) (e : Expr) : (e.overAtoms n).type? = e.type? := by
  cases e <;> rfl

theorem Constructed.exists_type? {e : Expr} (h : e.Constructed) : ∃ type, e.type? = some type := by
  cases e with
  | absent => exact absurd rfl h.ne_absent
  | _ => exact ⟨_, rfl⟩

/-- The atom of an expression is the expression itself or the temporary written last. -/
theorem Constructed.atom_cases {e : Expr} (h : e.Constructed) (n : UInt64) {type : DataType}
    (htype : e.type? = some type) :
    (e.isAtom = .ok true ∧ e.atom n = e) ∨
      (e.isAtom = .ok false ∧ ∃ i, (e.code n).getLast? = some i ∧
        e.atom n = .temporary i.target type) := by
  cases h with
  | arithmetic hl hr h =>
    obtain ⟨-, s, t, type, -, -, -, rfl⟩ := newArithmetic_eq_ok.mp h
    obtain rfl := Option.some.inj htype
    exact .inr ⟨rfl, _, List.getLast?_concat, rfl⟩
  | unary hx h =>
    obtain ⟨-, t, type, -, -, rfl⟩ := newUnary_eq_ok.mp h
    obtain rfl := Option.some.inj htype
    exact .inr ⟨rfl, _, List.getLast?_concat, rfl⟩
  | index a hi =>
    obtain rfl := Option.some.inj htype
    exact .inr ⟨rfl, _, List.getLast?_concat, rfl⟩
  | _ => exact .inl ⟨rfl, rfl⟩

end Expr

namespace Generator

variable {g : Generator}

/-- Lowering the operands of a node emits all of its listing but the last instruction, and builds
the node again over the atoms. -/
theorem run_generate {e : Expr} (he : e.Constructed) (hg : g.sink.Open) :
    (generate e).run g =
      .ok (e.overAtoms g.ids.temps) (g.emitted (e.code g.ids.temps).dropLast) := by
  cases he with
  | identifier | constant | temporary =>
    simp [generate, Expr.code, Expr.overAtoms, EStateM.run, pure, EStateM.pure]
  | @arithmetic op l r _ hl hr h =>
    obtain ⟨-, s, t, type, -, -, -, rfl⟩ := Expr.newArithmetic_eq_ok.mp h
    have hnode := Expr.newArithmetic_congr h (Expr.type?_atom g.ids.temps l)
      (Expr.type?_atom (g.ids.temps + UInt64.ofNat l.operations) r)
    rw [generate, run_bind (run_reduce_constructed hl hg),
      run_bind (run_reduce_constructed hr (open_emitted hg _)), emitted_emitted, temps_emitted,
      Expr.length_code, run_build hnode, Expr.code, List.dropLast_concat, Expr.overAtoms]
  | @unary op x _ hx h =>
    obtain ⟨-, t, type, -, -, rfl⟩ := Expr.newUnary_eq_ok.mp h
    have hnode := Expr.newUnary_congr h (Expr.type?_atom g.ids.temps x)
    rw [generate, run_bind (run_reduce_constructed hx hg), run_build hnode, Expr.code,
      List.dropLast_concat, Expr.overAtoms]
  | index a hi =>
    rw [generate, run_bind (run_reduce_constructed hi hg), Expr.code, List.dropLast_concat]
    rfl

/-- Lowering a constructed expression over a sink that takes everything never fails. It emits one
instruction for every node that is no atom, in post-order, into the temporaries from the counter on.
The answer is the expression itself if that is an atom, else the temporary written last, and has the
type of the expression. The node is built again over its lowered operands without failing. -/
theorem run_reduce_postOrder {e : Expr} (he : e.Constructed) (hg : g.sink.Open)
    (hroom : g.ids.temps.toNat + e.composites.length < UInt64.size) :
    ∃ (is : List Instruction) (a : Expr) (type : DataType),
      (reduce e).run g = .ok a (g.emitted is) ∧
      List.Forall₂ Instruction.Stores is e.composites ∧
      Numbered g.ids.temps.toNat is ∧
      (g.emitted is).ids.temps.toNat = g.ids.temps.toNat + e.composites.length ∧
      ((e.isAtom = .ok true ∧ a = e) ∨
        (e.isAtom = .ok false ∧ ∃ i, is.getLast? = some i ∧ a = .temporary i.target type)) ∧
      e.type? = some type ∧ a.type? = some type ∧
      (generate e).run g = .ok (e.overAtoms g.ids.temps) (g.emitted is.dropLast) ∧
      (e.overAtoms g.ids.temps).type? = some type := by
  rw [Expr.length_composites] at hroom ⊢
  obtain ⟨type, htype⟩ := he.exists_type?
  refine ⟨e.code g.ids.temps, e.atom g.ids.temps, type, run_reduce_constructed he hg,
    Expr.stores_code he _, ?_, ?_, he.atom_cases _ htype, htype, ?_, run_generate he hg, ?_⟩
  · have hnumbered := Expr.numbered_code e (Nat.le_of_lt hroom)
    rwa [UInt64.ofNat_toNat] at hnumbered
  · rw [temps_emitted, Expr.length_code, UInt64.toNat_add, UInt64.toNat_ofNat_of_lt' (by omega)]
    exact Nat.mod_eq_of_lt hroom
  · rw [Expr.type?_atom, htype]
  · rw [Expr.type?_overAtoms, htype]

/-- The product of a sum, of which one operand is a temporary already, and an inverted element. -/
def mixedProduct : Expr :=
  .arithmetic .star .int64
    (.arithmetic .plus .int32 (.temporary 3 .int32) (.constant ⟨.integer, {}, utf8 "1"⟩ .int32))
    (.unary .minus .int64 (.identifier ⟨utf8 "x", .int64, 0⟩))

theorem constructed_mixedProduct : mixedProduct.Constructed := by
  have hsum : Expr.newArithmetic .plus (.temporary 3 .int32)
      (.constant ⟨.integer, {}, utf8 "1"⟩ .int32) =
    .ok (.arithmetic .plus .int32 (.temporary 3 .int32)
      (.constant ⟨.integer, {}, utf8 "1"⟩ .int32)) := rfl
  have hinverse : Expr.newUnary .minus (.identifier ⟨utf8 "x", .int64, 0⟩) =
    .ok (.unary .minus .int64 (.identifier ⟨utf8 "x", .int64, 0⟩)) := rfl
  exact .arithmetic (.arithmetic (.temporary _ _) (.constant _ _) hsum)
    (.unary (.identifier _) hinverse)
    (Expr.newArithmetic_eq_ok.mpr ⟨rfl, .int32, .int64, .int64, rfl, rfl, rfl, rfl⟩)

/-- With four temporaries taken, the product is lowered to three instructions, and the last of them
writes the temporary 6. -/
theorem run_reduce_postOrder_mixedProduct :
    let g : Generator := { ids := { temps := 4 } }
    g.ids.temps.toNat + mixedProduct.composites.length < UInt64.size ∧
      ∃ is a, (reduce mixedProduct).run g = .ok a (g.emitted is) ∧
        List.Forall₂ Instruction.Stores is mixedProduct.composites ∧ Numbered 4 is ∧
        a.type? = some .int64 := by
  intro g
  have hroom : g.ids.temps.toNat + mixedProduct.composites.length < UInt64.size := by decide
  obtain ⟨is, a, type, hrun, hstores, hnumbered, -, -, htype, ha, -⟩ :=
    run_reduce_postOrder constructed_mixedProduct .recorder hroom
  obtain rfl := Option.some.inj htype
  exact ⟨hroom, is, a, hrun, hstores, hnumbered, ha⟩

end Generator

end ThreeAddress
