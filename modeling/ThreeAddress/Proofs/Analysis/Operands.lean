import ThreeAddress.Proofs.Analysis.Emission
import ThreeAddress.Proofs.Parse.Stack

/-!
# The number of operands

The operands of an analysis are as many as its events make: an operand with an error counts like any
other one, so the number does not depend on what is declared or on what fits.

## Main results

* `length_operands_act`, `length_operands_foldl` : the number of operands behind events.
-/

namespace ThreeAddress.Analysis

open Parse (Balanced Event)

variable {limits : Limits} {s : State}

namespace State

theorem length_refuse (d : Diagnostic) (span : Span) :
    ((s.report limits d).pushOperand none span).operands.length = s.operands.length + 1 := by
  rw [pushOperand, operands_report, List.length_cons]

theorem length_pushBuilt (span : Span) (x : Except BuildError Expr) :
    (s.pushBuilt limits span x).operands.length = s.operands.length + 1 := by
  cases x with
  | ok e => rfl
  | error e => exact length_refuse _ _

end State

theorem length_binary (op : Token) {n : Nat} (h : s.operands.length = n + 2) :
    (s.binary limits op).operands.length = n + 1 := by
  obtain ⟨right, rest, hops⟩ := List.exists_cons_of_length_eq_add_one h
  rw [hops, List.length_cons] at h
  obtain ⟨left, below, rfl⟩ := List.exists_cons_of_length_eq_add_one (Nat.succ.inj h)
  have hbelow : below.length = n := Nat.succ.inj (Nat.succ.inj h)
  unfold State.binary
  rw [hops]
  dsimp only
  split
  · rw [State.length_pushBuilt, hbelow]
  · rw [State.pushOperand, List.length_cons, hbelow]

theorem length_index (closing : Span) {n : Nat} (h : s.operands.length = n + 2) :
    (s.index limits closing).operands.length = n + 1 := by
  obtain ⟨place, rest, hops⟩ := List.exists_cons_of_length_eq_add_one h
  rw [hops, List.length_cons] at h
  obtain ⟨array, below, rfl⟩ := List.exists_cons_of_length_eq_add_one (Nat.succ.inj h)
  have hbelow : below.length = n := Nat.succ.inj (Nat.succ.inj h)
  unfold State.index
  rw [hops]
  dsimp only
  split
  · split
    · rw [State.pushOperand, List.length_cons, hbelow]
    · rw [State.length_refuse, hbelow]
  · rw [State.pushOperand, List.length_cons, hbelow]

theorem length_unary (op : Token) {n : Nat} (h : s.operands.length = n + 1) :
    (s.unary limits op).operands.length = n + 1 := by
  obtain ⟨inner, below, hops⟩ := List.exists_cons_of_length_eq_add_one h
  unfold State.unary
  rw [hops] at h ⊢
  dsimp only
  split
  · rw [State.length_pushBuilt]
    exact h
  · exact h

theorem length_name (t : Token) :
    (s.name limits t).operands.length = s.operands.length + 1 := by
  unfold State.name
  split
  · rfl
  · exact State.length_refuse _ _

theorem length_literal (t : Token) :
    (s.literal limits t).operands.length = s.operands.length + 1 := by
  unfold State.literal
  split
  · split
    · rfl
    · exact State.length_refuse _ _
  · split
    · rfl
    · exact State.length_refuse _ _
  · rfl
  · rfl

/-- The operands of an analysis are as many as its events make. -/
theorem length_operands_act {e : Event} {m n : Nat} (he : e.Stacks m n)
    (h : s.operands.length = m) : (act limits s e).operands.length = n := by
  cases he with
  | look l n => exact h
  | complain d n => rwa [act, State.operands_report]
  | openBlock => exact h
  | closeBlock => exact h
  | declare name type => rwa [act, operands_declare]
  | name t n => rw [act, length_name, h]
  | literal t n => rw [act, length_literal, h]
  | invalid span n => rw [act, State.pushOperand, List.length_cons, h]
  | binary op n => exact length_binary op h
  | unary op n => exact length_unary op h
  | group opening closing n =>
    obtain ⟨inner, below, hops⟩ := List.exists_cons_of_length_eq_add_one h
    rw [act, State.group, hops]
    rwa [hops] at h
  | index closing n => exact length_index closing h
  | finish => rw [act, operands_finish]; rfl
  | abandon n => rfl

theorem length_operands_foldl {es : List Event} {m n : Nat} (hes : Balanced es m n)
    (h : s.operands.length = m) : (es.foldl (act limits) s).operands.length = n :=
  hes.foldl (act limits) (P := fun n s => s.operands.length = n)
    (fun _ _ _ _ => length_operands_act) h

end ThreeAddress.Analysis
