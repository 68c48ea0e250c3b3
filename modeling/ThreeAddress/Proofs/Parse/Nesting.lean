import ThreeAddress.Proofs.Parse.Statements

/-!
# Blocks within blocks

A block that a statement opens is closed by the time the statement has been read, also where the
source ends in front of its closing brace, and a closing brace that no block waits for closes none.
So a statement leaves as many blocks open as there were in front of it, and at no time fewer.

## Main definitions

* `Event.Nests` : how an event changes the number of open blocks.
* `Nested` : how events change the number of open blocks.

## Main results

* `nested_statements`, `nested_parseProgram` : statements close the blocks that they open.
-/

namespace ThreeAddress.Parse

variable {es : List Event}

/-! ### The number of open blocks -/

/-- Tests for an event that opens or closes a block. -/
def Event.isBrace : Event → Bool
  | .openBlock | .closeBlock => true
  | _ => false

theorem Event.isBrace_of_isInner {e : Event} (h : e.isInner = true) : e.isBrace = false := by
  cases e <;> first | rfl | cases h

/-- From so many open blocks, an event makes so many. -/
inductive Event.Nests : Event → Nat → Nat → Prop
  | openBlock (n : Nat) : Nests .openBlock n (n + 1)
  | closeBlock (n : Nat) : Nests .closeBlock (n + 1) n
  | other {e : Event} (he : e.isBrace = false) (n : Nat) : Nests e n n

/-- From so many open blocks, events one after another make so many. -/
abbrev Nested : List Event → Nat → Nat → Prop :=
  Chained Event.Nests

namespace Nested

/-- Events that open and close no block. -/
theorem ofFlat (hes : ∀ e ∈ es, e.isBrace = false) (n : Nat) : Nested es n n :=
  .same fun e he => .other (hes e he) n

theorem ofInner (hes : ∀ e ∈ es, e.isInner = true) (n : Nat) : Nested es n n :=
  ofFlat (fun e he => Event.isBrace_of_isInner (hes e he)) n

theorem lookEvents (i : Input) (n : Nat) : Nested i.lookEvents n n :=
  ofInner (isInner_lookEvents i) n

end Nested

/-! ### Steps that open no block -/

namespace Step

variable {α β : Type} {i : Input}

/-- A step opens and closes no block. -/
def Flat (s : Step α i) : Prop :=
  ∀ e ∈ s.events, e.isBrace = false

namespace Flat

theorem ofInner {s : Step α i} (hs : s.Inner) : s.Flat :=
  fun e he => Event.isBrace_of_isInner (hs e he)

theorem ofBind {s : Step α i} (hs : s.Flat)
    {next : α → (j : Input) → j.ahead <:+ i.ahead → Step β j}
    (hnext : ∀ a j h, (next a j h).Flat) : (s.bind next).Flat := by
  unfold Step.bind
  split
  · exact List.forall_mem_append.mpr ⟨hs, hnext _ _ _⟩
  · exact hs

theorem ofYield {s : Step α i} (hs : s.Flat) (event : α → Event)
    (hevent : ∀ a, (event a).isBrace = false) (value : β) : (s.yield event value).Flat := by
  unfold Step.yield
  split
  · exact List.forall_mem_append.mpr ⟨hs, List.forall_mem_singleton.mpr (hevent _)⟩
  · exact hs

theorem ofOrResync {s : Step α i} (hs : s.Flat) : s.orResync.Flat := by
  unfold Step.orResync
  split
  · exact hs
  · refine List.forall_mem_append.mpr ⟨hs, List.forall_mem_cons.mpr ⟨rfl, ?_⟩⟩
    exact ofInner (inner_skipStatement _)

end Flat

end Step

open Step (Flat)

theorem flat_parseLet (i : Input) : (parseLet i).Flat := by
  refine Flat.ofOrResync (Flat.ofBind (.ofInner (inner_expect _ _ _ _ _)) fun name j _ => ?_)
  refine Flat.ofBind (.ofInner (inner_expect _ _ _ _ _)) fun _ k _ => ?_
  have hdeclare := (Flat.ofInner (inner_parseType k)).ofYield (fun type => .declare name type)
    (fun _ => rfl) ()
  exact hdeclare.ofBind fun _ l _ => .ofInner (inner_expect _ _ _ _ _)

theorem flat_parseExprStmt (i : Input) : (parseExprStmt i).Flat :=
  ((Flat.ofInner (inner_parseExprBody i)).ofYield _ (fun _ => rfl) ()).ofOrResync

/-! ### Statements close what they open -/

/-- A statement closes the blocks that it opens, and the rest of a block closes that block. -/
theorem nested_statements :
    (∀ i n, Nested (parseStmt i).events n n) ∧
      ∀ opening i n, Nested (parseBlock opening i).events (n + 1) n := by
  apply parseStmt_induction
  case nil =>
    intro i h n
    rw [parseStmt_nil h]
    exact .nil n
  case declaration =>
    intro i l rest h hk n
    rw [parseStmt_let h hk]
    exact (Nested.lookEvents i n).append (Nested.ofFlat (flat_parseLet _) n)
  case inner =>
    intro i l rest h hk hblock n
    rw [parseStmt_block h hk]
    exact (Nested.lookEvents i n).append (.cons (.openBlock n) (hblock n))
  case brace =>
    intro i l rest h hk n
    rw [parseStmt_brace h hk]
    exact (Nested.lookEvents i n).append (.cons (.other rfl n) (.nil n))
  case expr =>
    intro i l rest h hk n
    rw [parseStmt_expr h hk]
    exact .ofFlat (flat_parseExprStmt i) n
  case unclosed =>
    intro opening i h n
    rw [parseBlock_nil opening h]
    exact (Nested.ofInner (inner_expect i _ _ _ _) (n + 1)).append (.cons (.closeBlock n) (.nil n))
  case close =>
    intro opening i l rest h hk n
    rw [parseBlock_close opening h hk]
    exact (Nested.lookEvents i (n + 1)).append (.cons (.closeBlock n) (.nil n))
  case more =>
    intro opening i l rest h hk hstmt hblock n
    rw [parseBlock_more opening h hk]
    exact (hstmt (n + 1)).append (hblock n)

/-- A whole source closes the blocks that it opens. -/
theorem nested_parseProgram (i : Input) (n : Nat) : Nested (parseProgram i) n n := by
  induction i using parseProgram.induct with
  | case1 i h =>
    rw [parseProgram_nil h]
    exact .nil n
  | case2 i l rest h s ih =>
    rw [parseProgram_more h]
    exact (nested_statements.1 i n).append ih

end ThreeAddress.Parse
