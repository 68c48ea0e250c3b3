import ThreeAddress.Proofs.Analysis.Checking
import ThreeAddress.Proofs.Analysis.Operands
import ThreeAddress.Proofs.Analysis.Spelling
import ThreeAddress.Proofs.Parse.Scopes

/-!
# The storage behind a name

A name stands for the storage that its declaration in force has been given, so it stands for the
same storage wherever the same declaration is in force. The operands of a statement are resolved
while it is read, and within a statement no block is opened or closed and nothing is declared.

## Main definitions

* `Resolves` : an environment finds what the visible declarations have been given.
* `State.Grounded` : the names of the operands are resolved to what they stand for.

## Main results

* `get?_foldl` : what a name is resolved to behind some events of a source.
* `grounded_foldl` : the operands behind some events of a source.
-/

namespace ThreeAddress.Analysis

open Parse (Balanced Event Visible inForce?)

variable {limits : Limits} {s : State}

/-! ### Names -/

/-- Scopes find for every name what the visible declaration of it has been given, and so do the
outer scopes. -/
inductive Resolves (given : Nat → Bytes → Option Identifier) : List Scope → Visible → Prop
  | nil : Resolves given [] []
  | cons {scope : Scope} {scopes : List Scope} {block : List (Bytes × Nat)} {v : Visible}
      (h : ∀ name, (scope :: scopes).findSome? (·.get? name) =
        (Visible.find? (block :: v) name).bind fun place => given place name)
      (hrest : Resolves given scopes v) : Resolves given (scope :: scopes) (block :: v)

variable {given : Nat → Bytes → Option Identifier} {scopes : List Scope} {v : Visible}

theorem Resolves.find? (h : Resolves given scopes v) (name : Bytes) :
    scopes.findSome? (·.get? name) = (v.find? name).bind fun place => given place name := by
  cases h with
  | nil => rfl
  | cons h _ => exact h name

theorem Resolves.tail (h : Resolves given scopes v) : Resolves given scopes.tail v.tail := by
  cases h with
  | nil => exact .nil
  | cons _ hrest => exact hrest

/-- Scopes that are the same but for what the innermost one finds for a name. -/
inductive SameBut (name : Bytes) : List Scope → List Scope → Prop
  | nil : SameBut name [] []
  | cons {scope scope' : Scope} (outer : List Scope)
      (h : ∀ other, other ≠ name → scope'.get? other = scope.get? other) :
      SameBut name (scope :: outer) (scope' :: outer)

theorem SameBut.refl (name : Bytes) (scopes : List Scope) : SameBut name scopes scopes := by
  cases scopes with
  | nil => exact .nil
  | cons scope outer => exact .cons outer fun _ _ => rfl

theorem sameBut_of_declare {env env' : Environment} {name : Bytes} {type : DataType}
    {id : Identifier} (h : env.declare name type = .ok (id, env')) :
    SameBut name env.scopes env'.scopes := by
  unfold Environment.declare at h
  split at h
  · cases h
  · rename_i scope outer hscopes
    split at h
    · cases h
    · split at h
      · cases h
        unfold Environment.put
        simp only [hscopes]
        exact .cons outer fun other hother => by rw [Scope.get?_put, if_neg hother]
      · cases h

/-- A declaration changes what the innermost scope finds for its name only. -/
theorem sameBut_declare (name : Token) (type : DataType) :
    SameBut name.text s.env.scopes (s.declare limits name type).env.scopes := by
  rw [State.declare_eq]
  unfold State.reserved
  split
  · rw [State.env_report, State.env_warned]
    exact .refl _ _
  · rename_i id env hdeclare
    rw [State.env_warned] at hdeclare
    exact sameBut_of_declare hdeclare

/-- The declaration at a place keeps scopes and visible declarations together, if its name is given
what the scopes find for it then. -/
theorem Resolves.declare (h : Resolves given scopes v) {scopes' : List Scope} {name : Token}
    (hsame : SameBut name.text scopes scopes') {place : Nat}
    (hgiven : given place name.text = scopes'.findSome? (·.get? name.text)) (type : DataType) :
    Resolves given scopes' (v.step place (.declare name type)) := by
  cases h with
  | nil =>
    cases hsame
    exact .nil
  | @cons scope outer block v h hrest =>
    cases hsame with
    | @cons _ scope' _ hother =>
      refine .cons (fun other => ?_) hrest
      by_cases hname : other = name.text
      · rw [hname, ← hgiven]
        simp [Visible.find?]
      · have hblock : Visible.find? (((name.text, place) :: block) :: v) other =
            Visible.find? (block :: v) other := by
          rw [Visible.find?, Visible.find?, List.findSome?_cons, List.findSome?_cons,
            List.lookup_cons, beq_eq_false_iff_ne.mpr hname]
        rw [hblock, ← h other, List.findSome?_cons, List.findSome?_cons, hother other hname]

/-- An event keeps scopes and visible declarations together, if names are given what they are
resolved to behind it. -/
theorem Resolves.act (h : Resolves given s.env.scopes v) {place : Nat} (e : Event)
    (hgiven : ∀ name, given place name = (act limits s e).env.get? name) :
    Resolves given (act limits s e).env.scopes (v.step place e) := by
  have hkeep (henv : (Analysis.act limits s e).env = s.env) (hstep : v.step place e = v) :
      Resolves given (Analysis.act limits s e).env.scopes (v.step place e) := by
    rw [henv, hstep]
    exact h
  cases e with
  | openBlock => exact .cons (fun name => h.find? name) h
  | closeBlock =>
    have hpop : s.env.pop.scopes = s.env.scopes.tail := by
      unfold Environment.pop
      split <;> simp_all
    show Resolves given s.env.pop.scopes v.tail
    rw [hpop]
    exact h.tail
  | declare name type => exact h.declare (sameBut_declare name type) (hgiven name.text) type
  | finish => exact hkeep env_finish rfl
  | _ => exact hkeep (keeps_act rfl (by simp)).env rfl

theorem Resolves.foldl (h : Resolves given s.env.scopes v) {es : List Event} {place : Nat}
    (hgiven : ∀ i < es.length, ∀ name,
      given (place + i) name = ((es.take (i + 1)).foldl (Analysis.act limits) s).env.get? name) :
    Resolves given (es.foldl (Analysis.act limits) s).env.scopes (v.behind place es) := by
  induction es generalizing s v place with
  | nil => exact h
  | cons e es ih =>
    refine ih (h.act e (hgiven 0 (Nat.succ_pos _))) fun i hi name => ?_
    rw [Nat.add_assoc, Nat.add_comm 1]
    exact hgiven (i + 1) (Nat.succ_lt_succ hi) name

/-- What a name is resolved to right behind the declaration at a place. -/
def storage (limits : Limits) (g : Generator) (es : List Event) (place : Nat) (name : Bytes) :
    Option Identifier :=
  ((es.take (place + 1)).foldl (act limits) (.start limits g)).env.get? name

/-- A name is resolved to the storage that its declaration in force has been given. -/
theorem get?_foldl (limits : Limits) (g : Generator) {all es : List Event} (hes : es <+: all)
    (name : Bytes) :
    (es.foldl (act limits) (.start limits g)).env.get? name =
      (inForce? es name).bind fun place => storage limits g all place name := by
  have hstart : Resolves (storage limits g all) (State.start limits g).env.scopes [[]] :=
    .cons (fun _ => rfl) .nil
  refine (hstart.foldl fun i hi name => ?_).find? name
  obtain ⟨back, rfl⟩ := hes
  rw [Nat.zero_add, storage, List.take_append_of_le_length hi]

/-! ### Operands -/

/-- The names of the operands are resolved to what they stand for, and they have one property; the
literals of the operands have another one. -/
structure State.Grounded (name : Identifier → Prop) (literal : Token → DataType → Prop)
    (s : State) : Prop where
  /-- Names are bound under their own spelling. -/
  named : Named s.env
  /-- The leaves of the operands. -/
  operands : ∀ o ∈ s.operands, ∀ x, o.expr = some x →
    x.OnLeaves (fun id => s.env.get? id.name = some id ∧ name id) literal

variable {name : Identifier → Prop} {literal : Token → DataType → Prop} {es : List Event}
  {m n : Nat}

/-- Blocks and declarations come up when there is no operand. -/
theorem eq_zero_of_changesScopes {e : Event} (he : e.Stacks m n) (h : changesScopes e = true) :
    n = 0 := by
  cases he with
  | openBlock | closeBlock | declare => rfl
  | _ => cases h

theorem State.Grounded.act (h : s.Grounded name literal) (limits : Limits) {e : Event}
    (he : e.Stacks m n) (hlength : s.operands.length = m)
    (hname : ∀ t id, e = .name t → id.name = t.text → name id)
    (hliteral : ∀ t type, e = .literal t →
      (t.kind.isLiteral = true → HasType [] (.literal t) type) → literal t type) :
    (act limits s e).Grounded name literal := by
  refine ⟨named_act h.named e, ?_⟩
  cases hscope : changesScopes e with
  | true =>
    have hnone : (Analysis.act limits s e).operands.length = n := length_operands_act he hlength
    rw [eq_zero_of_changesScopes he hscope] at hnone
    rw [List.length_eq_zero_iff.mp hnone]
    simp
  | false =>
    by_cases hfinish : e = .finish
    · subst hfinish
      rw [Analysis.act, operands_finish]
      simp
    · rw [(keeps_act hscope hfinish).env]
      refine (makesOperands_act e).onLeaves h.operands (fun t id ht hid => ?_) hliteral
      have hspelled := h.named.get? hid
      exact ⟨by rw [hspelled, hid], hname t id ht hspelled⟩

theorem State.Grounded.foldl (h : s.Grounded name literal) (limits : Limits)
    (hes : Balanced es m n) (hlength : s.operands.length = m)
    (hname : ∀ t id, .name t ∈ es → id.name = t.text → name id)
    (hliteral : ∀ t type, .literal t ∈ es →
      (t.kind.isLiteral = true → HasType [] (.literal t) type) → literal t type) :
    (es.foldl (Analysis.act limits) s).Grounded name literal := by
  induction hes generalizing s with
  | nil => exact h
  | cons he _ ih =>
    refine ih (h.act limits he hlength ?_ ?_) (length_operands_act he hlength) ?_ ?_
    · rintro t id rfl
      exact hname t id List.mem_cons_self
    · rintro t type rfl
      exact hliteral t type List.mem_cons_self
    · exact fun t id ht => hname t id (List.mem_cons_of_mem _ ht)
    · exact fun t type ht => hliteral t type (List.mem_cons_of_mem _ ht)

/-- The name of a storage is spelled in a source. -/
def NameIn (f : SourceFile) (id : Identifier) : Prop :=
  ∃ t ∈ f.input.tokens, t.kind = .identifier ∧ id.name = t.text

/-- A literal of a source, with its type. -/
def LiteralIn (f : SourceFile) (t : Token) (type : DataType) : Prop :=
  t ∈ f.input.tokens ∧ t.kind.isLiteral = true ∧ HasType [] (.literal t) type

/-- At any time the operands are made of resolved names and of literals of the source. -/
theorem grounded_foldl (limits : Limits) (g : Generator) {f : SourceFile}
    (hes : es <+: Parse.parseProgram f.input) :
    (es.foldl (act limits) (.start limits g)).Grounded (NameIn f) (LiteralIn f) := by
  obtain ⟨back, hback⟩ := hes
  have hbalanced := Parse.balanced_parseProgram f.input
  rw [← hback] at hbalanced
  obtain ⟨n, hn, -⟩ := hbalanced.exists_of_append
  have hmem {e : Event} (he : e ∈ es) : e ∈ Parse.parseProgram f.input :=
    hback ▸ List.mem_append_left back he
  have hstart : (State.start limits g).Grounded (NameIn f) (LiteralIn f) :=
    ⟨Named.push (by simp [Named]), by simp [State.start]⟩
  refine hstart.foldl limits hn rfl (fun t id ht hid => ?_) fun t type ht htype => ?_
  · obtain ⟨hkind, l, hl, rfl⟩ := Parse.from_parseProgram f.input _ (hmem ht)
    exact ⟨_, List.mem_map_of_mem hl, hkind, hid⟩
  · obtain ⟨hkind, l, hl, rfl⟩ := Parse.from_parseProgram f.input _ (hmem ht)
    exact ⟨List.mem_map_of_mem hl, hkind, htype hkind⟩

end ThreeAddress.Analysis
