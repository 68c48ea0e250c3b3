import ThreeAddress.Proofs.Analysis.Emission
import ThreeAddress.Proofs.Lexer.TokenText

/-!
# Which sources pass the check

Names and literals in the lowered expressions are spelled as their tokens: names hold no white
space, and literals have no field that is spelled like a temporary. So the check can only stumble
over two things in the code of a source: a name that is spelled like a temporary which is not
written yet, and a char literal that holds a newline.

## Main definitions

* `Named` : every name is bound to an identifier of that name.
* `State.Leaves` : the names and the literals of the operands have a property each.

## Main results

* `leaves_lowered`, `spelled_lowered` : the leaves of the lowered expressions are tokens of the
  source, and so they are spelled as in a source.
* `checkLines_run_iff_legible` : the code of a source passes the check if and only if every operand
  of the lowered expressions is legible.
* `legibleFrom_of_plain` : that is so if no name is spelled like a temporary and no literal holds a
  newline.
-/

namespace ThreeAddress.Analysis

open Parse (Event parseProgram)

variable {limits : Limits} {s : State}

/-! ### Names -/

/-- Every name is bound to an identifier of that name. -/
def Named (env : Environment) : Prop :=
  ∀ scope ∈ env.scopes, ∀ p ∈ scope.names, p.2.name = p.1

theorem mem_of_lookup {names : List (Bytes × Identifier)} {name : Bytes} {id : Identifier}
    (h : names.lookup name = some id) : (name, id) ∈ names := by
  obtain ⟨front, back, rfl, -⟩ := List.lookup_eq_some_iff.mp h
  exact List.mem_append_right _ List.mem_cons_self

theorem Named.get? {env : Environment} (h : Named env) {name : Bytes} {id : Identifier}
    (hid : env.get? name = some id) : id.name = name := by
  obtain ⟨scope, hscope, hlookup⟩ := List.exists_of_findSome?_eq_some hid
  exact h scope hscope _ (mem_of_lookup hlookup)

theorem Named.push {env : Environment} (h : Named env) : Named env.push := by
  intro scope hscope
  rcases List.mem_cons.mp hscope with rfl | hscope
  · simp
  · exact h scope hscope

theorem Named.pop {env : Environment} (h : Named env) : Named env.pop := by
  unfold Environment.pop
  split
  · exact h
  · rename_i inner outer hscopes
    exact fun scope hscope => h scope (hscopes ▸ List.mem_cons_of_mem _ hscope)

theorem Named.put {env : Environment} (h : Named env) (id : Identifier) :
    Named (env.put id.name id) := by
  unfold Environment.put
  split
  · exact h
  · rename_i inner outer hscopes
    intro scope hscope p hp
    rcases List.mem_cons.mp hscope with rfl | hscope
    · rcases List.mem_cons.mp hp with rfl | hp
      · rfl
      · exact h inner (hscopes ▸ List.mem_cons_self) p (List.mem_filter.mp hp).1
    · exact h scope (hscopes ▸ List.mem_cons_of_mem _ hscope) p hp

theorem Named.declare {env env' : Environment} (h : Named env) {name : Bytes} {type : DataType}
    {id : Identifier} (hdeclare : env.declare name type = .ok (id, env')) : Named env' := by
  unfold Environment.declare at hdeclare
  split at hdeclare
  · cases hdeclare
  · split at hdeclare
    · cases hdeclare
    · split at hdeclare
      · cases hdeclare
        have hframe (frame : UInt64) : Named { env with frame := frame } := h
        exact (hframe _).put ⟨name, type, env.frame⟩
      · cases hdeclare

theorem named_declare (h : Named s.env) (name : Token) (type : DataType) :
    Named (s.declare limits name type).env := by
  rw [State.declare_eq]
  unfold State.reserved
  split
  · rwa [State.env_report, State.env_warned]
  · rename_i id env hdeclare
    rw [State.env_warned] at hdeclare
    exact h.declare hdeclare

theorem named_act (h : Named s.env) (e : Event) : Named (act limits s e).env := by
  by_cases hfinish : e = .finish
  · subst hfinish
    rwa [act, env_finish]
  · cases hscope : changesScopes e with
    | false => rwa [(keeps_act hscope hfinish).env]
    | true =>
      cases e with
      | declare name type => exact named_declare h name type
      | openBlock => exact h.push
      | closeBlock => exact h.pop
      | _ => cases hscope

/-! ### Leaves -/

/-- The name that an event brings has one property, and the literal another one. -/
def LeafEvent (name literal : Bytes → Prop) : Event → Prop
  | .name t => name t.text
  | .literal t => literal t.render
  | _ => True

variable {name literal : Bytes → Prop}

/-- The names of the operands have one property, and their literals another one. -/
structure State.Leaves (name literal : Bytes → Prop) (s : State) : Prop where
  /-- Names are bound under their own spelling. -/
  named : Named s.env
  /-- The leaves of the operands have the properties. -/
  operands : ∀ o ∈ s.operands, ∀ x, o.expr = some x → x.Leaves name literal

theorem State.Leaves.makes (h : s.Leaves name literal) {e : Event} (he : LeafEvent name literal e)
    {os : List Operand} (hos : MakesOperands s e os) :
    ∀ o ∈ os, ∀ x, o.expr = some x → x.Leaves name literal := by
  refine hos.onLeaves h.operands (fun t id ht hid => ?_) fun t type ht _ => ?_
  · subst ht
    show name id.name
    rw [h.named.get? hid]
    exact he
  · subst ht
    exact he

theorem State.Leaves.act (h : s.Leaves name literal) (limits : Limits) {e : Event}
    (he : LeafEvent name literal e) : (act limits s e).Leaves name literal :=
  ⟨named_act h.named e, h.makes he (makesOperands_act e)⟩

theorem State.Leaves.lowering (h : s.Leaves name literal) (e : Event) :
    ∀ x ∈ s.lowering e, x.Leaves name literal := by
  intro x hx
  obtain ⟨o, ho, hexpr⟩ := State.exists_operand_of_lowering hx
  exact h.operands o ho x hexpr

/-- The leaves of the expressions that events lower are those that the events brought. -/
theorem State.Leaves.loweredFrom (h : s.Leaves name literal) (limits : Limits) {es : List Event}
    (hes : ∀ e ∈ es, LeafEvent name literal e) :
    ∀ x ∈ loweredFrom limits s es, x.Leaves name literal := by
  induction es generalizing s with
  | nil => simp [Analysis.loweredFrom]
  | cons e es ih =>
    rw [Analysis.loweredFrom, List.forall_mem_append]
    exact ⟨h.lowering e, ih (h.act limits (hes e List.mem_cons_self))
      (fun e' he' => hes e' (List.mem_cons_of_mem _ he'))⟩

theorem leaves_start (limits : Limits) (g : Generator) :
    (State.start limits g).Leaves name literal :=
  ⟨Named.push (by simp [Named]), by simp [State.start]⟩

/-- The leaves of the lowered expressions are tokens of the source. -/
theorem leaves_lowered {f : SourceFile}
    (hname : ∀ t ∈ f.input.tokens, t.kind = .identifier → name t.text)
    (hliteral : ∀ t ∈ f.input.tokens, t.kind.isLiteral = true → literal t.render)
    (limits : Limits) (g : Generator) : ∀ x ∈ lowered limits g f, x.Leaves name literal := by
  refine (leaves_start limits g).loweredFrom limits fun e he => ?_
  have hfrom := Parse.from_parseProgram f.input e he
  cases e with
  | name t =>
    obtain ⟨hkind, l, hl, rfl⟩ := hfrom
    exact hname _ (List.mem_map_of_mem hl) hkind
  | literal t =>
    obtain ⟨hkind, l, hl, rfl⟩ := hfrom
    exact hliteral _ (List.mem_map_of_mem hl) hkind
  | _ => trivial

/-- The lowered expressions are spelled as in a source. -/
theorem spelled_lowered {f : SourceFile} (h : f.content.length < UInt32.size) (limits : Limits)
    (g : Generator) : ∀ x ∈ lowered limits g f, x.Spelled := by
  refine leaves_lowered (fun t ht hkind => ?_) (fun t ht hkind => ?_) limits g
  · obtain ⟨l, hl, rfl⟩ := f.exists_scanned h ht
    exact hl.spaceless hkind
  · obtain ⟨l, hl, rfl⟩ := f.exists_scanned h ht
    exact hl.literalText hkind

/-! ### The check -/

/-- Analysing a source with a fresh recorder never fails, and its code passes the check if and only
if no operand of the lowered expressions is a name spelled like a temporary that is still to be
written or a literal with a newline. -/
theorem checkLines_run_iff_legible (limits : Limits) {f : SourceFile}
    (hsize : f.content.length < UInt32.size - 1) :
    (run limits {} f.lexemes).failure = none ∧
      ((∃ w, checkLines (run limits {} f.lexemes).generator.sink.lines = .ok w) ↔
        LegibleFrom 0 (lowered limits {} f)) := by
  have hfits : f.content.length < UInt32.size := Nat.lt_of_lt_of_le hsize (Nat.sub_le _ _)
  have hcount : totalOperations (lowered limits {} f) ≤ UInt64.size :=
    Nat.le_trans (totalOperations_lowered hfits limits {})
      (Nat.le_of_lt (Nat.lt_trans hfits (by decide)))
  refine ⟨failure_run .recorder, ?_⟩
  rw [run_eq .recorder, ← checkLines_listing (spelled_lowered hfits limits {}) hcount,
    ← text_final]
  rfl

/-- If no name in a source is spelled like a temporary and no literal holds a newline, every operand
is legible. -/
theorem legibleFrom_of_plain {f : SourceFile}
    (hname : ∀ t ∈ f.input.tokens, t.kind = .identifier → temporaryOf? t.text = none)
    (hliteral : ∀ t ∈ f.input.tokens, t.kind.isLiteral = true → '\n'.toUInt8 ∉ t.render)
    (limits : Limits) (g : Generator) : LegibleFrom 0 (lowered limits g f) :=
  legibleFrom_of_forall (fun x hx n =>
    (Expr.legible_of_plain (leaves_lowered hname hliteral limits g x hx) n 0).1) 0

/-! ### A source that is refused -/

/-- A source with a variable that is spelled like a temporary. -/
def clashSource : SourceFile :=
  .ofContent 0 (utf8 "clash.ez") (utf8 "let __t5: i32; __t5 + 1;") 0

theorem lowered_clash : lowered {} {} clashSource =
    [.arithmetic .plus .int32 (.identifier ⟨utf8 "__t5", .int32, 0⟩)
      (.constant (sampleToken .integer 22 "1") .int32)] := by
  decide +kernel

theorem not_legibleFrom_clash : ¬ LegibleFrom 0 (lowered {} {} clashSource) := by
  rw [lowered_clash]
  intro h
  have hname : LegibleName 0 (utf8 "__t5") := h.1.2.2.1
  exact absurd (hname 5 (by decide +kernel)) (Nat.not_lt_zero _)

/-- The code of the sample passes the check, and that of the other source does not. -/
theorem checkLines_run_sample :
    (∃ w, checkLines (run {} {} sampleSource.lexemes).generator.sink.lines = .ok w) ∧
      ¬ ∃ w, checkLines (run {} {} clashSource.lexemes).generator.sink.lines = .ok w :=
  ⟨(checkLines_run_iff_legible {} (by decide +kernel)).2.mpr
      (legibleFrom_of_plain (by decide +kernel) (by decide +kernel) {} {}),
    fun h => not_legibleFrom_clash
      ((checkLines_run_iff_legible {} (by decide +kernel)).2.mp h)⟩

end ThreeAddress.Analysis
