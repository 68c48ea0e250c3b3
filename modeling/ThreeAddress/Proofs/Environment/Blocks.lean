import ThreeAddress.Proofs.Environment.Layout

/-!
# Blocks leave no trace

Whatever is done in a block, with blocks of its own opened and closed in it, the environment behind
the block is the one in front of it. What was bound and declared in the block is gone, and so is its
storage, although the frame is not set back step by step but to where it was when the block was
opened. Inside the block a name is resolved as before until it is bound there.

The invariant is that the scopes in front of the block stand untouched below that of the block,
which keeps the frame in front of it as its base (`Encloses`).

## Main definitions

* `Environment.Edit`, `Environment.edit` : what may be done in a block, free bindings included.
* `Environment.innerBlocks?` : how many inner blocks a history leaves open.
* `Environment.Encloses` : an environment inside a block that was opened in another one.

## Main results

* `Environment.encloses_edit`, `Environment.encloses_editAll` : nothing reaches out of the block.
* `Environment.pop_editAll_push` : a block leaves no trace.
-/

namespace ThreeAddress.Environment

/-- What may be done in a block. -/
inductive Edit where
  /-- An operation of the layout. -/
  | operation (op : Operation)
  /-- A name is bound to any identifier, in place of an earlier binding of the same scope. -/
  | put (name : Bytes) (id : Identifier)
deriving Repr, DecidableEq

/-- Does an edit. A declaration that is refused changes nothing. -/
def edit (e : Environment) : Edit → Environment
  | .operation op => e.apply op
  | .put name id => e.put name id

/-- Does one edit after another. -/
def editAll (e : Environment) (edits : List Edit) : Environment :=
  edits.foldl edit e

/-- The number of inner blocks that are open behind a history, starting with so many. There is no
answer if the history closes the block that it starts in. -/
def innerBlocks? : Nat → List Edit → Option Nat
  | n, [] => some n
  | n, .operation .push :: edits => innerBlocks? (n + 1) edits
  | 0, .operation .pop :: _ => none
  | n + 1, .operation .pop :: edits => innerBlocks? n edits
  | n, .operation (.declare _ _) :: edits => innerBlocks? n edits
  | n, .put _ _ :: edits => innerBlocks? n edits

/-- An edit binds a name: freely, or by a declaration that is accepted. -/
def Binds (e : Environment) (name : Bytes) : Edit → Prop
  | .put n _ => n = name
  | .operation (.declare n type) => n = name ∧ (e.declare n type).isOk = true
  | .operation .push | .operation .pop => False

instance decidableBinds (e : Environment) (name : Bytes) : (x : Edit) → Decidable (e.Binds name x)
  | .put n _ => inferInstanceAs (Decidable (n = name))
  | .operation (.declare n type) =>
    inferInstanceAs (Decidable (n = name ∧ (e.declare n type).isOk = true))
  | .operation .push | .operation .pop => inferInstanceAs (Decidable False)

/-- Some edit of a history binds a name. -/
def BindsAlong (e : Environment) (name : Bytes) : List Edit → Prop
  | [] => False
  | x :: edits => e.Binds name x ∨ (e.edit x).BindsAlong name edits

instance decidableBindsAlong (name : Bytes) :
    (e : Environment) → (edits : List Edit) → Decidable (e.BindsAlong name edits)
  | _, [] => inferInstanceAs (Decidable False)
  | e, x :: edits =>
    have := decidableBindsAlong name (e.edit x) edits
    inferInstanceAs (Decidable (e.Binds name x ∨ (e.edit x).BindsAlong name edits))

/-- The scopes that are open inside a block, its own one last, stand above those of the environment
that the block was opened in, and the block starts at the end of the frame of that one. -/
structure Encloses (outer : Environment) (inner : List Scope) (block : Scope) (e : Environment) :
    Prop where
  /-- The outer scopes are there as they were. -/
  scopes_eq : e.scopes = inner ++ block :: outer.scopes
  /-- The block remembers the outer frame. -/
  base_eq : block.base = outer.frame

variable {outer e e' : Environment} {inner : List Scope} {block : Scope} {name : Bytes}

/-! ### The innermost scope -/

/-- What an edit makes of the open scopes: it opens one, closes one, binds a name in the innermost
one, or leaves them alone. -/
theorem scopes_edit (e : Environment) (x : Edit) :
    (x = .operation .push ∧ (e.edit x).scopes = ⟨[], e.frame⟩ :: e.scopes) ∨
    (x = .operation .pop ∧ (e.edit x).scopes = e.scopes.tail) ∨
    (x ≠ .operation .push ∧ x ≠ .operation .pop ∧ ((e.edit x).scopes = e.scopes ∨
      ∃ s rest n id, e.scopes = s :: rest ∧ (e.edit x).scopes = s.put n id :: rest ∧
        e.Binds n x)) := by
  cases x with
  | operation op =>
    cases op with
    | push => exact .inl ⟨rfl, rfl⟩
    | pop =>
      refine .inr (.inl ⟨rfl, ?_⟩)
      simp only [edit, apply, pop]
      split <;> simp [*]
    | declare n type =>
      refine .inr (.inr ⟨by simp, by simp, ?_⟩)
      cases hdeclare : e.declare n type with
      | error err => exact .inl (by simp [edit, apply, hdeclare])
      | ok p =>
        obtain ⟨id, e'⟩ := p
        obtain ⟨s, rest, hscopes, -, hscopes', -⟩ := of_declare_eq_ok hdeclare
        exact .inr ⟨s, rest, n, id, hscopes, by simpa [edit, apply, hdeclare] using hscopes',
          rfl, by rw [hdeclare]; rfl⟩
  | put n id =>
    refine .inr (.inr ⟨by simp, by simp, ?_⟩)
    cases hscopes : e.scopes with
    | nil => exact .inl (by simp [edit, put, hscopes])
    | cons s rest => exact .inr ⟨s, rest, n, id, rfl, by simp [edit, put, hscopes], rfl⟩

/-! ### Inside a block -/

/-- Opening a block encloses the environment that it is opened in. -/
theorem encloses_push (e : Environment) : e.Encloses [] ⟨[], e.frame⟩ e.push :=
  ⟨rfl, rfl⟩

/-- Closing an enclosed environment's block gives the outer environment back. -/
theorem Encloses.pop (h : outer.Encloses [] block e) : e.pop = outer := by
  obtain ⟨hscopes, hbase⟩ := h
  rw [Environment.pop, hscopes, List.nil_append]
  exact congrArg (Environment.mk outer.scopes) hbase

/-- A name that no scope of the block binds is resolved outside. -/
theorem Encloses.get?_eq (h : outer.Encloses inner block e)
    (hfree : ∀ s ∈ inner ++ [block], s.get? name = none) : e.get? name = outer.get? name := by
  have hnone : (inner ++ [block]).findSome? (fun s => s.get? name) = none :=
    List.findSome?_eq_none_iff.mpr hfree
  rw [get?, h.scopes_eq, List.append_cons, List.findSome?_append, hnone, Option.none_or, get?]

/-- No edit reaches out of the block, as long as it does not close it. Names that are not bound by
the edit stay free. -/
theorem encloses_edit (h : outer.Encloses inner block e) {x : Edit} {edits : List Edit} {n : Nat}
    (hlevel : innerBlocks? inner.length (x :: edits) = some n) :
    ∃ inner' block', outer.Encloses inner' block' (e.edit x) ∧
      innerBlocks? inner'.length edits = some n ∧
      ∀ name, ¬ e.Binds name x → (∀ s ∈ inner ++ [block], s.get? name = none) →
        ∀ s ∈ inner' ++ [block'], s.get? name = none := by
  obtain ⟨hscopes, hbase⟩ := h
  obtain ⟨rfl, hx⟩ | ⟨rfl, hx⟩ | ⟨hpush, hpop, hx⟩ := scopes_edit e x
  · -- one more inner block, without names
    refine ⟨⟨[], e.frame⟩ :: inner, block, ⟨by rw [hx, hscopes]; rfl, hbase⟩, hlevel, ?_⟩
    exact fun name _ hfree => List.forall_mem_cons.mpr ⟨rfl, hfree⟩
  · -- the innermost of the inner blocks goes
    cases inner with
    | nil => cases hlevel
    | cons s inner =>
      refine ⟨inner, block, ⟨by rw [hx, hscopes]; rfl, hbase⟩, hlevel, ?_⟩
      exact fun name _ hfree => (List.forall_mem_cons.mp hfree).2
  · have hrest : innerBlocks? inner.length edits = some n := by
      cases x with
      | operation op =>
        cases op with
        | push => exact absurd rfl hpush
        | pop => exact absurd rfl hpop
        | declare m type => rwa [innerBlocks?] at hlevel
      | put m id => rwa [innerBlocks?] at hlevel
    obtain hsame | ⟨s, rest, m, id, htop, hput, hbinds⟩ := hx
    · exact ⟨inner, block, ⟨by rw [hsame, hscopes], hbase⟩, hrest, fun _ _ hfree => hfree⟩
    -- a name is bound in the innermost scope, which may be that of the block itself
    have hfree (s : Scope) (name : Bytes) (hname : ¬ e.Binds name x) (hs : s.get? name = none) :
        (s.put m id).get? name = none := by
      have hne : name ≠ m := fun heq => hname (heq ▸ hbinds)
      rw [Scope.get?_put, if_neg hne, hs]
    rw [hscopes] at htop
    cases inner with
    | nil =>
      obtain ⟨rfl, rfl⟩ := List.cons.inj htop
      refine ⟨[], block.put m id, ⟨hput, hbase⟩, hrest, fun name hname hall => ?_⟩
      have hblock : block.get? name = none := hall block (List.mem_singleton_self block)
      rintro s (_ | ⟨_, hs⟩)
      · exact hfree block name hname hblock
      · cases hs
    | cons s' inner =>
      obtain ⟨rfl, rfl⟩ := List.cons.inj htop
      refine ⟨s'.put m id :: inner, block, ⟨hput, hbase⟩, hrest, fun name hname hall => ?_⟩
      obtain ⟨hs, hinner⟩ := List.forall_mem_cons.mp hall
      exact List.forall_mem_cons.mpr ⟨hfree s' name hname hs, hinner⟩

/-- A history that does not close the block stays inside it, with as many inner blocks open as it
leaves open. -/
theorem encloses_editAll (h : outer.Encloses inner block e) {edits : List Edit} {n : Nat}
    (hlevel : innerBlocks? inner.length edits = some n) :
    ∃ inner' block', outer.Encloses inner' block' (e.editAll edits) ∧ inner'.length = n ∧
      ∀ name, ¬ e.BindsAlong name edits → (∀ s ∈ inner ++ [block], s.get? name = none) →
        ∀ s ∈ inner' ++ [block'], s.get? name = none := by
  induction edits generalizing e inner block with
  | nil =>
    rw [innerBlocks?] at hlevel
    exact ⟨inner, block, h, Option.some.inj hlevel, fun _ _ hfree => hfree⟩
  | cons x edits ih =>
    obtain ⟨inner₁, block₁, hnext, hrest, hkept⟩ := encloses_edit h hlevel
    obtain ⟨inner₂, block₂, hlast, hlength, hkept'⟩ := ih hnext hrest
    refine ⟨inner₂, block₂, hlast, hlength, fun name hname hfree => ?_⟩
    obtain ⟨hx, hedits⟩ := not_or.mp hname
    exact hkept' name hedits (hkept name hx hfree)

/-- The front of a history that does not close its block does not close it either. -/
theorem exists_innerBlocks?_of_append {n m : Nat} {front back : List Edit}
    (h : innerBlocks? n (front ++ back) = some m) : ∃ k, innerBlocks? n front = some k := by
  induction front generalizing n with
  | nil => exact ⟨n, by rw [innerBlocks?]⟩
  | cons x front ih =>
    cases x with
    | operation op =>
      cases op with
      | push => exact ih (n := n + 1) h
      | pop =>
        cases n with
        | zero => cases h
        | succ n => exact ih (n := n) h
      | declare name type =>
        rw [List.cons_append, innerBlocks?] at h
        rw [innerBlocks?]
        exact ih h
    | put name id =>
      rw [List.cons_append, innerBlocks?] at h
      rw [innerBlocks?]
      exact ih h

/-- A block leaves no trace: after a balanced history between opening and closing it, whatever is
bound and declared on the way and whether it is accepted or not, the environment is the one in front
of the block. At every point inside the block a name that was not bound since it was opened is
resolved as in front of it. -/
theorem pop_editAll_push (e : Environment) {edits : List Edit}
    (hbalanced : innerBlocks? 0 edits = some 0) :
    (e.push.editAll edits).pop = e ∧ ∀ front, front <+: edits → ∀ name,
      ¬ e.push.BindsAlong name front → (e.push.editAll front).get? name = e.get? name := by
  have hinner {edits : List Edit} {n : Nat} (hlevel : innerBlocks? 0 edits = some n) :
      innerBlocks? ([] : List Scope).length edits = some n := hlevel
  refine ⟨?_, fun front hfront name hname => ?_⟩
  · obtain ⟨inner, block, hinside, hlength, -⟩ :=
      encloses_editAll (encloses_push e) (hinner hbalanced)
    obtain rfl := List.length_eq_zero_iff.mp hlength
    exact hinside.pop
  · obtain ⟨back, rfl⟩ := hfront
    obtain ⟨n, hlevel⟩ := exists_innerBlocks?_of_append hbalanced
    obtain ⟨inner, block, hinside, -, hkept⟩ := encloses_editAll (encloses_push e) (hinner hlevel)
    exact hinside.get?_eq (hkept name hname (List.forall_mem_singleton.mpr rfl))

/-- An environment with a name `a` of four bytes. -/
def oneName : Environment :=
  (({} : Environment).push.apply (.declare (utf8 "a") .int32))

/-- In the block `a` is shadowed, an inner block declares and binds further names, and a declaration
that does not fit is refused. -/
def shadowing : List Edit :=
  [.operation (.declare (utf8 "a") .float64), .operation .push,
    .operation (.declare (utf8 "b") .char), .put (utf8 "a") ⟨utf8 "c", .bool, 7⟩, .operation .pop,
    .operation (.declare (utf8 "d") (.array (.array .int64 4294967295) 4294967295))]

/-- Behind the block `a` has its four bytes again. The name of the refused declaration is not bound
anywhere in the block. -/
theorem pop_editAll_push_shadowing :
    innerBlocks? 0 shadowing = some 0 ∧
      (oneName.push.editAll shadowing).local? (utf8 "a") ≠ oneName.get? (utf8 "a") ∧
      (oneName.push.editAll shadowing).pop = oneName ∧
      (oneName.push.editAll shadowing).get? (utf8 "d") = oneName.get? (utf8 "d") := by
  have hbalanced : innerBlocks? 0 shadowing = some 0 := by decide
  obtain ⟨hpop, hget⟩ := pop_editAll_push oneName hbalanced
  refine ⟨hbalanced, by decide, hpop, hget shadowing (List.prefix_refl _) (utf8 "d") ?_⟩
  decide +kernel

end ThreeAddress.Environment
