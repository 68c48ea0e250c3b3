import Mathlib
import ThreeAddress.Environment
import ThreeAddress.Proofs.Analysis.WellFormed

/-!
# How storage is laid out

Whatever is done to an environment, its frame is laid out like a stack: every open scope has the
storage from its base up to the base of the next inner one, or up to the end of the frame. The names
of a scope have their storage there and share none of it, also where names are shadowed or declared
again. So the frame is as large as all declarations that were accepted in the open scopes take
together, and no word in it has wrapped around.

The invariant is told scope by scope (`Stacked`): below a scope stands a stack that ends at its
base, so closing the scope leaves that stack behind.

## Main definitions

* `Environment.Operation`, `Environment.apply` : what is done to an environment.
* `Environment.Ledger`, `Environment.run` : the accepted declarations of the open scopes.
* `Environment.LaidOut` : how storage is laid out.

## Main results

* `Environment.stacked_apply` : every operation keeps the stack.
* `Environment.laidOut_run` : storage is laid out so after every history.
-/

namespace ThreeAddress

/-- The bytes of a frame that belong to an identifier. -/
def Identifier.storage (id : Identifier) : Set Nat :=
  Set.Ico id.offset.toNat (id.offset.toNat + id.type.bytes)

namespace Environment

/-- What is done to an environment. -/
inductive Operation where
  /-- A scope is opened. -/
  | push
  /-- The innermost scope is closed. -/
  | pop
  /-- A name is declared. -/
  | declare (name : Bytes) (type : DataType)
deriving Repr, DecidableEq

/-- Does an operation. -/
def apply (e : Environment) : Operation → Environment
  | .push => e.push
  | .pop => e.pop
  | .declare name type =>
    match e.declare name type with
    | .ok (_, e') => e'
    | .error _ => e

/-- The types of all declarations that were accepted in the open scopes, also of those that another
one has taken the place of; the innermost scope comes first. -/
abbrev Ledger := List (List DataType)

/-- Notes an operation in the ledger of an environment. -/
def note (e : Environment) (l : Ledger) : Operation → Ledger
  | .push => [] :: l
  | .pop => l.tail
  | .declare name type =>
    match e.declare name type, l with
    | .ok _, types :: outer => (type :: types) :: outer
    | _, _ => l

/-- The environment behind a history, with its ledger. -/
def run (ops : List Operation) : Environment × Ledger :=
  ops.foldl (fun s op => (s.1.apply op, s.1.note s.2 op)) ({}, [])

/-- The identifiers that are bound in open scopes, shadowed ones included. -/
def bound (e : Environment) : List Identifier :=
  e.scopes.flatMap fun s => s.names.map Prod.snd

/-- How the storage of an environment is laid out. -/
structure LaidOut (e : Environment) (l : Ledger) : Prop where
  /-- No byte belongs to two identifiers. -/
  disjoint : e.bound.Pairwise fun a b => Disjoint a.storage b.storage
  /-- Every identifier has its storage behind the base of its scope and in front of the end of the
  frame. -/
  inside : ∀ s ∈ e.scopes, ∀ b ∈ s.names,
    s.base ≤ b.2.offset ∧ b.2.offset.toNat + b.2.type.bytes ≤ e.frame.toNat
  /-- A name is bound once in a scope. -/
  unique : ∀ s ∈ e.scopes, (s.names.map Prod.fst).Nodup
  /-- No scope starts in front of one around it. -/
  bases : e.scopes.Pairwise fun inner outer => outer.base ≤ inner.base
  /-- Every scope starts in the frame or at its end. -/
  base_le : ∀ s ∈ e.scopes, s.base ≤ e.frame
  /-- The frame holds what was accepted and nothing more. -/
  frame_eq : e.frame.toNat = (l.flatten.map DataType.bytes).sum

/-! ### The stack of scopes -/

/-- The names of a scope share the storage from its base up to an offset. -/
structure Holds (s : Scope) (top : Nat) : Prop where
  /-- They have it one by one. -/
  disjoint : (s.names.map Prod.snd).Pairwise fun a b => Disjoint a.storage b.storage
  /-- They have it there. -/
  inside : ∀ b ∈ s.names, s.base ≤ b.2.offset ∧ b.2.offset.toNat + b.2.type.bytes ≤ top
  /-- Each of them is bound once. -/
  unique : (s.names.map Prod.fst).Nodup

/-- Scopes share the storage up to an offset, each with what was accepted in it. -/
inductive Stacked : Ledger → List Scope → Nat → Prop
  | nil : Stacked [] [] 0
  | cons {l : Ledger} {types : List DataType} {s : Scope} {outer : List Scope} {top : Nat}
      (houter : Stacked l outer s.base.toNat) (hs : Holds s top)
      (htop : top = s.base.toNat + (types.map DataType.bytes).sum) :
      Stacked (types :: l) (s :: outer) top

variable {l : Ledger} {scopes : List Scope} {top : Nat}

namespace Stacked

theorem base_le (h : Stacked l scopes top) : ∀ s ∈ scopes, s.base.toNat ≤ top := by
  induction h with
  | nil => simp
  | cons _ _ htop ih =>
    rintro x (_ | ⟨_, hx⟩)
    · omega
    · have := ih x hx
      omega

theorem inside (h : Stacked l scopes top) : ∀ s ∈ scopes, ∀ b ∈ s.names,
    s.base ≤ b.2.offset ∧ b.2.offset.toNat + b.2.type.bytes ≤ top := by
  induction h with
  | nil => simp
  | cons _ hs htop ih =>
    rintro x (_ | ⟨_, hx⟩) b hb
    · exact hs.inside b hb
    · obtain ⟨hbase, hend⟩ := ih x hx b hb
      exact ⟨hbase, by omega⟩

theorem bases (h : Stacked l scopes top) :
    scopes.Pairwise fun inner outer => outer.base ≤ inner.base := by
  induction h with
  | nil => exact .nil
  | cons houter _ _ ih => exact .cons (fun x hx => houter.base_le x hx) ih

theorem sum_eq (h : Stacked l scopes top) : top = (l.flatten.map DataType.bytes).sum := by
  induction h with
  | nil => rfl
  | cons _ _ htop ih => rw [htop, ih, List.flatten_cons, List.map_append, List.sum_append,
      Nat.add_comm]

theorem disjoint (h : Stacked l scopes top) :
    (scopes.flatMap fun s => s.names.map Prod.snd).Pairwise
      fun a b => Disjoint a.storage b.storage := by
  induction h with
  | nil => exact .nil
  | cons houter hs _ ih =>
    rename_i s outer _
    rw [List.flatMap_cons, List.pairwise_append]
    refine ⟨hs.disjoint, ih, fun a ha b hb => ?_⟩
    -- all outer storage ends in front of the base of the inner scope
    obtain ⟨p, hp, rfl⟩ := List.mem_map.mp ha
    obtain ⟨t, ht, hb⟩ := List.mem_flatMap.mp hb
    obtain ⟨q, hq, rfl⟩ := List.mem_map.mp hb
    have hinner := UInt64.le_iff_toNat_le.mp (hs.inside p hp).1
    have houter := (houter.inside t ht q hq).2
    exact Set.disjoint_left.mpr fun x hx hx' => by
      simp only [Identifier.storage, Set.mem_Ico] at hx hx'
      omega

theorem unique (h : Stacked l scopes top) : ∀ s ∈ scopes, (s.names.map Prod.fst).Nodup := by
  induction h with
  | nil => simp
  | cons _ hs _ ih => exact List.forall_mem_cons.mpr ⟨hs.unique, ih⟩

/-- A stack up to the end of the frame is a layout of the frame. -/
theorem laidOut {e : Environment} (h : Stacked l e.scopes e.frame.toNat) : e.LaidOut l where
  disjoint := h.disjoint
  inside := h.inside
  unique := h.unique
  bases := h.bases
  base_le s hs := UInt64.le_iff_toNat_le.mpr (h.base_le s hs)
  frame_eq := h.sum_eq

end Stacked

/-- A further name has its storage behind that of all others. -/
theorem Holds.put {s : Scope} (h : Holds s top) {id : Identifier} (hid : id.offset.toNat = top)
    (hbase : s.base.toNat ≤ top) (name : Bytes) :
    Holds (s.put name id) (top + id.type.bytes) := by
  have hkept : ∀ b ∈ s.names.filter (fun p => p.1 != name), b ∈ s.names :=
    fun b hb => (List.mem_filter.mp hb).1
  refine ⟨?_, ?_, ?_⟩
  · refine List.pairwise_cons.mpr ⟨fun a ha => ?_, ?_⟩
    · obtain ⟨p, hp, rfl⟩ := List.mem_map.mp ha
      have hend := (h.inside p (hkept p hp)).2
      exact Set.disjoint_left.mpr fun x hx hx' => by
        simp only [Identifier.storage, Set.mem_Ico] at hx hx'
        omega
    · exact h.disjoint.sublist (List.filter_sublist.map _)
  · refine List.forall_mem_cons.mpr ⟨⟨?_, by rw [hid]⟩, fun b hb => ?_⟩
    · exact UInt64.le_iff_toNat_le.mpr (hid ▸ hbase)
    · obtain ⟨hstart, hend⟩ := h.inside b (hkept b hb)
      exact ⟨hstart, by omega⟩
  · refine List.nodup_cons.mpr ⟨fun hmem => ?_, h.unique.sublist (List.filter_sublist.map _)⟩
    obtain ⟨p, hp, hname⟩ := List.mem_map.mp hmem
    exact bne_iff_ne.mp (List.mem_filter.mp hp).2 hname

/-! ### Operations -/

variable {e e' : Environment} {name : Bytes} {type : DataType} {id : Identifier}

/-- What an accepted declaration does: the name is bound to the end of the frame, which grows by the
exact width of the type. -/
theorem of_declare_eq_ok (h : e.declare name type = .ok (id, e')) :
    ∃ s outer, e.scopes = s :: outer ∧ id = ⟨name, type, e.frame⟩ ∧
      e'.scopes = s.put name id :: outer ∧ e'.frame.toNat = e.frame.toNat + type.bytes := by
  unfold declare at h
  split at h
  · cases h
  · rename_i s outer hscopes
    split at h
    · cases h
    · rename_i w hw
      split at h
      · rename_i hfits
        cases h
        refine ⟨s, outer, hscopes, rfl, ?_, ?_⟩
        · simp only [put, hscopes]
        · rw [← DataType.bytes_of_checkedWidth hw]
          simp only [put, hscopes]
          rw [UInt64.toNat_add, Nat.mod_eq_of_lt hfits]
      · cases h

/-- A declaration is refused if no scope is open, or the width of the type or the frame with it has
no exact word. -/
theorem declare_eq_error_iff : (∃ err, e.declare name type = .error err) ↔
    e.scopes = [] ∨ type.checkedWidth.2 = false ∨
      UInt64.size ≤ e.frame.toNat + type.bytes := by
  unfold declare
  cases hscopes : e.scopes with
  | nil => simp
  | cons s outer =>
    rcases hw : type.checkedWidth with ⟨w, sure⟩
    cases sure with
    | false => simp
    | true =>
      rw [← DataType.bytes_of_checkedWidth hw]
      by_cases hfits : e.frame.toNat + w.toNat < UInt64.size
      · simp [hfits]
      · simp [hfits, Nat.le_of_not_lt hfits]

/-- Every operation keeps the stack. -/
theorem stacked_apply (h : Stacked l e.scopes e.frame.toNat) (op : Operation) :
    Stacked (e.note l op) (e.apply op).scopes (e.apply op).frame.toNat := by
  cases op with
  | push =>
    refine .cons (s := ⟨[], e.frame⟩) h ⟨.nil, ?_, .nil⟩ rfl
    exact fun b hb => absurd hb List.not_mem_nil
  | pop =>
    obtain ⟨scopes, frame⟩ := e
    generalize htop : frame.toNat = top at h
    cases h with
    | nil =>
      show Stacked [] [] frame.toNat
      rw [htop]
      exact .nil
    | cons houter _ _ => exact houter
  | declare name type =>
    cases hdeclare : e.declare name type with
    | error err => simpa [apply, note, hdeclare] using h
    | ok p =>
      obtain ⟨id, e'⟩ := p
      obtain ⟨s, outer, hscopes, rfl, hscopes', hframe⟩ := of_declare_eq_ok hdeclare
      rw [hscopes] at h
      cases h with
      | cons houter hs htop =>
        have hput : Holds (s.put name ⟨name, type, e.frame⟩) (e.frame.toNat + type.bytes) :=
          hs.put rfl (by omega) name
        simp only [apply, note, hdeclare, hscopes', hframe]
        refine .cons houter hput ?_
        show _ = s.base.toNat + _
        rw [List.map_cons, List.sum_cons]
        omega

/-- The stack stands after every history. -/
theorem stacked_run (ops : List Operation) :
    Stacked (run ops).2 (run ops).1.scopes (run ops).1.frame.toNat := by
  suffices h : ∀ s : Environment × Ledger, Stacked s.2 s.1.scopes s.1.frame.toNat →
      let t := ops.foldl (fun s op => (s.1.apply op, s.1.note s.2 op)) s
      Stacked t.2 t.1.scopes t.1.frame.toNat from h _ .nil
  induction ops with
  | nil => exact fun s hs => hs
  | cons op ops ih => exact fun s hs => ih _ (stacked_apply hs op)

/-- After every history the storage of all bound identifiers is laid out like a stack in a frame of
exactly the accepted declarations. A further declaration is either accepted, and the frame grows by
the exact width of its type, or it is refused because there is no exact word for the outcome, and
then it changes nothing. -/
theorem laidOut_run (ops : List Operation) :
    (run ops).1.LaidOut (run ops).2 ∧ ∀ (name : Bytes) (type : DataType),
      match (run ops).1.declare name type with
      | .ok (id, e') => id = ⟨name, type, (run ops).1.frame⟩ ∧
          (run ops).1.apply (.declare name type) = e' ∧
          e'.frame.toNat = (run ops).1.frame.toNat + type.bytes
      | .error _ => (run ops).1.apply (.declare name type) = (run ops).1 ∧
          ((run ops).1.scopes = [] ∨ type.checkedWidth.2 = false ∨
            UInt64.size ≤ (run ops).1.frame.toNat + type.bytes) := by
  refine ⟨(stacked_run ops).laidOut, fun name type => ?_⟩
  generalize (run ops).1 = e
  cases hdeclare : e.declare name type with
  | ok p =>
    obtain ⟨id, e'⟩ := p
    obtain ⟨s, outer, -, hid, -, hframe⟩ := of_declare_eq_ok hdeclare
    exact ⟨hid, by simp [apply, hdeclare], hframe⟩
  | error err =>
    exact ⟨by simp [apply, hdeclare], declare_eq_error_iff.mp ⟨err, hdeclare⟩⟩

/-- A name that is declared again keeps the storage of its first declaration in the frame. -/
example : (run [.push, .declare (utf8 "a") .int32, .declare (utf8 "a") .int64, .push]).1 =
    ⟨[⟨[], 12⟩, ⟨[(utf8 "a", ⟨utf8 "a", .int64, 4⟩)], 0⟩], 12⟩ := by
  decide

end Environment

end ThreeAddress
