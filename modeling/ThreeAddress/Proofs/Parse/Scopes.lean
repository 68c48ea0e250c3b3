import ThreeAddress.Parse.Event

/-!
# Declarations in force

A block may declare names of the blocks around it again, and names of its own as well. At any place
of a source the declaration in force for a name is the latest one in the innermost open block that
declares it. This is told from the order of the events alone; what is declared plays no part in it.

## Main definitions

* `Visible` : the declarations of the open blocks.
* `inForce?` : the declaration in force for a name behind some events.

## Main results

* `exists_declare_of_inForce?` : what is in force is a declaration of the name.
-/

namespace ThreeAddress.Parse

/-- The declarations of the open blocks, the innermost block first, and in a block the latest
declaration first. Each is a name with the place of the declaration among the events. -/
abbrev Visible := List (List (Bytes × Nat))

namespace Visible

/-- The declarations of the blocks that are open behind the event at a place. -/
def step (v : Visible) (place : Nat) : Event → Visible
  | .openBlock => [] :: v
  | .closeBlock => v.tail
  | .declare name _ => match v with
    | [] => []
    | block :: outer => ((name.text, place) :: block) :: outer
  | _ => v

/-- The declarations of the blocks that are open behind the events from a place on. -/
def behind (v : Visible) (place : Nat) : List Event → Visible
  | [] => v
  | e :: es => (v.step place e).behind (place + 1) es

/-- The place of the latest declaration of a name in the innermost block that declares it. -/
def find? (v : Visible) (name : Bytes) : Option Nat :=
  v.findSome? fun block => block.lookup name

end Visible

/-- The declaration in force for a name behind the given events, by its place among them. One block
is open from the start. -/
def inForce? (es : List Event) (name : Bytes) : Option Nat :=
  (Visible.behind [[]] 0 es).find? name

/-- The events hold a declaration of the name at the place. -/
def DeclaresAt (es : List Event) (d : Bytes × Nat) : Prop :=
  ∃ t type, es[d.2]? = some (.declare t type) ∧ t.text = d.1

variable {es : List Event} {v : Visible}

theorem declaresAt_step (h : ∀ block ∈ v, ∀ d ∈ block, DeclaresAt es d) {place : Nat} {e : Event}
    (he : es[place]? = some e) : ∀ block ∈ v.step place e, ∀ d ∈ block, DeclaresAt es d := by
  cases e with
  | openBlock => exact List.forall_mem_cons.mpr ⟨List.forall_mem_nil _, h⟩
  | closeBlock => exact fun block hblock => h block (List.mem_of_mem_tail hblock)
  | declare name type =>
    cases v with
    | nil => exact h
    | cons block outer =>
      obtain ⟨hblock, houter⟩ := List.forall_mem_cons.mp h
      refine List.forall_mem_cons.mpr ⟨List.forall_mem_cons.mpr ⟨?_, hblock⟩, houter⟩
      exact ⟨name, type, he, rfl⟩
  | _ => exact h

theorem declaresAt_behind {ahead : List Event} {place : Nat} (hplace : es.drop place = ahead)
    (h : ∀ block ∈ v, ∀ d ∈ block, DeclaresAt es d) :
    ∀ block ∈ v.behind place ahead, ∀ d ∈ block, DeclaresAt es d := by
  induction ahead generalizing v place with
  | nil => exact h
  | cons e ahead ih =>
    have he : es[place]? = some e := by
      rw [← List.head?_drop, hplace]
      rfl
    refine ih ?_ (declaresAt_step h he)
    rw [← List.tail_drop, hplace]
    rfl

/-- What is in force for a name is a declaration of that name. -/
theorem exists_declare_of_inForce? {name : Bytes} {place : Nat}
    (h : inForce? es name = some place) :
    ∃ t type, es[place]? = some (.declare t type) ∧ t.text = name := by
  have hall : ∀ block ∈ Visible.behind [[]] 0 es, ∀ d ∈ block, DeclaresAt es d :=
    declaresAt_behind rfl (by simp)
  obtain ⟨block, hblock, hlookup⟩ := List.exists_of_findSome?_eq_some h
  obtain ⟨front, back, rfl, -⟩ := List.lookup_eq_some_iff.mp hlookup
  exact hall _ hblock (name, place) (List.mem_append_right _ List.mem_cons_self)

end ThreeAddress.Parse
