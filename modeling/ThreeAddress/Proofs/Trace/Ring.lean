import Mathlib.Data.List.DropRight
import Mathlib.Data.List.Rotate
import Mathlib.Data.Nat.ModEq
import ThreeAddress.Trace.Tracer

/-!
# What a ring keeps

A ring fills its slots in turn. An event stands in the slot whose number is the place of the event
in the history of the ring, modulo the number of slots, until it gives way to the event that comes
as many places later as there are slots. So what a ring shows is the end of its history: once every
slot was filled, those from the next one on hold older events than those in front of it.

The numbers of events come from one counter for all tracers, so that a ring may see gaps between
them. They rise as long as the counter, a word of 64 bits, does not start over.

## Main definitions

* `Trace.Ring.Holds` : where the latest events of a history stand in a ring.
* `Trace.Call` : an event is told, or a number is taken elsewhere.
* `Trace.admitted`, `Trace.numbered` : the events told that a level admits, as they are told and
  with their numbers.

## Main results

* `Trace.Ring.Holds.push` : storing an event makes the history longer by it.
* `Trace.Ring.Holds.snapshot_eq` : a ring shows the end of its history.
* `Trace.Session.holds_hearAll` : the history of a ring that is told events.
* `Trace.Session.snapshot_hearAll` : a ring shows the latest events that its level admits.
* `Trace.Session.hearAll_both` : a ring behind a stream hears the same events.
-/

namespace ThreeAddress.Trace

namespace Ring

variable {r : Ring} {es : List Event}

/-! ### Slots -/

/-- A ring with a history: the slots hold the latest events. -/
structure Holds (r : Ring) (es : List Event) : Prop where
  /-- The slots are filled in turn. -/
  head_eq : r.head = es.length % r.slots.size
  /-- Every slot was filled once there were as many events. -/
  full_iff : r.full = true ↔ r.slots.size ≤ es.length
  /-- An event stands in the slot that its turn fell on, until the turn falls on it again. -/
  slot_eq : ∀ i < es.length, es.length ≤ i + r.slots.size →
    r.slots[i % r.slots.size]? = es[i]?

theorem size_slots_pos (r : Ring) : 0 < r.slots.size :=
  Nat.zero_lt_of_lt r.head_lt

theorem holds_ofCapacity (n : Int) : (ofCapacity n).Holds [] where
  head_eq := (Nat.zero_mod _).symm
  full_iff := by
    have hpos := size_slots_pos (ofCapacity n)
    simp only [List.length_nil]
    exact ⟨fun h => (Bool.false_ne_true h).elim, fun h => by omega⟩
  slot_eq _ h := (Nat.not_lt_zero _ h).elim

/-- Storing an event makes the history longer by it. -/
theorem Holds.push (h : r.Holds es) (e : Event) : (r.push e).Holds (es ++ [e]) where
  head_eq := by
    show (r.head + 1) % r.slots.size = _
    rw [h.head_eq, size_slots_push, List.length_append, List.length_singleton, Nat.mod_add_mod]
  full_iff := by
    have hpos := r.size_slots_pos
    show (r.full || (r.head + 1) % r.slots.size == 0) = true ↔ _
    rw [size_slots_push, List.length_append, List.length_singleton, Bool.or_eq_true, beq_iff_eq,
      h.full_iff, h.head_eq, Nat.mod_add_mod]
    refine ⟨fun hfull => ?_, fun hle => ?_⟩
    · rcases hfull with hle | hzero
      · exact Nat.le_succ_of_le hle
      · exact Nat.le_of_dvd (Nat.succ_pos _) (Nat.dvd_of_mod_eq_zero hzero)
    · rcases Nat.lt_or_ge es.length r.slots.size with hlt | hge
      · have heq : es.length + 1 = r.slots.size := Nat.le_antisymm hlt hle
        exact .inr (by rw [heq, Nat.mod_self])
      · exact .inl hge
  slot_eq i hi hlate := by
    rw [List.length_append, List.length_singleton] at hi hlate
    rw [size_slots_push] at hlate ⊢
    show (r.slots.set r.head e r.head_lt)[i % r.slots.size]? = _
    rcases Nat.lt_or_eq_of_le (Nat.le_of_lt_succ hi) with hlt | rfl
    · -- the turn comes back to a slot after a whole round only
      have hne : r.head ≠ i % r.slots.size := fun hturn => by
        have hround := Nat.ModEq.add_le_of_lt (hturn.symm.trans h.head_eq) hlt
        omega
      rw [Array.getElem?_set_ne r.head_lt hne, h.slot_eq i hlt (by omega),
        List.getElem?_append_left hlt]
    · rw [← h.head_eq, Array.getElem?_set_self r.head_lt, List.getElem?_concat_length]

/-- A ring shows the end of its history. -/
theorem Holds.snapshot_eq (h : r.Holds es) : r.snapshot = es.rtake r.slots.size := by
  have hpos := r.size_slots_pos
  have hhead := h.head_eq
  rw [List.rtake]
  refine List.ext_getElem? fun j => ?_
  rw [List.getElem?_drop]
  unfold snapshot
  dsimp only
  by_cases hfull : r.full = true
  · have hle := h.full_iff.mp hfull
    rw [if_pos hfull, ← List.rotate_eq_drop_append_take
      (Nat.le_of_lt (by simpa using r.head_lt))]
    rcases Nat.lt_or_ge j r.slots.size with hj | hj
    · -- both are the event whose turn came `j` places behind the oldest one
      have hturn : (j + r.head) % r.slots.size =
          (es.length - r.slots.size + j) % r.slots.size := by
        rw [hhead, Nat.add_mod_mod, ← Nat.add_mod_right (es.length - r.slots.size + j)]
        congr 1
        omega
      rw [List.getElem?_rotate (by simpa using hj), Array.length_toList, hturn,
        Array.getElem?_toList, h.slot_eq _ (by omega) (by omega)]
    · rw [List.getElem?_eq_none (by simpa using hj), List.getElem?_eq_none (by omega)]
  · have hlt : es.length < r.slots.size := Nat.lt_of_not_le (mt h.full_iff.mpr hfull)
    rw [Nat.mod_eq_of_lt hlt] at hhead
    rw [if_neg hfull, Nat.sub_eq_zero_of_le (Nat.le_of_lt hlt), Nat.zero_add, hhead]
    rcases Nat.lt_or_ge j es.length with hj | hj
    · have hslot := h.slot_eq j hj (by omega)
      rw [Nat.mod_eq_of_lt (by omega)] at hslot
      rw [List.getElem?_take_of_lt hj, Array.getElem?_toList, hslot]
    · rw [List.getElem?_eq_none (by simp; omega), List.getElem?_eq_none hj]

end Ring

/-! ### Calls -/

/-- What happens while a tracer listens. -/
inductive Call where
  /-- It is told an event. -/
  | tell (e : Event)
  /-- The next number is given to an event that is told elsewhere. -/
  | elsewhere

/-- The event that a call tells, if a level admits it. -/
def Call.event? (l : Level) : Call → Option Event
  | tell e => if l.admits e.scope then some e else none
  | elsewhere => none

/-- Tests whether a call takes a number from the counter. -/
def Call.takesNumber (l : Level) : Call → Bool
  | tell e => l.admits e.scope
  | elsewhere => true

/-- What a ring behind a stream of a level hears of a call: the number of what the stream writes is
taken elsewhere. -/
def Call.behind (l : Level) : Call → List Call
  | tell e => if l.admits e.scope then [elsewhere, tell e] else [tell e]
  | elsewhere => [elsewhere]

/-- The events told that a level admits, in order. -/
def admitted (l : Level) (calls : List Call) : List Event :=
  calls.filterMap (Call.event? l)

/-- The events told that a level admits, with the numbers they get behind the number `seq`. -/
def numbered (l : Level) : (seq : UInt64) → List Call → List Event
  | _, [] => []
  | seq, .elsewhere :: calls => numbered l (seq + 1) calls
  | seq, .tell e :: calls =>
    if l.admits e.scope then { e with seq := seq + 1 } :: numbered l (seq + 1) calls
    else numbered l seq calls

/-- An event as it is told, before it has its number. -/
def Event.unnumbered (e : Event) : Event :=
  { e with seq := 0 }

/-- Events are numbered, and otherwise left as they are told. -/
theorem map_unnumbered_numbered (l : Level) (seq : UInt64) (calls : List Call) :
    (numbered l seq calls).map Event.unnumbered = (admitted l calls).map Event.unnumbered := by
  induction calls generalizing seq with
  | nil => rfl
  | cons call calls ih =>
    cases call with
    | elsewhere => exact ih (seq + 1)
    | tell e =>
      rw [numbered, admitted, List.filterMap_cons, Call.event?]
      split
      · exact congrArg (e.unnumbered :: ·) (ih (seq + 1))
      · exact ih seq

/-- As long as the counter does not start over, the numbers of events rise. -/
theorem pairwise_numbered {l : Level} {seq : UInt64} {calls : List Call}
    (h : seq.toNat + calls.countP (Call.takesNumber l) < UInt64.size) :
    (∀ e ∈ numbered l seq calls, seq < e.seq) ∧
      ((numbered l seq calls).map Event.seq).Pairwise (· < ·) := by
  induction calls generalizing seq with
  | nil => exact ⟨List.forall_mem_nil _, List.Pairwise.nil⟩
  | cons call calls ih =>
    -- behind a number that is taken, all numbers are above it
    have hnext (htakes : call.takesNumber l = true) : seq < seq + 1 ∧
        (∀ e ∈ numbered l (seq + 1) calls, seq + 1 < e.seq) ∧
        ((numbered l (seq + 1) calls).map Event.seq).Pairwise (· < ·) := by
      rw [List.countP_cons_of_pos htakes] at h
      have hone : (seq + 1).toNat = seq.toNat + 1 := by
        rw [UInt64.toNat_add]
        exact Nat.mod_eq_of_lt (show seq.toNat + 1 < UInt64.size by omega)
      exact ⟨UInt64.lt_iff_toNat_lt.mpr (by omega), ih (by omega)⟩
    cases call with
    | elsewhere =>
      obtain ⟨hlt, habove, hpairs⟩ := hnext rfl
      exact ⟨fun e he => UInt64.lt_trans hlt (habove e he), hpairs⟩
    | tell e =>
      rw [numbered]
      split
      · rename_i hadmits
        obtain ⟨hlt, habove, hpairs⟩ := hnext hadmits
        refine ⟨List.forall_mem_cons.mpr ⟨hlt, fun e he => UInt64.lt_trans hlt (habove e he)⟩, ?_⟩
        rw [List.map_cons, List.pairwise_cons]
        exact ⟨List.forall_mem_map.mpr habove, hpairs⟩
      · rename_i hrefuses
        have hfree : ¬(Call.tell e).takesNumber l = true := hrefuses
        rw [List.countP_cons_of_neg hfree] at h
        exact ih h

namespace Session

variable {l : Level} {r : Ring} {c : Counters} {es : List Event}

/-- A session behind a call. -/
def hear (s : Session) : Call → Session
  | .tell e => s.emit e
  | .elsewhere => { s with counters := { s.counters with seq := s.counters.seq + 1 } }

/-- The history of a ring that is told events: those that its level admits, with their numbers. -/
theorem holds_hearAll (h : r.Holds es) (calls : List Call) :
    ∃ r', (calls.foldl hear ⟨.ring l r, c⟩).tracer = .ring l r' ∧
      r'.slots.size = r.slots.size ∧ r'.Holds (es ++ numbered l c.seq calls) := by
  induction calls generalizing r c es with
  | nil => exact ⟨r, rfl, rfl, by rwa [numbered, List.append_nil]⟩
  | cons call calls ih =>
    rw [List.foldl_cons]
    cases call with
    | elsewhere => exact ih h
    | tell e =>
      rw [hear, emit, numbered]
      dsimp only [storeEvent]
      split
      · obtain ⟨r', htracer, hsize, hholds⟩ :=
          ih (c := { c with seq := c.seq + 1 }) (h.push { e with seq := c.seq + 1 })
        rw [List.append_assoc] at hholds
        exact ⟨r', htracer, hsize.trans (Ring.size_slots_push _ _), hholds⟩
      · exact ih h

/-- A ring shows the latest of the events told that its level admits, at most as many as it has
room for, the oldest first. They are as they were told but for their numbers, which rise as long as
the counter does not start over. -/
theorem snapshot_hearAll (n : Int) (l : Level) (c : Counters) (calls : List Call) :
    ∃ r, (calls.foldl hear ⟨.ring l (.ofCapacity n), c⟩).tracer.ring? = some r ∧
      r.snapshot.map Event.unnumbered =
        ((admitted l calls).rtake (min (capacityOf n) (admitted l calls).length)).map
          Event.unnumbered ∧
      (c.seq.toNat + calls.countP (Call.takesNumber l) < UInt64.size →
        (r.snapshot.map Event.seq).Pairwise (· < ·)) := by
  obtain ⟨r, htracer, hsize, hholds⟩ :=
    holds_hearAll (l := l) (c := c) (Ring.holds_ofCapacity n) calls
  rw [Ring.size_slots_ofCapacity] at hsize
  rw [List.nil_append] at hholds
  have hshown := hholds.snapshot_eq
  rw [hsize, List.rtake] at hshown
  refine ⟨r, by rw [htracer]; rfl, ?_, fun hroom => ?_⟩
  · have hmap := map_unnumbered_numbered l c.seq calls
    have hlength : (numbered l c.seq calls).length = (admitted l calls).length := by
      simpa using congrArg List.length hmap
    rw [hshown, List.rtake, List.map_drop, hmap, ← List.map_drop, hlength]
    congr 2
    omega
  · rw [hshown, List.map_drop]
    exact (pairwise_numbered hroom).2.drop

/-- Four events and a number that is taken elsewhere, for a ring of two events that leaves nodes
out: the two latest of the other three events are shown. -/
theorem snapshot_hearAll_wrapped :
    let told (scope : Scope) (name : String) : Event :=
      { kind := .point, scope := scope, name := utf8 name }
    let calls : List Call := [.tell (told .unit "a"), .tell (told .pass "b"), .elsewhere,
      .tell (told .node "c"), .tell (told .driver "d")]
    (0 : UInt64).toNat + calls.countP (Call.takesNumber .detail) < UInt64.size ∧
      ∃ r, (calls.foldl hear ⟨.ring .detail (.ofCapacity 2), {}⟩).tracer.ring? = some r ∧
        r.snapshot.map Event.unnumbered = [told .pass "b", told .driver "d"] ∧
        (r.snapshot.map Event.seq).Pairwise (· < ·) := by
  intro told calls
  have hroom : (0 : UInt64).toNat + calls.countP (Call.takesNumber .detail) < UInt64.size := by
    decide +kernel
  obtain ⟨r, hring, hshown, hrise⟩ := snapshot_hearAll 2 .detail {} calls
  refine ⟨hroom, r, hring, hshown.trans ?_, hrise hroom⟩
  decide +kernel

/-! ### Rings behind streams -/

/-- A ring behind a stream is told the same events, with gaps between their numbers. -/
theorem hearAll_both (l sl rl : Level) (f : Format) (w : Writer) (r : Ring) (c : Counters)
    (calls : List Call) :
    ∃ w' r' c', calls.foldl hear ⟨.both l sl f w rl r, c⟩ = ⟨.both l sl f w' rl r', c'⟩ ∧
      (calls.flatMap (Call.behind sl)).foldl hear ⟨.ring rl r, c⟩ = ⟨.ring rl r', c'⟩ := by
  induction calls generalizing w r c with
  | nil => exact ⟨w, r, c, rfl, rfl⟩
  | cons call calls ih =>
    rw [List.foldl_cons, List.flatMap_cons, List.foldl_append]
    cases call with
    | elsewhere => exact ih w r _
    | tell e =>
      rw [Call.behind, hear, emit]
      dsimp only [writeEvent]
      split
      · exact ih _ _ _
      · exact ih _ _ _

end Session

end ThreeAddress.Trace
