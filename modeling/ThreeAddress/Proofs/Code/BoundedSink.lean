import ThreeAddress.Proofs.Code.Listing

/-!
# Lowering to a sink with a bound

A sink that takes a bounded number of texts stops lowering at the first instruction that it has no
room for. Up to there nothing depends on the bound: the instructions taken are the first ones of the
listing, and the temporary of the refused instruction has been handed out.

## Main definitions

* `Generator.limited` : a generator whose sink takes so many texts more.
* `Generator.Refused` : a generator after some instructions and a refused one.
* `Generator.Emits` : what a lowering step does under every bound.

## Main results

* `Generator.emits_reduce` : lowering a built expression emits its listing, as far as there is room.
-/

namespace ThreeAddress.Generator

/-- A generator whose sink takes `room` texts more. -/
def limited (g : Generator) (room : Nat) : Generator :=
  { g with sink := { g.sink with room := some room } }

/-- The second generator is the first one after some instructions, and one more was refused: its
temporary is gone, and its text was not taken. -/
structure Refused (g : Generator) (is : List Instruction) (g' : Generator) : Prop where
  /-- The texts taken. -/
  chunks : g'.sink.chunks = (is.map Instruction.chunk).reverse ++ g.sink.chunks
  /-- The numbers handed out. -/
  ids : g'.ids = { g.ids with temps := g.ids.temps + UInt64.ofNat (is.length + 1) }

/-- A lowering step yields a value and emits instructions if the sink has room for them. Otherwise
it emits as many as there is room for, and fails. -/
def Emits {α : Type} (x : Lower α) (g : Generator) (a : α) (is : List Instruction) : Prop :=
  ∀ room,
    (is.length ≤ room →
      x.run (g.limited room) = .ok a ((g.emitted is).limited (room - is.length))) ∧
    (room < is.length →
      ∃ g', x.run (g.limited room) = .error (.sink Sink.closed) g' ∧
        g.Refused (is.take room) g')

variable {α β : Type} {x : Lower α} {f : α → Lower β} {g : Generator} {a : α} {b : β}
  {is js : List Instruction}

theorem run_bind_error {g' : Generator} {e : LowerError} (h : x.run g = .error e g') :
    (x >>= f).run g = .error e g' := by
  change EStateM.bind x f g = .error e g'
  rw [EStateM.bind, show x g = .error e g' from h]

theorem Refused.after {g' : Generator} (h : (g.emitted is).Refused js g') :
    g.Refused (is ++ js) g' where
  chunks := by
    rw [h.chunks]
    simp [emitted]
  ids := by
    rw [h.ids]
    simp [emitted, UInt64.ofNat_add, UInt64.add_assoc]

/-- What a fresh recorder holds after a refusal. -/
theorem Refused.text_fresh {g' : Generator} (h : Refused {} is g') :
    g'.sink.text = (is.map Instruction.chunk).flatten := by
  rw [Sink.text, h.chunks, List.reverse_append, List.reverse_reverse]
  rfl

theorem Refused.temps_fresh {g' : Generator} (h : Refused {} is g') :
    g'.ids.temps = UInt64.ofNat (is.length + 1) := by
  rw [h.ids]
  exact UInt64.zero_add _

namespace Emits

/-- A step that yields a value and does nothing else. -/
theorem ofPure (h : ∀ g, x.run g = .ok a g) : Emits x g a [] := by
  refine fun room => ⟨fun _ => ?_, fun hroom => absurd hroom (Nat.not_lt_zero _)⟩
  rw [h, emitted_nil]
  rfl

/-- A step behind one that yields a value and does nothing else. -/
theorem behindPure (h : ∀ g, x.run g = .ok a g) (hf : Emits (f a) g b js) :
    Emits (x >>= f) g b js := by
  intro room
  rw [run_bind (h _)]
  exact hf room

/-- One step after another: the second one gets the room that the first one leaves. -/
theorem bind (hx : Emits x g a is) (hf : Emits (f a) (g.emitted is) b js) :
    Emits (x >>= f) g b (is ++ js) := by
  intro room
  obtain ⟨hfits, hfull⟩ := hx room
  by_cases hroom : is.length ≤ room
  · obtain ⟨hfits', hfull'⟩ := hf (room - is.length)
    rw [run_bind (hfits hroom), List.length_append]
    refine ⟨fun hle => ?_, fun hlt => ?_⟩
    · rw [hfits' (by omega), emitted_emitted, Nat.sub_sub]
    · obtain ⟨g', hrun, hg'⟩ := hfull' (by omega)
      refine ⟨g', hrun, ?_⟩
      rw [List.take_append, List.take_of_length_le hroom]
      exact hg'.after
  · have hlt : room < is.length := Nat.lt_of_not_le hroom
    obtain ⟨g', hrun, hg'⟩ := hfull hlt
    rw [List.length_append]
    refine ⟨fun hle => by omega, fun _ => ⟨g', run_bind_error hrun, ?_⟩⟩
    rwa [List.take_append_of_le_length (Nat.le_of_lt hlt)]

end Emits

/-- Storing a node takes the next temporary and emits one instruction. -/
theorem emits_store (hg : g.sink.Open) (op : Opcode) (operands : List Bytes) (node : Expr)
    {type : DataType} (ht : node.type? = some type)
    (hr : node.render = .ok (Bytes.joinWith (utf8 " ") operands)) :
    Emits (store op node) g (.temporary g.ids.temps type) [⟨op, g.ids.temps, operands⟩] := by
  intro room
  cases room with
  | zero =>
    refine ⟨fun h => absurd h (by simp), fun _ => ?_⟩
    simp only [store, EStateM.run, Bind.bind, EStateM.bind, nextTemp, ht, hr, orFault, pure,
      EStateM.pure, instruction, point, emit, Sink.instruction, Sink.write, limited, hg.failure]
    exact ⟨_, rfl, rfl, by simp⟩
  | succ room =>
    refine ⟨fun _ => ?_, fun h => absurd h (by simp)⟩
    simp only [store, EStateM.run, Bind.bind, EStateM.bind, nextTemp, ht, hr, orFault, pure,
      EStateM.pure, instruction, point, emit, Sink.instruction, Sink.write, limited, hg.failure]
    simp [emitted, Instruction.chunk, Instruction.line, Instruction.text, hg.failure]

/-- Lowering a built expression emits its listing and yields its atom, as far as there is room. -/
theorem emits_reduce {e : Expr} (he : e.Built) (hg : g.sink.Open) :
    Emits (reduce e) g (e.atom g.ids.temps) (e.code g.ids.temps) := by
  induction he generalizing g with
  | identifier id => exact .ofPure fun _ => rfl
  | constant t type => exact .ofPure fun _ => rfl
  | @arithmetic op l r e hl hr he ihl ihr =>
    obtain ⟨hop, s, t, type, -, -, -, rfl⟩ := Expr.newArithmetic_eq_ok.mp he
    obtain ⟨o, ho⟩ := Expr.exists_opcode hop
    have hcode : arithmeticOpcode op = .ok o := by rw [arithmeticOpcode, ho]
    let m := g.ids.temps + UInt64.ofNat l.operations
    have hnode := Expr.newArithmetic_congr he (Expr.type?_atom g.ids.temps l) (Expr.type?_atom m r)
    have hright := ihr (open_emitted hg (l.code g.ids.temps))
    rw [temps_emitted, Expr.length_code] at hright
    have hstore := emits_store
      (open_emitted (open_emitted hg (l.code g.ids.temps)) (r.code m)) o
      [l.operand g.ids.temps, r.operand m]
      (.arithmetic op type (l.atom g.ids.temps) (r.atom m)) rfl
      (by simp [Expr.render, Expr.render_atom _ hl, Expr.render_atom _ hr, Bind.bind, Except.bind,
        pure, Except.pure, Bytes.joinWith])
    simp only [temps_emitted, Expr.length_code, UInt64.add_assoc, ← UInt64.ofNat_add] at hstore
    rw [reduce, Expr.atom, Expr.code, List.append_assoc, ho]
    exact .behindPure (run_orFault hcode) ((ihl hg).bind
      (hright.bind (.behindPure (run_build hnode) hstore)))
  | @unary op x e hx he ih =>
    obtain ⟨-, t, type, -, -, rfl⟩ := Expr.newUnary_eq_ok.mp he
    have hnode := Expr.newUnary_congr he (Expr.type?_atom g.ids.temps x)
    have hstore := emits_store (open_emitted hg (x.code g.ids.temps)) .inv
      [x.operand g.ids.temps] (.unary op type (x.atom g.ids.temps)) rfl
      (by simp [Expr.render, Expr.render_atom _ hx, Bytes.joinWith])
    rw [temps_emitted, Expr.length_code] at hstore
    rw [reduce, Expr.atom, Expr.code]
    exact (ih hg).bind (.behindPure (run_build hnode) hstore)
  | @index a i hi ih =>
    have hstore := emits_store (open_emitted hg (i.code g.ids.temps)) .idx
      [i.operand g.ids.temps, a.name] (.index a (i.atom g.ids.temps)) rfl
      (by simp [Expr.render, Expr.render_atom _ hi, Bind.bind, Except.bind, pure, Except.pure,
        Bytes.joinWith])
    rw [temps_emitted, Expr.length_code] at hstore
    rw [reduce, Expr.atom, Expr.code]
    exact (ih hg).bind hstore

end ThreeAddress.Generator
