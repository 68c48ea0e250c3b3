import ThreeAddress.Proofs.Code.Lines

/-!
# Executing emitted code

Emitted lines are read back and executed one after another on a store that gives a value to every
operand text. Whatever the operations mean, executing the lines of a lowered expression leaves the
value of the expression in the atom that lowering yields: operands are evaluated before the
operation that reads them, and no instruction overwrites a temporary that is still to be read.

## Main definitions

* `Interpretation`, `Store` : what the opcodes and the operand texts mean.
* `execLine`, `execLines` : executing lines of code.
* `Expr.value` : the value of an expression, by recursion on the tree.
* `Expr.leaves`, `Readable` : the operand texts of an expression that come from the source, and
  those that read back as single operands and are no temporaries.

## Main results

* `Expr.execLines_code` : executing the listing of an expression, with the temporaries it leaves
  alone.
* `execLines_lines_reduce` : lowering preserves meaning.
-/

namespace ThreeAddress

universe u

/-- A meaning of the value opcodes. Both unary operators are one operation, and an element is
computed from the value of its index and the name of its array. -/
structure Interpretation (V : Type u) where
  /-- Sum. -/
  add : V → V → V
  /-- Difference. -/
  sub : V → V → V
  /-- Product. -/
  mul : V → V → V
  /-- Quotient. -/
  div : V → V → V
  /-- Unary operation. -/
  inv : V → V
  /-- Element of an array. -/
  idx : V → Bytes → V

/-- The value of every operand text. -/
abbrev Store (V : Type u) := Bytes → V

variable {V : Type u}

/-- A store after a write. -/
def Store.set (σ : Store V) (name : Bytes) (v : V) : Store V :=
  fun b => if b = name then v else σ b

@[simp] theorem Store.set_self (σ : Store V) (name : Bytes) (v : V) : σ.set name v name = v :=
  if_pos rfl

theorem Store.set_of_ne (σ : Store V) {name b : Bytes} (v : V) (h : b ≠ name) :
    σ.set name v b = σ b :=
  if_neg h

/-- The value that an opcode computes from its operands; none if their number is wrong or the opcode
computes no value. -/
def Interpretation.apply (ι : Interpretation V) (σ : Store V) : Opcode → List Bytes → Option V
  | .add, [a, b] => some (ι.add (σ a) (σ b))
  | .sub, [a, b] => some (ι.sub (σ a) (σ b))
  | .mul, [a, b] => some (ι.mul (σ a) (σ b))
  | .div, [a, b] => some (ι.div (σ a) (σ b))
  | .inv, [a] => some (ι.inv (σ a))
  | .idx, [i, a] => some (ι.idx (σ i) a)
  | _, _ => none

/-- Executes a line: the fields behind the tab are an opcode, the operand written, and the operands
read. -/
def execLine (ι : Interpretation V) (σ : Store V) (line : Bytes) : Option (Store V) :=
  match (Bytes.strip? (utf8 "\t") line).map Fields.split with
  | some (opcode :: target :: operands) =>
    ((Opcode.ofName? opcode).bind fun o => ι.apply σ o operands).map fun v => σ.set target v
  | _ => none

/-- Executes lines in order. -/
def execLines (ι : Interpretation V) : Store V → List Bytes → Option (Store V)
  | σ, [] => some σ
  | σ, line :: lines => (execLine ι σ line).bind fun τ => execLines ι τ lines

theorem execLines_append (ι : Interpretation V) (σ : Store V) (ks ls : List Bytes) :
    execLines ι σ (ks ++ ls) = (execLines ι σ ks).bind fun τ => execLines ι τ ls := by
  induction ks generalizing σ with
  | nil => rfl
  | cons k ks ih =>
    simp only [List.cons_append, execLines, ih]
    cases execLine ι σ k <;> rfl

namespace Expr

/-- The value of an expression in a store; none for expressions that checked construction does not
yield from names and literals. -/
def value (ι : Interpretation V) (σ : Store V) : Expr → Option V
  | identifier id => some (σ id.name)
  | constant t _ => some (σ t.text)
  | arithmetic op _ l r =>
    match op, l.value ι σ, r.value ι σ with
    | .plus, some a, some b => some (ι.add a b)
    | .minus, some a, some b => some (ι.sub a b)
    | .star, some a, some b => some (ι.mul a b)
    | .slash, some a, some b => some (ι.div a b)
    | _, _, _ => none
  | unary _ _ x => (x.value ι σ).map ι.inv
  | index a i => (i.value ι σ).map fun v => ι.idx v a.name
  | absent | temporary _ _ => none

/-- The names and the literal texts in an expression. -/
def leaves : Expr → List Bytes
  | identifier id => [id.name]
  | constant t _ => [t.text]
  | arithmetic _ _ l r => l.leaves ++ r.leaves
  | unary _ _ x => x.leaves
  | index a i => a.name :: i.leaves
  | absent | temporary _ _ => []

theorem value_congr (ι : Interpretation V) {σ τ : Store V} {e : Expr}
    (h : ∀ b ∈ e.leaves, σ b = τ b) : e.value ι σ = e.value ι τ := by
  induction e with
  | identifier id => simp [value, h id.name (by simp [leaves])]
  | constant t type => simp [value, h t.text (by simp [leaves])]
  | arithmetic op type l r hl hr =>
    have hl' := hl fun b hb => h b (by simp [leaves, hb])
    have hr' := hr fun b hb => h b (by simp [leaves, hb])
    simp only [value, hl', hr']
  | unary op type x hx =>
    simp only [value, hx fun b hb => h b (by simpa [leaves] using hb)]
  | index a i hi =>
    simp only [value, hi fun b hb => h b (by simp [leaves, hb])]
  | _ => rfl

end Expr

/-- Tests for the spelling of a temporary: `__t` and digits. -/
def isTemporarySpelling (b : Bytes) : Bool :=
  match Bytes.strip? (utf8 "__t") b with
  | some digits => !digits.isEmpty && digits.all fun x => ('0'.toUInt8 ≤ x && x ≤ '9'.toUInt8)
  | none => false

/-- An operand text that reads back as a single operand and is no temporary. -/
structure Readable (b : Bytes) : Prop where
  /-- It is not empty. -/
  ne_nil : b ≠ []
  /-- It holds no white space. -/
  spaceless : Spaceless b
  /-- It is not spelled like a temporary. -/
  plain : isTemporarySpelling b = false

theorem isTemporarySpelling_temporaryName (n : UInt64) :
    isTemporarySpelling (temporaryName n) = true := by
  rw [isTemporarySpelling, temporaryName, Bytes.strip?_append]
  simp only [Bool.and_eq_true, Bool.not_eq_true', List.isEmpty_eq_false_iff, List.all_eq_true,
    decide_eq_true_eq]
  refine ⟨by simp [decimal, Nat.toDigits_ne_nil], fun x hx => ?_⟩
  obtain ⟨c, hc, rfl⟩ := List.mem_map.mp hx
  obtain ⟨hbyte, hlo, hhi⟩ :=
    toNat_toUInt8_of_isDigit (Nat.isDigit_of_mem_toDigits (by decide) (by decide) hc)
  rw [UInt8.le_iff_toNat_le, UInt8.le_iff_toNat_le, hbyte]
  exact ⟨hlo, hhi⟩

theorem Readable.ne_temporaryName {b : Bytes} (h : Readable b) (n : UInt64) :
    b ≠ temporaryName n := by
  rintro rfl
  have := h.plain
  rw [isTemporarySpelling_temporaryName] at this
  exact absurd this (by decide)

/-- Temporaries counted from one number are different as long as the counter does not come
round. -/
theorem add_ofNat_injective (n : UInt64) {a b : Nat} (ha : a < UInt64.size) (hb : b < UInt64.size)
    (h : n + UInt64.ofNat a = n + UInt64.ofNat b) : a = b := by
  have := congrArg UInt64.toNat (UInt64.add_right_inj n |>.mp h)
  rwa [UInt64.toNat_ofNat_of_lt' ha, UInt64.toNat_ofNat_of_lt' hb] at this

namespace Expr

/-- An operand of an instruction is a leaf, or the temporary of the last instruction in front of
it. -/
theorem operand_cases (n : UInt64) {e : Expr} (he : e.Built) (hr : ∀ b ∈ e.leaves, Readable b) :
    (e.operand n ∈ e.leaves ∧ e.operations = 0) ∨
      (0 < e.operations ∧ e.operand n = temporaryName (n + UInt64.ofNat (e.operations - 1))) := by
  cases he with
  | identifier id => exact Or.inl ⟨List.mem_cons_self, rfl⟩
  | constant t type =>
    have hne := (hr t.text List.mem_cons_self).ne_nil
    refine Or.inl ⟨?_, rfl⟩
    simp [operand, atom, leaves, Token.render, hne]
  | arithmetic hl hr' h =>
    obtain ⟨-, s, t, type, -, -, -, rfl⟩ := newArithmetic_eq_ok.mp h
    exact Or.inr ⟨Nat.succ_pos _, rfl⟩
  | unary hx h =>
    obtain ⟨-, t, type, -, -, rfl⟩ := newUnary_eq_ok.mp h
    exact Or.inr ⟨Nat.succ_pos _, rfl⟩
  | index a hi => exact Or.inr ⟨Nat.succ_pos _, rfl⟩

/-- An operand is one field, and not empty. -/
theorem spaceless_operand (n : UInt64) {e : Expr} (he : e.Built)
    (hr : ∀ b ∈ e.leaves, Readable b) : Spaceless (e.operand n) ∧ e.operand n ≠ [] := by
  rcases operand_cases n he hr with ⟨hmem, -⟩ | ⟨-, heq⟩
  · exact ⟨(hr _ hmem).spaceless, (hr _ hmem).ne_nil⟩
  · rw [heq]
    exact ⟨spaceless_temporaryName _, temporaryName_ne_nil _⟩

/-- An operand is not among temporaries numbered behind those of its expression. -/
theorem operand_ne_temporaryName (n : UInt64) {e : Expr} (he : e.Built)
    (hr : ∀ b ∈ e.leaves, Readable b) {k : Nat} (hk : e.operations + k < UInt64.size) :
    e.operand n ≠ temporaryName (n + UInt64.ofNat (e.operations + k)) := by
  rcases operand_cases n he hr with ⟨hmem, -⟩ | ⟨hpos, heq⟩
  · exact (hr _ hmem).ne_temporaryName _
  · rw [heq]
    intro h
    have := add_ofNat_injective n (by omega) hk (temporaryName_injective h)
    omega

end Expr

/-- Executing an instruction whose operands are single fields. -/
theorem execLine_line (ι : Interpretation V) (σ : Store V) (i : Instruction)
    (h : ∀ o ∈ i.operands, Spaceless o ∧ o ≠ []) :
    execLine ι σ i.line =
      (ι.apply σ i.opcode i.operands).map fun v => σ.set (temporaryName i.target) v := by
  have hfields : i.operands.flatMap Fields.split = i.operands :=
    Bytes.flatMap_eq_self fun o ho => Fields.split_eq_singleton (h o ho).1 (h o ho).2
  rw [execLine, i.strip?_line, Option.map_some, i.split_text, hfields]
  simp only [Opcode.ofName?_name, Option.bind_some]

/-- One more instruction at the end of a listing. -/
theorem execLines_concat (ι : Interpretation V) {σ τ : Store V} {is : List Instruction}
    (his : execLines ι σ (is.map Instruction.line) = some τ) {i : Instruction} {v : V}
    (h : ∀ o ∈ i.operands, Spaceless o ∧ o ≠ []) (hv : ι.apply τ i.opcode i.operands = some v) :
    execLines ι σ ((is ++ [i]).map Instruction.line) =
      some (τ.set (temporaryName i.target) v) := by
  rw [List.map_append, execLines_append, his, Option.bind_some, List.map_singleton, execLines,
    execLine_line ι τ i h, hv]
  rfl

namespace Expr

/-- The temporaries that the listing of an expression leaves alone: all but `count` of them from
`n` on. -/
def Frame (n : UInt64) (count : Nat) (σ τ : Store V) : Prop :=
  ∀ b, (∀ k < count, b ≠ temporaryName (n + UInt64.ofNat k)) → τ b = σ b

/-- A leaf keeps its value while a listing is executed. -/
theorem Frame.leaf {n : UInt64} {count : Nat} {σ τ : Store V} (h : Frame n count σ τ) {b : Bytes}
    (hb : Readable b) : τ b = σ b :=
  h b fun _ _ => hb.ne_temporaryName _

theorem Frame.set {n : UInt64} {count : Nat} {σ τ : Store V} (h : Frame n count σ τ) (v : V) :
    Frame n (count + 1) σ (τ.set (temporaryName (n + UInt64.ofNat count)) v) := by
  intro b hb
  rw [Store.set_of_ne _ _ (hb count (Nat.lt_succ_self _))]
  exact h b fun k hk => hb k (Nat.lt_succ_of_lt hk)

theorem Frame.trans {n : UInt64} {a b : Nat} {σ τ υ : Store V} (h : Frame n a σ τ)
    (h' : Frame (n + UInt64.ofNat a) b τ υ) : Frame n (a + b) σ υ := by
  intro x hx
  rw [h' x, h x]
  · exact fun k hk => hx k (by omega)
  · intro k hk
    have := hx (a + k) (by omega)
    rwa [UInt64.ofNat_add, ← UInt64.add_assoc] at this

/-- Executing the listing of an expression leaves its value in its atom and touches no other text
than its own temporaries. -/
theorem execLines_code (ι : Interpretation V) {e : Expr} (he : e.Built)
    (hr : ∀ b ∈ e.leaves, Readable b) (hsize : e.operations ≤ UInt64.size) (n : UInt64)
    (σ : Store V) :
    ∃ τ, execLines ι σ ((e.code n).map Instruction.line) = some τ ∧
      e.value ι σ = some (τ (e.operand n)) ∧ Frame n e.operations σ τ := by
  induction he generalizing n σ with
  | identifier id => exact ⟨σ, rfl, rfl, fun _ _ => rfl⟩
  | constant t type =>
    have hne := (hr t.text List.mem_cons_self).ne_nil
    refine ⟨σ, rfl, ?_, fun _ _ => rfl⟩
    simp [value, operand, atom, Token.render, hne]
  | @arithmetic op l r e hl hr' h ihl ihr =>
    obtain ⟨hop, s, t, type, -, -, -, rfl⟩ := newArithmetic_eq_ok.mp h
    have hrl : ∀ b ∈ l.leaves, Readable b := fun b hb => hr b (by simp [leaves, hb])
    have hrr : ∀ b ∈ r.leaves, Readable b := fun b hb => hr b (by simp [leaves, hb])
    simp only [operations] at hsize
    obtain ⟨τ₁, hexec₁, hvalue₁, hframe₁⟩ := ihl hrl (by omega) n σ
    obtain ⟨τ₂, hexec₂, hvalue₂, hframe₂⟩ :=
      ihr hrr (by omega) (n + UInt64.ofNat l.operations) τ₁
    -- the right operand does not see the temporaries of the left one
    have hright : r.value ι σ = r.value ι τ₁ :=
      value_congr ι fun b hb => (hframe₁.leaf (hrr b hb)).symm
    -- and does not overwrite its result
    have hleft : τ₂ (l.operand n) = τ₁ (l.operand n) := by
      apply hframe₂
      intro k hk
      have hne : l.operand n ≠ temporaryName (n + UInt64.ofNat (l.operations + k)) :=
        operand_ne_temporaryName n hl hrl (by omega)
      rwa [UInt64.ofNat_add, ← UInt64.add_assoc] at hne
    have hboth : execLines ι σ ((l.code n ++ r.code (n + UInt64.ofNat l.operations)).map
        Instruction.line) = some τ₂ := by
      rw [List.map_append, execLines_append, hexec₁, Option.bind_some, hexec₂]
    have hfields : ∀ o ∈ [l.operand n, r.operand (n + UInt64.ofNat l.operations)],
        Spaceless o ∧ o ≠ [] := by
      simp only [List.mem_cons, List.not_mem_nil, or_false, forall_eq_or_imp, forall_eq]
      exact ⟨spaceless_operand n hl hrl, spaceless_operand _ hr' hrr⟩
    obtain ⟨v, hv, happly⟩ : ∃ v, (arithmetic op type l r).value ι σ = some v ∧
        ι.apply τ₂ ((Opcode.ofArithmetic? op).getD .add)
          [l.operand n, r.operand (n + UInt64.ofNat l.operations)] = some v := by
      simp only [value, hvalue₁, hright, hvalue₂]
      cases op <;> simp [TokenKind.isArithmetic] at hop <;>
        simp [Opcode.ofArithmetic?, Interpretation.apply, hleft]
    refine ⟨_, execLines_concat ι hboth hfields happly, ?_, (hframe₁.trans hframe₂).set v⟩
    exact hv.trans (congrArg some (Store.set_self _ _ _).symm)
  | @unary op x e hx h ih =>
    obtain ⟨-, t, type, -, -, rfl⟩ := newUnary_eq_ok.mp h
    simp only [operations] at hsize
    obtain ⟨τ, hexec, hvalue, hframe⟩ := ih hr (by omega) n σ
    refine ⟨_, execLines_concat ι hexec (v := ι.inv (τ (x.operand n))) ?_ rfl, ?_, hframe.set _⟩
    · simpa using spaceless_operand n hx hr
    · rw [value, hvalue]
      exact congrArg some (Store.set_self _ _ _).symm
  | @index a i hi ih =>
    have hri : ∀ b ∈ i.leaves, Readable b := fun b hb => hr b (by simp [leaves, hb])
    have ha : Readable a.name := hr a.name (by simp [leaves])
    simp only [operations] at hsize
    obtain ⟨τ, hexec, hvalue, hframe⟩ := ih hri (by omega) n σ
    refine ⟨_, execLines_concat ι hexec (v := ι.idx (τ (i.operand n)) a.name) ?_ rfl, ?_,
      hframe.set _⟩
    · simpa using ⟨spaceless_operand n hi hri, ha.spaceless, ha.ne_nil⟩
    · rw [value, hvalue]
      exact congrArg some (Store.set_self _ _ _).symm

/-- No operand of a listing holds white space. -/
theorem spaceless_operands {e : Expr} (he : e.Built) (hr : ∀ b ∈ e.leaves, Readable b)
    (n : UInt64) : ∀ i ∈ e.code n, ∀ o ∈ i.operands, Spaceless o := by
  induction he generalizing n with
  | identifier id => simp [code]
  | constant t type => simp [code]
  | @arithmetic op l r e hl hr' h ihl ihr =>
    obtain ⟨-, s, t, type, -, -, -, rfl⟩ := newArithmetic_eq_ok.mp h
    have hrl : ∀ b ∈ l.leaves, Readable b := fun b hb => hr b (by simp [leaves, hb])
    have hrr : ∀ b ∈ r.leaves, Readable b := fun b hb => hr b (by simp [leaves, hb])
    intro i hi
    simp only [code, List.mem_append, List.mem_singleton] at hi
    rcases hi with (hi | hi) | rfl
    · exact ihl hrl n i hi
    · exact ihr hrr _ i hi
    · simpa using ⟨(spaceless_operand n hl hrl).1, (spaceless_operand _ hr' hrr).1⟩
  | @unary op x e hx h ih =>
    obtain ⟨-, t, type, -, -, rfl⟩ := newUnary_eq_ok.mp h
    intro i hi
    simp only [code, List.mem_append, List.mem_singleton] at hi
    rcases hi with hi | rfl
    · exact ih hr n i hi
    · simpa using (spaceless_operand n hx hr).1
  | @index a i hi ih =>
    have hri : ∀ b ∈ i.leaves, Readable b := fun b hb => hr b (by simp [leaves, hb])
    have ha : Readable a.name := hr a.name (by simp [leaves])
    intro j hj
    simp only [code, List.mem_append, List.mem_singleton] at hj
    rcases hj with hj | rfl
    · exact ih hri n j hj
    · simpa using ⟨(spaceless_operand n hi hri).1, ha.spaceless⟩

/-- The lines of a listing come back from a recorder as they are. -/
theorem lines_code {e : Expr} (he : e.Built) (hr : ∀ b ∈ e.leaves, Readable b) (g : Generator)
    (hg : g.sink.text = []) (n : UInt64) :
    (g.emitted (e.code n)).sink.lines = (e.code n).map Instruction.line := by
  have hone : ∀ l ∈ (e.code n).map Instruction.line, Bytes.splitOn '\n'.toUInt8 l = [l] := by
    intro l hl
    obtain ⟨i, hi, rfl⟩ := List.mem_map.mp hl
    apply Bytes.splitOn_of_notMem
    intro hmem
    obtain ⟨o, ho, hnewline⟩ := Instruction.newline_mem_operand hmem
    exact (spaceless_operands he hr n i hi o ho).newline_notMem hnewline
  rw [Sink.lines, Generator.text_emitted, hg, List.nil_append, Sink.linesOf_unlines]
  · exact Bytes.flatMap_eq_self hone
  · intro l hl
    obtain ⟨i, -, rfl⟩ := List.mem_map.mp hl
    exact i.line_ne_nil

end Expr

/-- **Lowering preserves meaning.** For every meaning of the opcodes and every store, lowering a
built expression into an empty recorder succeeds, and executing the recorded lines in order leaves
in the atom that lowering yields the value of the expression, whatever the number of the first
temporary. Names and literal texts must read back as single operands that are no temporaries.
Temporaries are numbered by 64-bit words, so an expression may have at most `2 ^ 64` operations:
with more of them the numbers would repeat. -/
theorem execLines_lines_reduce (ι : Interpretation V) (σ : Store V) {e : Expr} (he : e.Built)
    (hr : ∀ b ∈ e.leaves, Readable b) (hsize : e.operations ≤ UInt64.size) (ids : Ids)
    (points : List Point) :
    ∃ atom g operand v τ,
      (Generator.reduce e).run { sink := .recorder, ids := ids, points := points } = .ok atom g ∧
        atom.isAtom = .ok true ∧ atom.render = .ok operand ∧
        e.value ι σ = some v ∧ execLines ι σ g.sink.lines = some τ ∧ τ operand = v := by
  let g₀ : Generator := { sink := .recorder, ids := ids, points := points }
  obtain ⟨τ, hexec, hvalue, -⟩ := Expr.execLines_code ι he hr hsize ids.temps σ
  refine ⟨e.atom ids.temps, g₀.emitted (e.code ids.temps), e.operand ids.temps, _, τ,
    Generator.run_reduce he Sink.Open.recorder, ?_, Expr.render_atom _ he, hvalue, ?_, rfl⟩
  · exact Expr.isAtom_atom _ he
  · rw [Expr.lines_code he hr g₀ rfl, hexec]

/-- The expression `~x[a + 1]`. -/
def invertedElement : Expr :=
  .unary .tilde .int64 (.index ⟨utf8 "x", .int32, 0⟩
    (.arithmetic .plus .int32 (.identifier ⟨utf8 "a", .int32, 4⟩)
      (.constant ⟨.integer, {}, utf8 "1"⟩ .int32)))

/-- A meaning over the integers in which an array holds multiples of the length of its name. -/
def integerMeaning : Interpretation Int :=
  ⟨(· + ·), (· - ·), (· * ·), (· / ·), fun a => -a, fun i name => i * name.length⟩

theorem built_invertedElement : invertedElement.Built := by
  unfold invertedElement
  refine .unary (.index _ ?_) (Expr.newUnary_eq_ok.mpr ⟨?_, .int32, _, ?_, ?_, rfl⟩)
  · refine .arithmetic ?_ ?_ (Expr.newArithmetic_eq_ok.mpr ⟨?_, .int32, .int32, _, ?_, ?_, ?_, rfl⟩)
    · exact .identifier _
    · exact .constant _ _
    all_goals rfl
  all_goals rfl

theorem readable_invertedElement : ∀ b ∈ invertedElement.leaves, Readable b := by
  intro b hb
  simp only [invertedElement, Expr.leaves, List.cons_append, List.nil_append, List.mem_cons,
    List.not_mem_nil, or_false] at hb
  rcases hb with rfl | rfl | rfl <;> exact ⟨by decide, by decide, by decide⟩

/-- The counter comes round while `~x[a + 1]` is lowered, and the value still arrives. -/
theorem execLines_lines_invertedElement :
    invertedElement.Built ∧ (∀ b ∈ invertedElement.leaves, Readable b) ∧
      invertedElement.operations ≤ UInt64.size ∧
      ∃ atom g operand v τ,
        (Generator.reduce invertedElement).run
            { sink := .recorder, ids := ⟨0xFFFFFFFFFFFFFFFE, 0⟩, points := [] } = .ok atom g ∧
          atom.isAtom = .ok true ∧ atom.render = .ok operand ∧
          invertedElement.value integerMeaning (fun b => b.length) = some v ∧
          execLines integerMeaning (fun b => b.length) g.sink.lines = some τ ∧ τ operand = v :=
  ⟨built_invertedElement, readable_invertedElement, by decide,
    execLines_lines_reduce integerMeaning _ built_invertedElement readable_invertedElement
      (by decide) ⟨0xFFFFFFFFFFFFFFFE, 0⟩ []⟩

end ThreeAddress
