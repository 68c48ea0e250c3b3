import ThreeAddress.Code.Check
import ThreeAddress.Proofs.Code.Lines

/-!
# Which listings pass the check

The check reads lines of text, so operands that come from the source can confuse it in two ways: an
operand with a newline breaks its line in two, and an operand that is spelled like a temporary
counts as one. Apart from that every listing with temporaries numbered in order passes.

## Main definitions

* `Instruction.Legible` : no operand of an instruction confuses the check.
* `Expr.Legible` : no operand of an expression does, when it is lowered from a given number on.
* `Numbered` : instructions write consecutive temporaries.

## Main results

* `checkLinesFrom_iff` : numbered instructions pass the check if and only if they are legible.
* `checkLines_listing` : expressions lowered one after another pass it if and only if their operands
  are legible.
-/

namespace ThreeAddress

/-! ### Single lines -/

namespace Bytes

/-- Every text with a newline in it is split in front of what follows the newline. -/
theorem exists_splitOn {sep x : UInt8} (hx : x ≠ sep) {a : Bytes} (h : [sep, x] <:+: a) :
    ∃ b, x :: b ∈ splitOn sep a := by
  obtain ⟨front, back, rfl⟩ := h
  obtain ⟨b, bs, hb⟩ := exists_splitOn_append (mt List.mem_singleton.mp hx.symm) back
  refine ⟨b, ?_⟩
  rw [show front ++ [sep, x] ++ back = front ++ sep :: ([x] ++ back) by simp,
    splitOn_append_cons, hb]
  simp

end Bytes

/-- A line that starts with a quote is neither a label nor indented. -/
theorem checkLine_quote (w : Written) (b : Bytes) :
    checkLine w ('\''.toUInt8 :: b) = .error (.notIndented ('\''.toUInt8 :: b)) := by
  have hlabel : Bytes.strip? (utf8 "L") ('\''.toUInt8 :: b) = none := rfl
  have htab : Bytes.strip? (utf8 "\t") ('\''.toUInt8 :: b) = none := rfl
  simp [checkLine, isLabelLine, hlabel, htab]

/-- Lines that pass pass one by one. -/
theorem exists_checkLine {w w' : Written} {number : Nat} {ls : List Bytes}
    (h : checkLinesFrom w number ls = .ok w') {l : Bytes} (hl : l ∈ ls) :
    ∃ u u', checkLine u l = .ok u' := by
  induction ls generalizing w number with
  | nil => cases hl
  | cons k ls ih =>
    rw [checkLinesFrom] at h
    split at h
    · rename_i u hu
      rcases List.mem_cons.mp hl with rfl | hl
      · exact ⟨w, u, hu⟩
      · exact ih h hl
    · cases h

/-! ### Numbered instructions -/

/-- Exactly the temporaries below a number have been written. -/
structure Written.UpTo (w : Written) (k : Nat) : Prop where
  /-- The next temporary. -/
  next : w.next = UInt64.ofNat k
  /-- The temporaries written. -/
  defined : ∀ id, w.defined.contains id = true ↔ id.toNat < k

theorem Written.upTo_zero : Written.UpTo {} 0 :=
  ⟨rfl, fun id => by simp⟩

theorem Written.UpTo.succ {w : Written} {k : Nat} (h : w.UpTo k) (hk : k < UInt64.size) :
    Written.UpTo ⟨UInt64.ofNat k :: w.defined, UInt64.ofNat k + 1⟩ (k + 1) where
  next := by rw [UInt64.ofNat_add]; rfl
  defined id := by
    have hid : id = UInt64.ofNat k ↔ id.toNat = k := by
      rw [← UInt64.toNat_inj, UInt64.toNat_ofNat_of_lt' hk]
    have := h.defined id
    simp only [List.contains_cons, Bool.or_eq_true, beq_iff_eq, hid, this]
    omega

/-- The fields of the operands that are spelled like a temporary name one that is written
before. -/
def Instruction.ReadsWritten (i : Instruction) : Prop :=
  ∀ o ∈ i.operands, ∀ field ∈ Fields.split o, ∀ m, temporaryOf? field = some m →
    m.toNat < i.target.toNat

/-- No operand breaks its line or reads a temporary that is not written. -/
def Instruction.Legible (i : Instruction) : Prop :=
  (∀ o ∈ i.operands, '\n'.toUInt8 ∉ o) ∧ i.ReadsWritten

/-- Instructions that compute values and write consecutive temporaries from a number on. -/
def Numbered : (k : Nat) → List Instruction → Prop
  | _, [] => True
  | k, i :: is => i.target = UInt64.ofNat k ∧ i.opcode.isJump = false ∧ k < UInt64.size ∧
      Numbered (k + 1) is

/-- The check of a line that holds one instruction. -/
theorem checkLine_line {i : Instruction} {w : Written} {k : Nat} (hw : w.UpTo k)
    (htarget : i.target = UInt64.ofNat k) (hjump : i.opcode.isJump = false)
    (hk : k < UInt64.size) :
    (i.ReadsWritten → checkLine w i.line = .ok ⟨UInt64.ofNat k :: w.defined, UInt64.ofNat k + 1⟩) ∧
      ∀ w', checkLine w i.line = .ok w' → i.ReadsWritten := by
  have hlabel : isLabelLine i.line = false := by
    have : Bytes.strip? (utf8 "L") i.line = none := rfl
    simp [isLabelLine, this]
  have hline : checkLine w i.line = do
      checkReads w (i.operands.flatMap Fields.split)
      return ⟨UInt64.ofNat k :: w.defined, UInt64.ofNat k + 1⟩ := by
    rw [checkLine, hlabel, if_neg Bool.false_ne_true, Instruction.strip?_line]
    simp only [Instruction.split_text, checkInstruction, Opcode.ofName?_name, hjump,
      temporaryOf?_temporaryName, htarget, hw.next]
    simp
  have hreads : unwritten? w (i.operands.flatMap Fields.split) = none ↔ i.ReadsWritten := by
    simp only [unwritten?, List.find?_eq_none, List.mem_flatMap, Instruction.ReadsWritten,
      htarget, UInt64.toNat_ofNat_of_lt' hk]
    constructor
    · intro h o ho field hfield m hm
      have := h field ⟨o, ho, hfield⟩
      rw [hm] at this
      exact (hw.defined m).mp (by simpa using this)
    · rintro h field ⟨o, ho, hfield⟩
      cases hm : temporaryOf? field with
      | none => simp
      | some m => simpa using (hw.defined m).mpr (h o ho field hfield m hm)
  rw [hline, checkReads]
  constructor
  · intro h
    rw [hreads.mpr h]
    rfl
  · intro w' h
    cases hu : unwritten? w (i.operands.flatMap Fields.split) with
    | none => exact hreads.mp hu
    | some o =>
      rw [hu] at h
      cases h

/-- An instruction with a newline in an operand does not pass: the quote behind the newline starts a
line. -/
theorem not_checkLinesFrom {i : Instruction} {o : Bytes} (ho : o ∈ i.operands)
    (hquote : ['\n'.toUInt8, '\''.toUInt8] <:+: o) {ls : List Bytes}
    (hls : ∀ l ∈ Bytes.splitOn '\n'.toUInt8 i.line, l ∈ ls) (w : Written) (number : Nat) :
    ¬ ∃ w', checkLinesFrom w number ls = .ok w' := by
  rintro ⟨w', h⟩
  obtain ⟨b, hb⟩ := Bytes.exists_splitOn (by decide) (hquote.trans (Instruction.infix_line ho))
  obtain ⟨u, u', hu⟩ := exists_checkLine h (hls _ hb)
  rw [checkLine_quote] at hu
  cases hu

/-- Numbered instructions pass the check if and only if they are legible. -/
theorem checkLinesFrom_iff {is : List Instruction} {k : Nat} (hnumbered : Numbered k is)
    (hquote : ∀ i ∈ is, ∀ o ∈ i.operands, '\n'.toUInt8 ∈ o →
      ['\n'.toUInt8, '\''.toUInt8] <:+: o) {w : Written} (hw : w.UpTo k) (number : Nat) :
    (∃ w', checkLinesFrom w number (is.flatMap fun i => Bytes.splitOn '\n'.toUInt8 i.line) =
      .ok w') ↔ ∀ i ∈ is, i.Legible := by
  induction is generalizing k w number with
  | nil => simp [checkLinesFrom]
  | cons i is ih =>
    obtain ⟨htarget, hjump, hk, hrest⟩ := hnumbered
    have hcheck := checkLine_line hw htarget hjump hk
    by_cases hnewline : ∃ o ∈ i.operands, '\n'.toUInt8 ∈ o
    · obtain ⟨o, ho, hmem⟩ := hnewline
      have hno : ¬ ∃ w', checkLinesFrom w number
          ((i :: is).flatMap fun i => Bytes.splitOn '\n'.toUInt8 i.line) = .ok w' :=
        not_checkLinesFrom ho (hquote i List.mem_cons_self o ho hmem)
          (fun l hl => List.mem_flatMap.mpr ⟨i, List.mem_cons_self, hl⟩) w number
      exact ⟨fun h => absurd h hno, fun h => absurd hmem ((h i List.mem_cons_self).1 o ho)⟩
    · have hline : '\n'.toUInt8 ∉ i.line := fun h => hnewline (Instruction.newline_mem_operand h)
      have hplain : ∀ o ∈ i.operands, '\n'.toUInt8 ∉ o := fun o ho h => hnewline ⟨o, ho, h⟩
      rw [List.flatMap_cons, Bytes.splitOn_of_notMem hline, List.singleton_append, checkLinesFrom,
        List.forall_mem_cons]
      by_cases hreads : i.ReadsWritten
      · rw [hcheck.1 hreads]
        have hrec := ih hrest (fun j hj => hquote j (List.mem_cons_of_mem _ hj)) (hw.succ hk)
          (number + 1)
        rw [hrec]
        exact ⟨fun h => ⟨⟨hplain, hreads⟩, h⟩, And.right⟩
      · refine ⟨?_, fun h => absurd h.1.2 hreads⟩
        rintro ⟨w', h⟩
        split at h
        · rename_i u hu
          exact absurd (hcheck.2 u hu) hreads
        · cases h

/-! ### Expressions -/

/-- A text that the instruction with number `k` reads does not break its line, and its fields that
are spelled like a temporary name an earlier one. -/
def LegibleText (k : Nat) (text : Bytes) : Prop :=
  '\n'.toUInt8 ∉ text ∧ ∀ field ∈ Fields.split text, ∀ m, temporaryOf? field = some m → m.toNat < k

/-- A name that the instruction with number `k` reads is not spelled like a temporary, or like one
that is written before. -/
def LegibleName (k : Nat) (name : Bytes) : Prop :=
  ∀ m, temporaryOf? name = some m → m.toNat < k

/-- A literal text has no field that is spelled like a temporary, and a quote stands behind a
newline in it. -/
structure LiteralText (text : Bytes) : Prop where
  /-- No field is spelled like a temporary. -/
  fields : ∀ field ∈ Fields.split text, temporaryOf? field = none
  /-- A quote stands behind a newline. -/
  newline : '\n'.toUInt8 ∈ text → ['\n'.toUInt8, '\''.toUInt8] <:+: text

theorem literalText_of_spaceless {text : Bytes} (h : Spaceless text)
    (htemporary : temporaryOf? text = none) : LiteralText text := by
  refine ⟨fun field hfield => ?_, fun hnewline => absurd hnewline h.newline_notMem⟩
  rw [Fields.split_of_spaceless h] at hfield
  rcases Fields.mem_close hfield with rfl | hnone
  · exact htemporary
  · cases hnone

/-- No literal is spelled like a temporary. -/
theorem LiteralText.ne_temporaryName {text : Bytes} (h : LiteralText text) (n : UInt64) :
    text ≠ temporaryName n := by
  rintro rfl
  have hsplit := Fields.split_eq_singleton (spaceless_temporaryName n) (temporaryName_ne_nil n)
  have hnone := h.fields (temporaryName n) (by rw [hsplit]; exact List.mem_cons_self)
  rw [temporaryOf?_temporaryName] at hnone
  cases hnone

theorem legibleText_iff_of_spaceless {k : Nat} {text : Bytes} (h : Spaceless text) :
    LegibleText k text ↔ LegibleName k text := by
  have hempty : temporaryOf? [] = none := rfl
  rw [LegibleText, LegibleName, Fields.split_of_spaceless h, Fields.close]
  by_cases hnil : text = []
  · simp [hnil, hempty]
  · simp [hnil, h.newline_notMem]

theorem legibleText_iff_of_literal {k : Nat} {text : Bytes} (h : LiteralText text) :
    LegibleText k text ↔ '\n'.toUInt8 ∉ text := by
  refine ⟨And.left, fun hnewline => ⟨hnewline, fun field hfield m hm => ?_⟩⟩
  rw [h.fields field hfield] at hm
  cases hm

namespace Expr

/-- The names of an expression have one property, and its literals with their types another one. -/
def OnLeaves (name : Identifier → Prop) (literal : Token → DataType → Prop) : Expr → Prop
  | identifier id => name id
  | constant t type => literal t type
  | arithmetic _ _ l r => l.OnLeaves name literal ∧ r.OnLeaves name literal
  | unary _ _ x => x.OnLeaves name literal
  | index a i => name a ∧ i.OnLeaves name literal
  | absent | temporary _ _ => False

/-- The texts of the names of an expression have one property, and those of its literals another
one. -/
abbrev Leaves (name literal : Bytes → Prop) : Expr → Prop :=
  OnLeaves (fun id => name id.name) fun t _ => literal t.render

/-- The names and literals of an expression are spelled as in a source. -/
abbrev Spelled : Expr → Prop :=
  Leaves Spaceless LiteralText

/-- An expression can be an operand of the instruction with number `k`: a name is not spelled like
a temporary that is still to be written, and a literal holds no newline. -/
def LegibleAt (k : Nat) : Expr → Prop
  | identifier id => LegibleName k id.name
  | constant t _ => '\n'.toUInt8 ∉ t.render
  | _ => True

/-- Every operand of an expression is legible when it is lowered with temporaries from `n` on. -/
def Legible (n : Nat) : Expr → Prop
  | arithmetic _ _ l r => l.Legible n ∧ r.Legible (n + l.operations) ∧
      l.LegibleAt (n + l.operations + r.operations) ∧
      r.LegibleAt (n + l.operations + r.operations)
  | unary _ _ x => x.Legible n ∧ x.LegibleAt (n + x.operations)
  | index a i => i.Legible n ∧ i.LegibleAt (n + i.operations) ∧
      LegibleName (n + i.operations) a.name
  | _ => True

theorem legibleText_temporaryName {j k : Nat} (hjk : j < k) (hj : j < UInt64.size) :
    LegibleText k (temporaryName (UInt64.ofNat j)) := by
  rw [legibleText_iff_of_spaceless (spaceless_temporaryName _)]
  intro m hm
  rw [temporaryOf?_temporaryName] at hm
  rwa [← Option.some.inj hm, UInt64.toNat_ofNat_of_lt' hj]

/-- The operand of a spelled expression is legible if and only if the expression is. -/
theorem legibleText_operand {e : Expr} (hs : e.Spelled) {n k : Nat} (hk : n + e.operations ≤ k)
    (hn : n + e.operations ≤ UInt64.size) :
    LegibleText k (e.operand (UInt64.ofNat n)) ↔ e.LegibleAt k := by
  cases e with
  | identifier id => exact legibleText_iff_of_spaceless hs
  | constant t type => exact legibleText_iff_of_literal hs
  | arithmetic op type l r =>
    simp only [operand, atom, LegibleAt, iff_true, ← UInt64.ofNat_add, operations] at hk hn ⊢
    exact legibleText_temporaryName (by omega) (by omega)
  | unary op type x =>
    simp only [operand, atom, LegibleAt, iff_true, ← UInt64.ofNat_add, operations] at hk hn ⊢
    exact legibleText_temporaryName (by omega) (by omega)
  | index a i =>
    simp only [operand, atom, LegibleAt, iff_true, ← UInt64.ofNat_add, operations] at hk hn ⊢
    exact legibleText_temporaryName (by omega) (by omega)
  | absent => cases hs
  | temporary id type => cases hs

end Expr

theorem Instruction.legible_iff {o : Opcode} {k : Nat} (hk : k < UInt64.size)
    {operands : List Bytes} :
    Instruction.Legible ⟨o, UInt64.ofNat k, operands⟩ ↔ ∀ p ∈ operands, LegibleText k p := by
  simp only [Instruction.Legible, Instruction.ReadsWritten, LegibleText,
    UInt64.toNat_ofNat_of_lt' hk]
  exact ⟨fun h p hp => ⟨h.1 p hp, h.2 p hp⟩, fun h => ⟨fun p hp => (h p hp).1,
    fun p hp => (h p hp).2⟩⟩

/-- The instructions of a spelled expression are legible if and only if the expression is. -/
theorem Expr.legible_code {e : Expr} (hs : e.Spelled) {n : Nat}
    (hn : n + e.operations ≤ UInt64.size) :
    (∀ i ∈ e.code (UInt64.ofNat n), i.Legible) ↔ e.Legible n := by
  induction e generalizing n with
  | arithmetic op type l r ihl ihr =>
    rw [operations] at hn
    simp only [code, ← UInt64.ofNat_add, List.forall_mem_append, List.forall_mem_singleton]
    rw [ihl hs.1 (by omega), ihr hs.2 (by omega), Instruction.legible_iff (by omega),
      List.forall_mem_cons, List.forall_mem_singleton,
      legibleText_operand hs.1 (by omega) (by omega),
      legibleText_operand hs.2 (by omega) (by omega), Legible, ← Nat.add_assoc, and_assoc]
  | unary op type x ih =>
    have hx : x.Spelled := hs
    rw [operations] at hn
    simp only [code, ← UInt64.ofNat_add, List.forall_mem_append, List.forall_mem_singleton]
    rw [ih hx (by omega), Instruction.legible_iff (by omega), List.forall_mem_singleton,
      legibleText_operand hx (by omega) (by omega), Legible]
  | index a i ih =>
    rw [operations] at hn
    simp only [code, ← UInt64.ofNat_add, List.forall_mem_append, List.forall_mem_singleton]
    rw [ih hs.2 (by omega), Instruction.legible_iff (by omega), List.forall_mem_cons,
      List.forall_mem_singleton, legibleText_operand hs.2 (by omega) (by omega),
      legibleText_iff_of_spaceless hs.1, Legible]
  | _ => simp [code, Legible]

/-- The texts in the instructions of a spelled expression have a quote behind every newline. -/
theorem Expr.quote_operand {e : Expr} (hs : e.Spelled) (n : UInt64)
    (h : '\n'.toUInt8 ∈ e.operand n) : ['\n'.toUInt8, '\''.toUInt8] <:+: e.operand n := by
  have htemporary (m : UInt64) : '\n'.toUInt8 ∉ temporaryName m :=
    (spaceless_temporaryName m).newline_notMem
  cases e with
  | identifier id => exact absurd h (Spaceless.newline_notMem hs)
  | constant t type => exact LiteralText.newline hs h
  | arithmetic op type l r => exact absurd h (htemporary _)
  | unary op type x => exact absurd h (htemporary _)
  | index a i => exact absurd h (htemporary _)
  | absent => cases hs
  | temporary id type => cases hs

theorem Expr.quote_code {e : Expr} (hs : e.Spelled) (n : UInt64) :
    ∀ i ∈ e.code n, ∀ o ∈ i.operands, '\n'.toUInt8 ∈ o →
      ['\n'.toUInt8, '\''.toUInt8] <:+: o := by
  induction e generalizing n with
  | arithmetic op type l r ihl ihr =>
    simp only [code, List.forall_mem_append, List.forall_mem_singleton, List.forall_mem_cons]
    exact ⟨⟨ihl hs.1 n, ihr hs.2 _⟩, quote_operand hs.1 _, quote_operand hs.2 _⟩
  | unary op type x ih =>
    have hx : x.Spelled := hs
    simp only [code, List.forall_mem_append, List.forall_mem_singleton]
    exact ⟨ih hx n, quote_operand hx _⟩
  | index a i ih =>
    simp only [code, List.forall_mem_append, List.forall_mem_singleton, List.forall_mem_cons]
    exact ⟨ih hs.2 n, quote_operand hs.2 _, fun h => absurd h hs.1.newline_notMem⟩
  | _ => simp [code]

/-- An expression without names that are spelled like temporaries and without newlines is legible
wherever it is lowered. -/
theorem Expr.legible_of_plain {e : Expr}
    (h : e.Leaves (temporaryOf? · = none) ('\n'.toUInt8 ∉ ·)) (n k : Nat) :
    e.Legible n ∧ e.LegibleAt k := by
  have hname {name : Bytes} (h : temporaryOf? name = none) (k : Nat) : LegibleName k name := by
    intro m hm
    rw [h] at hm
    cases hm
  induction e generalizing n k with
  | identifier id => exact ⟨trivial, hname h k⟩
  | constant t type => exact ⟨trivial, h⟩
  | arithmetic op type l r ihl ihr =>
    exact ⟨⟨(ihl h.1 n k).1, (ihr h.2 _ k).1, (ihl h.1 n _).2, (ihr h.2 n _).2⟩, trivial⟩
  | unary op type x ih => exact ⟨⟨(ih h n k).1, (ih h n _).2⟩, trivial⟩
  | index a i ih => exact ⟨⟨(ih h.2 n k).1, (ih h.2 n _).2, hname h.1 _⟩, trivial⟩
  | absent => cases h
  | temporary id type => cases h

theorem Numbered.append {is js : List Instruction} {k : Nat} (h : Numbered k is)
    (h' : Numbered (k + is.length) js) : Numbered k (is ++ js) := by
  induction is generalizing k with
  | nil => exact h'
  | cons i is ih =>
    obtain ⟨htarget, hjump, hk, hrest⟩ := h
    refine ⟨htarget, hjump, hk, ih hrest ?_⟩
    rwa [List.length_cons, Nat.add_comm is.length, ← Nat.add_assoc] at h'

/-- The instructions of an expression write consecutive temporaries. -/
theorem Expr.numbered_code (e : Expr) {n : Nat} (hn : n + e.operations ≤ UInt64.size) :
    Numbered n (e.code (UInt64.ofNat n)) := by
  have harithmetic (op : TokenKind) : ((Opcode.ofArithmetic? op).getD .add).isJump = false := by
    cases op <;> rfl
  induction e generalizing n with
  | arithmetic op type l r ihl ihr =>
    rw [operations] at hn
    simp only [code, ← UInt64.ofNat_add]
    refine ((ihl (by omega)).append ?_).append ?_
    · rw [length_code]
      exact ihr (by omega)
    · rw [List.length_append, length_code, length_code]
      exact ⟨rfl, harithmetic op, by omega, trivial⟩
  | unary op type x ih =>
    rw [operations] at hn
    simp only [code, ← UInt64.ofNat_add]
    refine (ih (by omega)).append ?_
    rw [length_code]
    exact ⟨rfl, rfl, by omega, trivial⟩
  | index a i ih =>
    rw [operations] at hn
    simp only [code, ← UInt64.ofNat_add]
    refine (ih (by omega)).append ?_
    rw [length_code]
    exact ⟨rfl, rfl, by omega, trivial⟩
  | _ => trivial

/-! ### Lists of expressions -/

/-- The number of instructions of expressions lowered one after another. -/
def totalOperations : List Expr → Nat
  | [] => 0
  | e :: es => e.operations + totalOperations es

/-- The instructions of expressions lowered one after another, with temporaries from `n` on. -/
def listing (n : Nat) : List Expr → List Instruction
  | [] => []
  | e :: es => e.code (UInt64.ofNat n) ++ listing (n + e.operations) es

/-- Expressions lowered one after another are legible. -/
def LegibleFrom (n : Nat) : List Expr → Prop
  | [] => True
  | e :: es => e.Legible n ∧ LegibleFrom (n + e.operations) es

theorem legibleFrom_of_forall {es : List Expr} (h : ∀ e ∈ es, ∀ n, e.Legible n) (n : Nat) :
    LegibleFrom n es := by
  induction es generalizing n with
  | nil => trivial
  | cons e es ih =>
    exact ⟨h e List.mem_cons_self n, ih (fun e' he' => h e' (List.mem_cons_of_mem _ he')) _⟩

theorem numbered_listing (es : List Expr) {n : Nat} (hn : n + totalOperations es ≤ UInt64.size) :
    Numbered n (listing n es) := by
  induction es generalizing n with
  | nil => trivial
  | cons e es ih =>
    rw [totalOperations] at hn
    refine (e.numbered_code (by omega)).append ?_
    rw [Expr.length_code]
    exact ih (by omega)

theorem legible_listing {es : List Expr} (hs : ∀ e ∈ es, e.Spelled) {n : Nat}
    (hn : n + totalOperations es ≤ UInt64.size) :
    (∀ i ∈ listing n es, i.Legible) ↔ LegibleFrom n es := by
  induction es generalizing n with
  | nil => simp [listing, LegibleFrom]
  | cons e es ih =>
    rw [totalOperations] at hn
    rw [listing, List.forall_mem_append, Expr.legible_code (hs e List.mem_cons_self) (by omega),
      ih (fun e' he' => hs e' (List.mem_cons_of_mem _ he')) (by omega),
      LegibleFrom]

theorem quote_listing {es : List Expr} (hs : ∀ e ∈ es, e.Spelled) (n : Nat) :
    ∀ i ∈ listing n es, ∀ o ∈ i.operands, '\n'.toUInt8 ∈ o →
      ['\n'.toUInt8, '\''.toUInt8] <:+: o := by
  induction es generalizing n with
  | nil => simp [listing]
  | cons e es ih =>
    rw [listing, List.forall_mem_append]
    exact ⟨Expr.quote_code (hs e List.mem_cons_self) _,
      ih (fun e' he' => hs e' (List.mem_cons_of_mem _ he')) _⟩

/-- Spelled expressions lowered one after another pass the check if and only if they are
legible. -/
theorem checkLines_listing {es : List Expr} (hs : ∀ e ∈ es, e.Spelled)
    (hn : totalOperations es ≤ UInt64.size) :
    (∃ w, checkLines (Sink.linesOf (Sink.unlines ((listing 0 es).map Instruction.line))) =
      .ok w) ↔ LegibleFrom 0 es := by
  have hlines : ∀ l ∈ (listing 0 es).map Instruction.line, l ≠ [] := by
    intro l hl
    obtain ⟨i, -, rfl⟩ := List.mem_map.mp hl
    exact i.line_ne_nil
  have hn : 0 + totalOperations es ≤ UInt64.size := by rwa [Nat.zero_add]
  rw [Sink.linesOf_unlines hlines, List.flatMap_map, checkLines,
    checkLinesFrom_iff (numbered_listing es hn) (quote_listing hs 0) Written.upTo_zero,
    legible_listing hs hn]

end ThreeAddress
