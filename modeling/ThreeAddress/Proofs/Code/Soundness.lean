import Mathlib.Data.List.Chain
import ThreeAddress.Proofs.Text.Decimal
import ThreeAddress.Proofs.Text.IntegerReading
import ThreeAddress.Proofs.Text.Splitting

/-!
# What the check of emitted code promises

Lines that pass the check are labels and instructions, an instruction reads only temporaries that
some line in front of it writes, and the temporaries are written in ascending order of their
numbers. The order has one gap. The least number that may be written next is a 64-bit word, and
behind the largest word it is 0: once the temporary with the largest number is written, numbering
may start anew, and temporaries may be written a second time.

## Main definitions

* `SpellsTemporary` : an operand is `__t` with decimal digits behind it.
* `instructionOf?`, `destination?`, `operandsRead` : the parts of a line of code.
* `Orderly` : the lines that pass.

## Main results

* `temporaryOf?_eq_some_iff` : the operands that the check takes for temporaries.
* `checkLine_eq_ok_iff` : the check of one line.
* `exists_checkLinesFrom_iff` : the lines that pass from some point on.
* `exists_checkLines_iff_orderly` : the lines that pass, and when they are numbered upwards.
-/

namespace ThreeAddress

/-! ### The numbers of temporaries -/

namespace Integer

open Lexer

variable {base bound acc n : Nat} {ds : Bytes}

/-- A number in base 10 is read from digits alone. -/
theorem isDigit_of_readDigits (h : readDigits 10 bound false acc ds = .ok n) :
    ∀ d ∈ ds, isDigit d = true := by
  have hten (d : UInt8) : isDigit d = true ∨ ∀ v ∈ digitValue? d, 10 ≤ v :=
    forall_byte (p := fun d => isDigit d = true ∨ ∀ v ∈ digitValue? d, 10 ≤ v)
      (by decide +kernel) d
  induction ds generalizing acc with
  | nil => exact List.forall_mem_nil _
  | cons d ds ih =>
    rw [readDigits, Bool.false_and, if_neg Bool.false_ne_true] at h
    split at h
    · cases h
    · rename_i v hv
      split at h
      · cases h
      · rename_i hlt
        split at h
        · cases h
        · exact List.forall_mem_cons.mpr ⟨(hten d).resolve_right fun hle => hlt (hle v hv), ih h⟩

/-- Digits alone are read as the number that they write, if it is within the bound. -/
theorem readNat_ten_eq_ok_iff : readNat (.fixed 10) bound ds = .ok n ↔
    ds ≠ [] ∧ (∀ d ∈ ds, isDigit d = true) ∧ valueIn 10 ds = n ∧ n ≤ bound := by
  have hread (hdigits : ∀ d ∈ ds, isDigit d = true) :
      (readDigits 10 bound false 0 ds).toOption = (some (valueIn 10 ds)).filter (· ≤ bound) := by
    have hrun : ∀ d ∈ ds, isDigitIn 10 d = true ∨ d = '_'.toUInt8 := fun d hd =>
      .inl (isDigitIn_ten ▸ hdigits d hd)
    have hplain : '_'.toUInt8 ∉ ds := fun hmem => absurd (hdigits _ hmem) (by decide)
    rw [readDigits_of_notMem hplain, readDigits_of_digits hrun (Nat.zero_le _), Nat.zero_mul,
      Nat.zero_add]
  rw [readNat]
  split
  · rename_i hnil
    simp [hnil]
  · rename_i hne
    show readDigits 10 bound false 0 ds = .ok n ↔ _
    constructor
    · intro h
      have hdigits := isDigit_of_readDigits h
      have hvalue := hread hdigits
      rw [h] at hvalue
      obtain ⟨hvalue, hle⟩ := Option.filter_eq_some_iff.mp hvalue.symm
      exact ⟨hne, hdigits, Option.some.inj hvalue, of_decide_eq_true hle⟩
    · rintro ⟨-, hdigits, rfl, hle⟩
      have hvalue := hread hdigits
      rw [Option.filter_some, if_pos (decide_eq_true hle)] at hvalue
      cases h : readDigits 10 bound false 0 ds with
      | error e =>
        rw [h] at hvalue
        cases hvalue
      | ok m =>
        rw [h] at hvalue
        rw [Option.some.inj hvalue]

end Integer

/-- An operand is spelled like the temporary with a number: decimal digits stand behind `__t`, and
the number that they write is that one. Zeros may lead. -/
def SpellsTemporary (operand : Bytes) (n : UInt64) : Prop :=
  ∃ digits, operand = utf8 "__t" ++ digits ∧ digits ≠ [] ∧
    (∀ d ∈ digits, Lexer.isDigit d = true) ∧ Lexer.valueIn 10 digits = n.toNat

theorem wordOf?_eq_some_iff {digits : Bytes} {n : UInt64} : wordOf? digits = some n ↔
    digits ≠ [] ∧ (∀ d ∈ digits, Lexer.isDigit d = true) ∧ Lexer.valueIn 10 digits = n.toNat := by
  have hread := @Integer.readNat_ten_eq_ok_iff (UInt64.size - 1) n.toNat digits
  have hle : n.toNat ≤ UInt64.size - 1 := Nat.le_sub_one_of_lt n.toNat_lt
  simp only [hle, and_true] at hread
  rw [← hread, wordOf?]
  cases h : Integer.readNat (.fixed 10) (UInt64.size - 1) digits with
  | error e => simp
  | ok m =>
    have hm := (Integer.readNat_ten_eq_ok_iff.mp h).2.2.2
    have hlt : m < UInt64.size := Nat.lt_of_le_sub_one (by decide) hm
    simp only [Option.some.injEq, Except.ok.injEq, ← UInt64.toNat_inj,
      UInt64.toNat_ofNat_of_lt' hlt]

/-- The check takes an operand for the temporary that it is spelled like. -/
theorem temporaryOf?_eq_some_iff {operand : Bytes} {n : UInt64} :
    temporaryOf? operand = some n ↔ SpellsTemporary operand n := by
  rw [temporaryOf?, Option.bind_eq_some_iff]
  constructor
  · rintro ⟨digits, hstrip, hword⟩
    exact ⟨digits, Bytes.eq_append_of_strip? hstrip, wordOf?_eq_some_iff.mp hword⟩
  · rintro ⟨digits, rfl, hdigits⟩
    exact ⟨digits, Bytes.strip?_append _ _, wordOf?_eq_some_iff.mpr hdigits⟩

/-! ### Lines of code -/

/-- The instruction that a line holds: behind a tab its opcode, its first operand, and the operands
behind that. -/
def instructionOf? (line : Bytes) : Option (Opcode × Bytes × List Bytes) :=
  match (Bytes.strip? (utf8 "\t") line).map Fields.split with
  | some (opcode :: first :: operands) =>
    (Opcode.ofName? opcode).map fun o => (o, first, operands)
  | _ => none

/-- The number of the temporary that a line writes: a value instruction writes its first operand. -/
def destination? (line : Bytes) : Option UInt64 :=
  match instructionOf? line with
  | some (o, first, _) => if o.isJump then none else temporaryOf? first
  | none => none

/-- The operands behind the destination of a value instruction or behind the label of a jump. -/
def operandsRead (line : Bytes) : List Bytes :=
  match instructionOf? line with
  | some (_, _, operands) => operands
  | none => []

/-- A line is a label, or an instruction that goes to a label or writes a temporary. -/
def IsCodeLine (line : Bytes) : Prop :=
  isLabelLine line = true ∨ ∃ o first operands, instructionOf? line = some (o, first, operands) ∧
    if o.isJump then utf8 "L" <+: first else ∃ n, SpellsTemporary first n

/-- The temporaries that lines write, in order. -/
def destinations (lines : List Bytes) : List UInt64 :=
  lines.filterMap destination?

/-- A label is no instruction. -/
theorem instructionOf?_of_isLabelLine {line : Bytes} (h : isLabelLine line = true) :
    instructionOf? line = none := by
  cases line with
  | nil => rfl
  | cons b line =>
    have htab : utf8 "\t" = ['\t'.toUInt8] := by decide
    have hletter : utf8 "L" = ['L'.toUInt8] := by decide
    by_cases hb : b = '\t'.toUInt8
    · subst hb
      rw [isLabelLine, hletter] at h
      cases h
    · have hne : ('\t'.toUInt8 == b) = false := beq_false_of_ne (Ne.symm hb)
      simp only [instructionOf?, htab, Bytes.strip?, hne, Bool.false_eq_true, if_false,
        Option.map_none]

/-! ### The check of one line -/

/-- What is written once a line has passed. -/
def Written.behind (w : Written) (line : Bytes) : Written :=
  match destination? line with
  | some n => ⟨n :: w.defined, n + 1⟩
  | none => w

/-- A line passes if it may stand at its place: its operands that are temporaries are written
before, and its destination is not below the next number. -/
structure Written.Admits (w : Written) (line : Bytes) : Prop where
  /-- It is a label or an instruction. -/
  code : IsCodeLine line
  /-- Temporaries are read after they are written. -/
  defined : ∀ operand ∈ operandsRead line, ∀ n, SpellsTemporary operand n → n ∈ w.defined
  /-- The destination is not below the next number. -/
  next : ∀ n ∈ destination? line, w.next ≤ n

theorem checkReads_eq_ok_iff {w : Written} {operands : List Bytes} :
    checkReads w operands = .ok () ↔
      ∀ operand ∈ operands, ∀ n, SpellsTemporary operand n → n ∈ w.defined := by
  have hunwritten : unwritten? w operands = none ↔
      ∀ operand ∈ operands, ∀ n, SpellsTemporary operand n → n ∈ w.defined := by
    rw [unwritten?, List.find?_eq_none]
    refine forall₂_congr fun operand _ => ?_
    simp only [← temporaryOf?_eq_some_iff]
    cases temporaryOf? operand <;> simp
  rw [← hunwritten, checkReads]
  cases unwritten? w operands <;> simp

/-- A line that is neither a label nor an instruction does not pass. -/
theorem checkLine_of_none {line : Bytes} (w : Written) (hlabel : isLabelLine line = false)
    (h : instructionOf? line = none) : ∃ f, checkLine w line = .error f := by
  rw [checkLine, hlabel, if_neg Bool.false_ne_true]
  unfold instructionOf? at h
  cases hbody : Bytes.strip? (utf8 "\t") line with
  | none => exact ⟨_, rfl⟩
  | some body =>
    rw [hbody, Option.map_some] at h
    dsimp only at h ⊢
    split at h
    · rename_i opcode first operands hfields
      rw [Option.some.inj hfields]
      rw [Option.map_eq_none_iff] at h
      dsimp only
      rw [checkInstruction, h]
      exact ⟨_, rfl⟩
    · rename_i hfields
      split
      · rename_i opcode first operands heq
        exact absurd (congrArg some heq) (hfields opcode first operands)
      · exact ⟨_, rfl⟩

/-- The check of a line that holds an instruction. -/
theorem checkLine_of_some {line first : Bytes} {o : Opcode} {operands : List Bytes} (w : Written)
    (hlabel : isLabelLine line = false) (h : instructionOf? line = some (o, first, operands)) :
    ∃ opcode, Opcode.ofName? opcode = some o ∧
      checkLine w line = checkInstruction w line opcode first operands := by
  unfold instructionOf? at h
  split at h
  · rename_i opcode first' operands' hfields
    obtain ⟨o', ho, heq⟩ := Option.map_eq_some_iff.mp h
    cases heq
    obtain ⟨body, hbody, hsplit⟩ := Option.map_eq_some_iff.mp hfields
    refine ⟨opcode, ho, ?_⟩
    rw [checkLine, hlabel, if_neg Bool.false_ne_true, hbody]
    dsimp only
    rw [hsplit]
  · cases h

/-- A line with an instruction may stand at a place, told by the parts of the instruction. -/
theorem admits_iff {w : Written} {line first : Bytes} {o : Opcode} {operands : List Bytes}
    (h : instructionOf? line = some (o, first, operands)) : w.Admits line ↔
      (if o.isJump then utf8 "L" <+: first else ∃ n, SpellsTemporary first n) ∧
        (∀ operand ∈ operands, ∀ n, SpellsTemporary operand n → n ∈ w.defined) ∧
          ∀ n ∈ destination? line, w.next ≤ n := by
  have hread : operandsRead line = operands := by rw [operandsRead, h]
  have hcode : IsCodeLine line ↔
      if o.isJump then utf8 "L" <+: first else ∃ n, SpellsTemporary first n := by
    constructor
    · rintro (hlabel | ⟨o', first', operands', h', hfirst⟩)
      · rw [instructionOf?_of_isLabelLine hlabel] at h
        cases h
      · cases h.symm.trans h'
        exact hfirst
    · exact fun hfirst => .inr ⟨o, first, operands, h, hfirst⟩
  rw [← hcode]
  exact ⟨fun ha => ⟨ha.code, hread ▸ ha.defined, ha.next⟩,
    fun ⟨ha, hdefined, hnext⟩ => ⟨ha, hread.symm ▸ hdefined, hnext⟩⟩

/-- Reads are checked first, and then the rest of the check goes on. -/
theorem checkReads_bind_eq_ok_iff {w u w' : Written} {operands : List Bytes} :
    (do checkReads w operands; return u : Except LineFault Written) = .ok w' ↔
      (∀ operand ∈ operands, ∀ n, SpellsTemporary operand n → n ∈ w.defined) ∧ w' = u := by
  rw [← checkReads_eq_ok_iff]
  cases checkReads w operands with
  | error f => simp [bind, Except.bind]
  | ok _ => simp [bind, Except.bind, pure, Except.pure, eq_comm]

theorem checkInstruction_eq_ok_iff {w w' : Written} {line opcode first : Bytes} {o : Opcode}
    {operands : List Bytes} (ho : Opcode.ofName? opcode = some o)
    (h : instructionOf? line = some (o, first, operands)) :
    checkInstruction w line opcode first operands = .ok w' ↔
      w.Admits line ∧ w' = w.behind line := by
  have hdestination : destination? line = if o.isJump then none else temporaryOf? first := by
    rw [destination?, h]
  rw [admits_iff h, checkInstruction, ho, Written.behind, hdestination]
  dsimp only
  by_cases hjump : o.isJump = true
  · simp only [hjump, if_true, List.isPrefixOf_iff_prefix]
    split
    · rename_i hlabel
      rw [checkReads_bind_eq_ok_iff]
      simp [hlabel]
    · rename_i hlabel
      simp [hlabel]
  · simp only [hjump, Bool.false_eq_true, if_false, ← temporaryOf?_eq_some_iff]
    cases temporaryOf? first with
    | none => simp
    | some n =>
      dsimp only
      split
      · rename_i hlt
        simp [UInt64.not_le.mpr hlt]
      · rename_i hle
        rw [checkReads_bind_eq_ok_iff]
        simp [UInt64.not_lt.mp hle, temporaryOf?_eq_some_iff]

/-- A line passes if and only if it may stand at its place. -/
theorem checkLine_eq_ok_iff {w w' : Written} {line : Bytes} :
    checkLine w line = .ok w' ↔ w.Admits line ∧ w' = w.behind line := by
  cases hlabel : isLabelLine line with
  | true =>
    have hnone := instructionOf?_of_isLabelLine hlabel
    have hdestination : destination? line = none := by rw [destination?, hnone]
    have hread : operandsRead line = [] := by rw [operandsRead, hnone]
    have hadmits : w.Admits line := ⟨.inl hlabel, by simp [hread], by simp [hdestination]⟩
    rw [checkLine, hlabel, if_pos rfl, Written.behind, hdestination, Except.ok.injEq]
    exact ⟨fun h => ⟨hadmits, h.symm⟩, fun h => h.2.symm⟩
  | false =>
    cases h : instructionOf? line with
    | none =>
      obtain ⟨f, hf⟩ := checkLine_of_none w hlabel h
      rw [hf]
      refine ⟨fun hok => (by cases hok), ?_⟩
      rintro ⟨⟨hcode, -, -⟩, -⟩
      rcases hcode with hcode | ⟨o, first, operands, hinstruction, -⟩
      · rw [hlabel] at hcode
        cases hcode
      · rw [h] at hinstruction
        cases hinstruction
    | some i =>
      obtain ⟨o, first, operands⟩ := i
      obtain ⟨opcode, ho, heq⟩ := checkLine_of_some w hlabel h
      rw [heq]
      exact checkInstruction_eq_ok_iff ho h

/-! ### The check of many lines -/

/-- Whatever lines read was written in front of them, or by one of them that stands in front. -/
def ReadsEarlier (defined : List UInt64) (lines : List Bytes) : Prop :=
  ∀ front line back, lines = front ++ line :: back → ∀ operand ∈ operandsRead line, ∀ n,
    SpellsTemporary operand n → n ∈ defined ∨ n ∈ destinations front

theorem destinations_cons (line : Bytes) (lines : List Bytes) :
    destinations (line :: lines) = (destination? line).toList ++ destinations lines := by
  rw [destinations, destinations, List.filterMap_cons]
  cases destination? line <;> rfl

theorem readsEarlier_cons {defined : List UInt64} {line : Bytes} {lines : List Bytes} :
    ReadsEarlier defined (line :: lines) ↔
      (∀ operand ∈ operandsRead line, ∀ n, SpellsTemporary operand n → n ∈ defined) ∧
        ReadsEarlier ((destination? line).toList ++ defined) lines := by
  constructor
  · intro h
    refine ⟨fun operand hoperand n hn => ?_, fun front l back hlines operand hoperand n hn => ?_⟩
    · exact (h [] line lines rfl operand hoperand n hn).resolve_right List.not_mem_nil
    · have hread := h (line :: front) l back (by rw [hlines]; rfl) operand hoperand n hn
      rw [destinations_cons, List.mem_append] at hread
      rw [List.mem_append]
      exact or_assoc.mpr (or_left_comm.mp hread)
  · rintro ⟨hfirst, hrest⟩ front l back hlines operand hoperand n hn
    rcases List.cons_eq_append_iff.mp hlines with ⟨rfl, heq⟩ | ⟨front, rfl, heq⟩
    · obtain ⟨rfl, -⟩ := List.cons.inj heq
      exact .inl (hfirst operand hoperand n hn)
    · have hread := hrest front l back heq operand hoperand n hn
      rw [List.mem_append] at hread
      rw [destinations_cons, List.mem_append]
      exact or_left_comm.mpr (or_assoc.mp hread)

/-- Lines pass from some point on if and only if they are labels and instructions, the first number
that they write is not below the next one, every other number is not below the one behind its
predecessor, and nothing is read too early. -/
theorem exists_checkLinesFrom_iff {w : Written} {number : Nat} {lines : List Bytes} :
    (∃ w', checkLinesFrom w number lines = .ok w') ↔
      (∀ line ∈ lines, IsCodeLine line) ∧
        ((∀ n ∈ (destinations lines).head?, w.next ≤ n) ∧
          (destinations lines).IsChain fun m n => m + 1 ≤ n) ∧
        ReadsEarlier w.defined lines := by
  induction lines generalizing w number with
  | nil => simp [checkLinesFrom, destinations, ReadsEarlier]
  | cons line lines ih =>
    have hstep : (∃ w', checkLinesFrom w number (line :: lines) = .ok w') ↔
        w.Admits line ∧ ∃ w', checkLinesFrom (w.behind line) (number + 1) lines = .ok w' := by
      rw [checkLinesFrom]
      cases hline : checkLine w line with
      | ok u =>
        obtain ⟨hadmits, rfl⟩ := checkLine_eq_ok_iff.mp hline
        simp [hadmits]
      | error f =>
        have hnot : ¬w.Admits line := fun hadmits => by
          rw [checkLine_eq_ok_iff.mpr ⟨hadmits, rfl⟩] at hline
          cases hline
        simp [hnot]
    -- the destination of the line is the first number, or the line writes none
    have hnumbers : ((∀ n ∈ destination? line, w.next ≤ n) ∧
        (∀ n ∈ (destinations lines).head?, (w.behind line).next ≤ n) ∧
          (destinations lines).IsChain fun m n => m + 1 ≤ n) ↔
        (∀ n ∈ (destinations (line :: lines)).head?, w.next ≤ n) ∧
          (destinations (line :: lines)).IsChain fun m n => m + 1 ≤ n := by
      rw [destinations_cons, Written.behind]
      cases destination? line with
      | none => simp
      | some m => simp [List.isChain_cons]
    have hdefined : (w.behind line).defined = (destination? line).toList ++ w.defined := by
      rw [Written.behind]
      cases destination? line <;> rfl
    have hadmits : w.Admits line ↔ IsCodeLine line ∧ (∀ n ∈ destination? line, w.next ≤ n) ∧
        ∀ operand ∈ operandsRead line, ∀ n, SpellsTemporary operand n → n ∈ w.defined :=
      ⟨fun h => ⟨h.code, h.next, h.defined⟩, fun h => ⟨h.1, h.2.2, h.2.1⟩⟩
    rw [hstep, ih, hadmits, ← hnumbers, readsEarlier_cons, hdefined, List.forall_mem_cons]
    constructor
    · rintro ⟨⟨hline, hnext, hread⟩, hlines, hrest, hreads⟩
      exact ⟨⟨hline, hlines⟩, ⟨hnext, hrest⟩, hread, hreads⟩
    · rintro ⟨⟨hline, hlines⟩, ⟨hnext, hrest⟩, hread, hreads⟩
      exact ⟨⟨hline, hnext, hread⟩, hlines, hrest, hreads⟩

/-- The largest number of a temporary. -/
def largestNumber : UInt64 := 0xFFFFFFFFFFFFFFFF

/-- A number is not below the one behind another if and only if it is above that one, or that one is
the largest. -/
theorem add_one_le_iff {m n : UInt64} : m + 1 ≤ n ↔ m < n ∨ m = largestNumber := by
  by_cases hm : m = largestNumber
  · have hzero : largestNumber + 1 = 0 := by decide
    simp [hm, hzero]
  · have hlt : m.toNat + 1 < UInt64.size := by
      have := m.toNat_lt
      have hne : m.toNat ≠ largestNumber.toNat := mt UInt64.toNat_inj.mp hm
      have hlargest : largestNumber.toNat = 2 ^ 64 - 1 := by decide
      show m.toNat + 1 < 2 ^ 64
      omega
    have hsucc : (m + 1).toNat = m.toNat + 1 := by
      rw [UInt64.toNat_add]
      exact Nat.mod_eq_of_lt hlt
    rw [UInt64.le_iff_toNat_le, UInt64.lt_iff_toNat_lt, hsucc, Nat.succ_le_iff, or_iff_left hm]

/-- Lines that are labels and instructions, write temporaries in ascending order of their numbers,
and read no temporary that is not written by a line in front. Behind the largest number the order
starts anew. -/
structure Orderly (lines : List Bytes) : Prop where
  /-- Every line is a label or an instruction. -/
  code : ∀ line ∈ lines, IsCodeLine line
  /-- Every number that is written is above the one written before, unless that is the largest. -/
  ascending : (destinations lines).IsChain fun m n => m < n ∨ m = largestNumber
  /-- Every temporary that is read is written by an earlier line. -/
  defined : ∀ front line back, lines = front ++ line :: back → ∀ operand ∈ operandsRead line,
    ∀ n, SpellsTemporary operand n → n ∈ destinations front

/-- As long as the largest number comes last, the numbers that are written strictly increase. -/
theorem Orderly.pairwise {lines : List Bytes} (h : Orderly lines)
    (hlargest : largestNumber ∉ (destinations lines).dropLast) :
    (destinations lines).Pairwise (· < ·) := by
  have hchain : ∀ ns : List UInt64, largestNumber ∉ ns.dropLast →
      (ns.IsChain fun m n => m < n ∨ m = largestNumber) → ns.IsChain (· < ·) := by
    intro ns
    induction ns with
    | nil => exact fun _ _ => .nil
    | cons m ns ih =>
      intro hlargest hns
      cases ns with
      | nil => exact .singleton m
      | cons n ns =>
        rw [List.isChain_cons_cons] at hns ⊢
        rw [List.dropLast_cons_cons, List.mem_cons, not_or] at hlargest
        exact ⟨hns.1.resolve_right fun hm => hlargest.1 hm.symm, ih hlargest.2 hns.2⟩
  exact (hchain _ hlargest h.ascending).pairwise

/-- Lines pass the check if and only if they are orderly. So the numbers of the temporaries that
they write strictly increase as long as the largest number comes last, and every temporary that is
read is written by an earlier line. -/
theorem exists_checkLines_iff_orderly (lines : List Bytes) :
    ((∃ w, checkLines lines = .ok w) ↔ Orderly lines) ∧
      (Orderly lines → largestNumber ∉ (destinations lines).dropLast →
        (destinations lines).Pairwise (· < ·)) := by
  refine ⟨?_, Orderly.pairwise⟩
  have hnext (n : UInt64) : ({} : Written).next ≤ n := UInt64.le_iff_toNat_le.mpr (Nat.zero_le _)
  rw [checkLines, exists_checkLinesFrom_iff]
  constructor
  · rintro ⟨hcode, ⟨-, hchain⟩, hread⟩
    exact ⟨hcode, hchain.imp fun _ _ => add_one_le_iff.mp,
      fun front line back hlines operand hoperand n hn =>
        (hread front line back hlines operand hoperand n hn).resolve_left List.not_mem_nil⟩
  · rintro ⟨hcode, hchain, hread⟩
    exact ⟨hcode, ⟨fun n _ => hnext n, hchain.imp fun _ _ => add_one_le_iff.mpr⟩,
      fun front line back hlines operand hoperand n hn =>
        .inr (hread front line back hlines operand hoperand n hn)⟩

/-- Lines that pass. Numbers are left out, and temporaries are read by an instruction and a jump. -/
def orderedLines : List Bytes :=
  [utf8 "\tadd __t0 a b", utf8 "L1:", utf8 "\tmul __t2 __t0 __t0", utf8 "\tjmpf L1 __t2",
    utf8 "\tinv __t7 __t0"]

theorem orderly_orderedLines :
    (∃ w, checkLines orderedLines = .ok w) ∧ Orderly orderedLines ∧
      destinations orderedLines = [0, 2, 7] ∧
        (destinations orderedLines).Pairwise (· < ·) := by
  obtain ⟨hpass, hascending⟩ := exists_checkLines_iff_orderly orderedLines
  have haccepted : ∃ w, checkLines orderedLines = .ok w := ⟨⟨[7, 2, 0], 8⟩, by decide +kernel⟩
  have horderly : Orderly orderedLines := hpass.mp haccepted
  have hnumbers : destinations orderedLines = [0, 2, 7] := by decide +kernel
  exact ⟨haccepted, horderly, hnumbers, hascending horderly (by rw [hnumbers]; decide)⟩

/-- Two instructions that pass: the first one writes the temporary with the largest number. -/
def wrappedLines : List Bytes :=
  [utf8 "\tadd __t18446744073709551615 a b", utf8 "\tadd __t0 a b"]

/-- The numbers written by lines that pass need not increase. -/
theorem not_pairwise_wrappedLines :
    (∃ w, checkLines wrappedLines = .ok w) ∧ ¬(destinations wrappedLines).Pairwise (· < ·) := by
  have hnumbers : destinations wrappedLines = [largestNumber, 0] := by decide +kernel
  refine ⟨⟨⟨[0, largestNumber], 1⟩, by decide +kernel⟩, ?_⟩
  rw [hnumbers]
  decide

end ThreeAddress
