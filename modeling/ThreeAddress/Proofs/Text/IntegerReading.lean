import ThreeAddress.Proofs.Lexer.IntegerText
import ThreeAddress.Text.Integer

/-!
# Reading integer literals

An integer literal reads as the number that it writes, with one exception: reading takes a leading
zero for the marker of base 8, also in front of an underscore, where lexing takes the literal for a
decimal one.

## Main definitions

* `Integer.readValue?` : the number that an integer literal reads as, if it reads at all.

## Main results

* `Integer.readNat_of_isIntegerText` : reading succeeds up to the bound, with that number.
* `Integer.readInt64_of_isIntegerText` : the same with 64 bits and a sign.
* `Integer.readValue?_eq` : the number is the one that the literal writes.
-/

namespace ThreeAddress.Integer

open Lexer

/-! ### Digits -/

theorem digitValue?_of_isHexDigit (b : UInt8) :
    isHexDigit b = true → digitValue? b = some (digitOf b) :=
  forall_byte (p := fun b => isHexDigit b = true → digitValue? b = some (digitOf b))
    (by decide +kernel) b

theorem baseOfMarker?_of_markedBase? (b : UInt8) (base : Nat) :
    markedBase? b = some base → baseOfMarker? b = some base :=
  forall_byte (p := fun b => ∀ base, markedBase? b = some base → baseOfMarker? b = some base)
    (fun n base h => by
      have hsame : ∀ n : Fin 256, markedBase? (UInt8.ofNat n) = none ∨
          baseOfMarker? (UInt8.ofNat n) = markedBase? (UInt8.ofNat n) := by decide +kernel
      rcases hsame n with hnone | hsame
      · rw [hnone] at h
        cases h
      · rw [hsame, h]) b base

theorem isHexDigit_of_isDigitIn {base : Nat} {b : UInt8} (h : isDigitIn base b = true) :
    isHexDigit b = true := by
  rw [isDigitIn, Bool.and_eq_true] at h
  exact h.1

theorem digitOf_lt {base : Nat} {b : UInt8} (h : isDigitIn base b = true) : digitOf b < base := by
  rw [isDigitIn, Bool.and_eq_true] at h
  exact of_decide_eq_true h.2

/-- Digits of the base are read up to the bound. -/
theorem readDigits_of_digits {base bound acc : Nat} {run : Bytes}
    (hrun : ∀ b ∈ run, isDigitIn base b = true ∨ b = '_'.toUInt8) (hacc : acc ≤ bound) :
    (readDigits base bound true acc run).toOption =
      (some (acc * base ^ (digitValues run).length + valueIn base run)).filter (· ≤ bound) := by
  induction run generalizing acc with
  | nil =>
    rw [Option.filter_some, if_pos (by simpa using hacc)]
    simp [readDigits, Except.toOption]
  | cons b run ih =>
    obtain ⟨hb, hrest⟩ := List.forall_mem_cons.mp hrun
    rcases hb with hb | rfl
    · have hvalue := digitValue?_of_isHexDigit b (isHexDigit_of_isDigitIn hb)
      have hlt := digitOf_lt hb
      -- the digit joins what was read, and both count by the digits behind
      have htotal : acc * base ^ (digitValues (b :: run)).length + valueIn base (b :: run) =
          (acc * base + digitOf b) * base ^ (digitValues run).length + valueIn base run := by
        rw [valueIn_cons hb, digitValues_digit hb, List.length_cons, Nat.pow_succ]
        ring
      rw [htotal, readDigits, ne_underscore_of_isDigitIn hb, Bool.and_false, hvalue]
      simp only [Bool.false_eq_true, if_false, Nat.not_le.mpr hlt]
      split
      · rename_i hbound
        have hpos : 0 < base ^ (digitValues run).length :=
          Nat.pow_pos (Nat.lt_of_le_of_lt (Nat.zero_le _) hlt)
        have hle := Nat.le_mul_of_pos_right (acc * base + digitOf b) hpos
        rw [Option.filter_some, if_neg (by simpa using by omega)]
        rfl
      · exact ih hrest (by omega)
    · rw [digitValues_underscore, valueIn_underscore]
      exact ih hrest hacc

/-- A digit beyond the base spoils a number. -/
theorem readDigits_of_bad {base bound acc : Nat} {run : Bytes} {b : UInt8} (hmem : b ∈ run)
    (hhex : isHexDigit b = true) (hbad : isDigitIn base b = false) :
    (readDigits base bound true acc run).toOption = none := by
  induction run generalizing acc with
  | nil => cases hmem
  | cons c run ih =>
    rw [readDigits]
    rcases List.mem_cons.mp hmem with rfl | hmem
    · have hle : base ≤ digitOf b := by
        simpa [isDigitIn, hhex] using hbad
      have hne := ne_underscore_of_isDigitIn (isDigitIn_sixteen ▸ hhex)
      simp [hne, digitValue?_of_isHexDigit b hhex, hle, Except.toOption]
    · split
      · exact ih hmem
      · split
        · rfl
        · split
          · rfl
          · split
            · rfl
            · exact ih hmem

/-! ### Underscores -/

/-- Single underscores between digits are well placed. -/
theorem underscoresFit_of_isSeparated {hexadecimal : Bool} {run : Bytes} {before : Before}
    (hdigits : ∀ b ∈ run, isDigitIn (if hexadecimal then 16 else 10) b = true ∨ b = '_'.toUInt8)
    (hseparated : isSeparated run = true) (hlast : run = [] → before ≠ .underscore)
    (hfirst : run.head? = some '_'.toUInt8 → before = .digit) :
    underscoresFit hexadecimal before run = true := by
  induction run generalizing before with
  | nil => simpa [underscoresFit] using hlast rfl
  | cons b run ih =>
    obtain ⟨hb, hrest⟩ := List.forall_mem_cons.mp hdigits
    have hseparated' : isSeparated run = true := by
      cases run with
      | nil => rfl
      | cons c run =>
        rw [isSeparated, Bool.and_eq_true] at hseparated
        exact hseparated.2
    rcases hb with hb | rfl
    · have hdigit :
          (decide (digitOf b < 10) || (hexadecimal && decide (digitOf b < 16))) = true := by
        have hlt := digitOf_lt hb
        cases hexadecimal
        · simpa using hlt
        · have hlt : digitOf b < 16 := hlt
          simp [hlt]
      rw [underscoresFit, digitValue?_of_isHexDigit b (isHexDigit_of_isDigitIn hb)]
      simp only [hdigit, if_true]
      exact ih hrest hseparated' (fun _ => by simp) (fun _ => rfl)
    · have hnone : digitValue? '_'.toUInt8 = none := by decide +kernel
      rw [underscoresFit, hnone]
      simp only [Bool.false_eq_true, if_false, beq_self_eq_true, if_true, Bool.and_eq_true,
        beq_iff_eq]
      refine ⟨hfirst rfl, ih hrest hseparated' ?_ ?_⟩
      · -- an underscore is not the last byte
        rintro rfl
        exact absurd hseparated (by decide)
      · -- nor does another one follow
        intro hhead
        cases run with
        | nil => cases hhead
        | cons c run =>
          obtain rfl : c = '_'.toUInt8 := Option.some.inj hhead
          simp [isSeparated] at hseparated

theorem underscoresFit_of_isDigitRun {base : Nat} {hexadecimal : Bool} {run : Bytes}
    (h : IsDigitRun base run) (hbase : base ≤ if hexadecimal then 16 else 10) (before : Before) :
    underscoresFit hexadecimal before run = true := by
  refine underscoresFit_of_isSeparated (fun b hb => ?_) h.separated
    (fun hnil => absurd hnil h.ne_nil) (fun hhead => ?_)
  · refine (h.digits b hb).imp_left fun hdigit => ?_
    rw [isDigitIn, Bool.and_eq_true]
    exact ⟨isHexDigit_of_isDigitIn hdigit,
      decide_eq_true (Nat.lt_of_lt_of_le (digitOf_lt hdigit) hbase)⟩
  · have hfirst := h.head
    rw [hhead] at hfirst
    have := ne_underscore_of_isDigitIn (show isDigitIn base '_'.toUInt8 = true from hfirst)
    simp at this

/-! ### Literals -/

/-- An integer literal has no sign. -/
theorem unsigned_of_isDigit {b : UInt8} (h : isDigit b = true) (rest : Bytes) :
    unsigned (b :: rest) = b :: rest := by
  have hsign : (b == '+'.toUInt8 || b == '-'.toUInt8) = false := by
    rw [Bool.or_eq_false_iff, beq_eq_false_iff_ne, beq_eq_false_iff_ne]
    constructor <;> rintro rfl <;> exact absurd h (by decide)
  rw [unsigned, hsign]
  rfl

theorem exists_of_isIntegerText {text : Bytes} (h : IsIntegerText text) :
    ∃ b rest, text = b :: rest ∧ isDigit b = true := by
  cases h with
  | marked hmarker hrun => exact ⟨_, _, rfl, by decide⟩
  | decimal hrun hzero =>
    cases text with
    | nil => exact absurd rfl hrun.ne_nil
    | cons b rest =>
      refine ⟨b, rest, rfl, ?_⟩
      rw [← isDigitIn_ten]
      exact hrun.head

/-- The underscores of an integer literal are well placed. -/
theorem underscoresOk_of_isIntegerText {text : Bytes} (h : IsIntegerText text) :
    underscoresOk text = true := by
  obtain ⟨b, rest, heq, hdigit⟩ := exists_of_isIntegerText h
  have hunsigned : unsigned text = text := by rw [heq, unsigned_of_isDigit hdigit]
  rw [underscoresOk, hunsigned]
  cases h with
  | @marked base marker run hmarker hrun =>
    have hbase : base ≤ if base == 16 then 16 else 10 := by
      unfold markedBase? at hmarker
      split at hmarker
      · cases hmarker; decide
      · split at hmarker
        · cases hmarker; decide
        · split at hmarker
          · cases hmarker; decide
          · cases hmarker
    simp only [beq_self_eq_true, if_true, baseOfMarker?_of_markedBase? _ _ hmarker]
    exact underscoresFit_of_isDigitRun hrun hbase _
  | decimal hrun hzero =>
    have hfit : underscoresFit false .start text = true :=
      underscoresFit_of_isDigitRun hrun (by decide) _
    split
    · rename_i z marker run
      have hnone : (if z == '0'.toUInt8 then baseOfMarker? marker else none) = none := by
        split
        · rename_i hz
          rw [hzero marker run (by rw [eq_of_beq hz])]
          decide
        · rfl
      rw [hnone]
      exact hfit
    · exact hfit

/-- The number that an integer literal reads as: the one that it writes, but in base 8 if an
underscore follows a leading zero. -/
def readValue? (text : Bytes) : Option Nat :=
  match text with
  | z :: u :: run =>
    if z == '0'.toUInt8 && u == '_'.toUInt8 then
      if run.all fun b => isOctalDigit b || b == '_'.toUInt8 then some (valueIn 8 run) else none
    else some (literalValue text)
  | _ => some (literalValue text)

/-- A literal that does not start with `0_` reads as the number that it writes. -/
theorem readValue?_eq {text : Bytes} (h : ¬utf8 "0_" <+: text) :
    readValue? text = some (literalValue text) := by
  unfold readValue?
  split
  · rename_i z u run
    refine if_neg fun hzero => h ?_
    rw [Bool.and_eq_true, beq_iff_eq, beq_iff_eq] at hzero
    obtain ⟨rfl, rfl⟩ := hzero
    exact ⟨run, rfl⟩
  · rfl

/-- Decimal digits behind an underscore are read in base 8 if they are octal. -/
theorem readDigits_octal {run : Bytes} (bound : Nat)
    (h : ∀ b ∈ run, isDigit b = true ∨ b = '_'.toUInt8) :
    (readDigits 8 bound true 0 ('_'.toUInt8 :: run)).toOption =
      (if run.all fun b => isOctalDigit b || b == '_'.toUInt8 then some (valueIn 8 run)
        else none).filter (· ≤ bound) := by
  split
  · rename_i hall
    have hoctal : ∀ b ∈ run, isDigitIn 8 b = true ∨ b = '_'.toUInt8 := by
      intro b hb
      rw [isDigitIn_eight]
      simpa using List.all_eq_true.mp hall b hb
    have := readDigits_of_digits (List.forall_mem_cons.mpr ⟨.inr rfl, hoctal⟩) (Nat.zero_le bound)
    rwa [Nat.zero_mul, Nat.zero_add, valueIn_underscore] at this
  · rename_i hall
    rw [Bool.not_eq_true, List.all_eq_false] at hall
    obtain ⟨b, hb, hbad⟩ := hall
    rw [Bool.or_eq_true, not_or, beq_iff_eq] at hbad
    have hdigit := (h b hb).resolve_right hbad.2
    refine readDigits_of_bad (List.mem_cons_of_mem _ hb) ?_ ?_
    · rw [isHexDigit, hdigit]
      rfl
    · rw [isDigitIn_eight]
      exact Bool.eq_false_iff.mpr hbad.1

/-- The digits of an integer literal, in the base that reading takes, give its number. -/
theorem readDigits_announcedBase {text : Bytes} (h : IsIntegerText text) (bound : Nat) :
    (readDigits (announcedBase text).1 bound true 0 (announcedBase text).2).toOption =
      (readValue? text).filter (· ≤ bound) := by
  have hrun {base : Nat} {run : Bytes} (hrun : IsDigitRun base run) :
      (readDigits base bound true 0 run).toOption =
        (some (valueIn base run)).filter (· ≤ bound) := by
    have := readDigits_of_digits hrun.digits (Nat.zero_le bound)
    rwa [Nat.zero_mul, Nat.zero_add] at this
  cases h with
  | @marked base marker run hmarker hdigits =>
    obtain ⟨d, more, rfl⟩ := List.exists_cons_of_ne_nil hdigits.ne_nil
    have hbase : announcedBase ('0'.toUInt8 :: marker :: d :: more) = (base, d :: more) := by
      simp [announcedBase, baseOfMarker?_of_markedBase? _ _ hmarker]
    have hmark : (marker == '_'.toUInt8) = false := by
      rw [beq_eq_false_iff_ne]
      rintro rfl
      have hnone : markedBase? '_'.toUInt8 = none := by decide
      rw [hnone] at hmarker
      cases hmarker
    have hvalue : readValue? ('0'.toUInt8 :: marker :: d :: more) =
        some (valueIn base (d :: more)) := by
      rw [readValue?, hmark, Bool.and_false, literalValue_marked hmarker]
      rfl
    rw [hbase, hvalue]
    exact hrun hdigits
  | decimal hdigits hzero =>
    have hvalue := literalValue_decimal hzero
    obtain ⟨z, rest, rfl⟩ := List.exists_cons_of_ne_nil hdigits.ne_nil
    by_cases hz : z = '0'.toUInt8
    · subst hz
      cases rest with
      | nil =>
        have hread : readValue? ['0'.toUInt8] = some 0 := by decide +kernel
        rw [hread, Option.filter_some, if_pos (by simp)]
        rfl
      | cons u more =>
        obtain rfl := hzero u more rfl
        obtain ⟨c, more, rfl⟩ : ∃ c rest, more = c :: rest := by
          refine List.exists_cons_of_ne_nil ?_
          rintro rfl
          exact absurd hdigits.separated (by decide)
        have hnone : baseOfMarker? '_'.toUInt8 = none := by decide
        have hbase : announcedBase ('0'.toUInt8 :: '_'.toUInt8 :: c :: more) =
            (8, '_'.toUInt8 :: c :: more) := by
          simp [announcedBase, hnone]
        rw [hbase, readValue?]
        exact readDigits_octal bound fun b hb =>
          isDigitIn_ten ▸ hdigits.digits b (List.mem_cons_of_mem _ (List.mem_cons_of_mem _ hb))
    · have hzero' : (z == '0'.toUInt8) = false := beq_eq_false_iff_ne.mpr hz
      have hbase : announcedBase (z :: rest) = (10, z :: rest) := by
        simp [announcedBase, hzero']
      have hread : readValue? (z :: rest) = some (literalValue (z :: rest)) := by
        unfold readValue?
        split
        · rename_i heq
          obtain ⟨rfl, -⟩ := List.cons.inj heq
          rw [hzero']
          rfl
        · rfl
      rw [hbase, hread, hvalue]
      exact hrun hdigits

/-- An integer literal reads as a number up to the bound. -/
theorem readNat_of_isIntegerText {text : Bytes} (h : IsIntegerText text) (bound : Nat) :
    (readNat .announced bound text).toOption = (readValue? text).filter (· ≤ bound) := by
  obtain ⟨b, rest, rfl, -⟩ := exists_of_isIntegerText h
  rw [← readDigits_announcedBase h, readNat, if_neg (List.cons_ne_nil b rest)]
  simp only [underscoresOk_of_isIntegerText h, Bool.not_true, Bool.and_false, Bool.false_eq_true,
    if_false]
  cases readDigits (announcedBase (b :: rest)).1 bound true 0 (announcedBase (b :: rest)).2 <;> rfl

/-- An integer literal reads as a number of 64 bits below the one that starts with the sign. -/
theorem readInt64_of_isIntegerText {text : Bytes} (h : IsIntegerText text) :
    (readInt64 .announced text).toOption =
      ((readValue? text).filter (· < signBit)).map Int.ofNat := by
  obtain ⟨b, rest, rfl, hdigit⟩ := exists_of_isIntegerText h
  have hsign : (b == '-'.toUInt8) = false := by
    rw [beq_eq_false_iff_ne]
    rintro rfl
    exact absurd hdigit (by decide)
  have hnat := readNat_of_isIntegerText h (UInt64.size - 1)
  rw [readInt64, hsign, unsigned_of_isDigit hdigit]
  cases hread : readNat .announced (UInt64.size - 1) (b :: rest) with
  | error e =>
    rw [hread] at hnat
    -- what does not fit without a sign does not fit with one
    cases hvalue : readValue? (b :: rest) with
    | none => rfl
    | some v =>
      rw [hvalue, Option.filter_some] at hnat
      split at hnat
      · cases hnat
      · rename_i hlarge
        have hlarge : ¬v < signBit := by
          intro hlt
          simp [signBit, UInt64.size] at hlarge hlt
          omega
        rw [Option.filter_some, if_neg (by simpa using hlarge)]
        rfl
  | ok n =>
    rw [hread] at hnat
    obtain ⟨hvalue, -⟩ := Option.filter_eq_some_iff.mp hnat.symm
    rw [hvalue, Option.filter_some]
    by_cases hlt : n < signBit
    · rw [if_pos (by simpa using hlt)]
      simp [bind, Except.bind, Nat.not_le.mpr hlt, pure, Except.pure, Except.toOption]
    · rw [if_neg (by simpa using hlt)]
      simp [bind, Except.bind, Nat.le_of_not_lt hlt, throw, throwThe, MonadExceptOf.throw,
        Except.toOption]

end ThreeAddress.Integer
