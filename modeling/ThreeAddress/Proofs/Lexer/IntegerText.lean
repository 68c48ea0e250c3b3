import Mathlib.Data.Nat.Digits.Defs
import ThreeAddress.Proofs.Lexer.Rescanning

/-!
# The text of integer literals

An integer literal is a run of digits, behind a base marker or in decimal; single underscores may
stand between its digits. No second digit follows a leading zero of a decimal literal, but an
underscore may. The number that a literal writes is that of its digits, the underscores removed.

## Main definitions

* `Lexer.IsDigitRun` : digits of a base with single underscores between them.
* `Lexer.IsIntegerText` : the text of an integer literal.
* `Lexer.literalValue` : the number that an integer literal writes.

## Main results

* `Lexer.isIntegerText_of_scan?` : a scanned integer has the text of an integer literal.
* `Lexer.valueIn_cons` : the first digit counts by the number of digits behind it.
-/

namespace ThreeAddress.Lexer

/-! ### Digits -/

/-- The value of a hexadecimal digit of either case. -/
def digitOf (b : UInt8) : Nat :=
  if isDigit b then b.toNat - '0'.toNat
  else if b ≤ 'F'.toUInt8 then 10 + (b.toNat - 'A'.toNat)
  else 10 + (b.toNat - 'a'.toNat)

/-- Tests for a digit of a base of at most 16. -/
def isDigitIn (base : Nat) (b : UInt8) : Bool :=
  isHexDigit b && decide (digitOf b < base)

/-- The base that a marker announces. -/
def markedBase? (b : UInt8) : Option Nat :=
  if b == 'x'.toUInt8 || b == 'X'.toUInt8 then some 16
  else if b == 'b'.toUInt8 || b == 'B'.toUInt8 then some 2
  else if b == 'o'.toUInt8 || b == 'O'.toUInt8 then some 8
  else none

/-- What holds of all numbers of a byte holds of all bytes. -/
theorem forall_byte {p : UInt8 → Prop} (h : ∀ n : Fin 256, p (UInt8.ofNat n)) (b : UInt8) :
    p b := by
  have := h ⟨b.toNat, b.toNat_lt⟩
  rwa [UInt8.ofNat_toNat] at this

theorem isDigitIn_sixteen : isDigitIn 16 = isHexDigit := by
  funext b
  exact forall_byte (p := fun b => isDigitIn 16 b = isHexDigit b) (by decide +kernel) b

theorem isDigitIn_ten : isDigitIn 10 = isDigit := by
  funext b
  exact forall_byte (p := fun b => isDigitIn 10 b = isDigit b) (by decide +kernel) b

theorem isDigitIn_eight : isDigitIn 8 = isOctalDigit := by
  funext b
  exact forall_byte (p := fun b => isDigitIn 8 b = isOctalDigit b) (by decide +kernel) b

theorem isDigitIn_two : isDigitIn 2 = isBinaryDigit := by
  funext b
  exact forall_byte (p := fun b => isDigitIn 2 b = isBinaryDigit b) (by decide +kernel) b

/-- A marker announces the digits of its base. -/
theorem baseDigits?_eq (b : UInt8) : baseDigits? b = (markedBase? b).map isDigitIn := by
  unfold baseDigits? markedBase?
  split
  · rw [Option.map_some, isDigitIn_sixteen]
  · split
    · rw [Option.map_some, isDigitIn_two]
    · split
      · rw [Option.map_some, isDigitIn_eight]
      · rfl

theorem ne_underscore_of_isDigitIn {base : Nat} {b : UInt8} (h : isDigitIn base b = true) :
    (b == '_'.toUInt8) = false := by
  rw [beq_eq_false_iff_ne]
  rintro rfl
  rw [isDigitIn, Bool.and_eq_true] at h
  exact absurd h.1 (by decide)

/-! ### Texts -/

/-- Digits of a base with single underscores between them. -/
structure IsDigitRun (base : Nat) (run : Bytes) : Prop where
  /-- It starts with a digit. -/
  head : run.head?.any (isDigitIn base) = true
  /-- It consists of digits and underscores. -/
  digits : ∀ b ∈ run, isDigitIn base b = true ∨ b = '_'.toUInt8
  /-- Every underscore stands between digits. -/
  separated : isSeparated run = true

/-- The text of an integer literal. -/
inductive IsIntegerText : Bytes → Prop
  /-- Digits behind the marker of their base. -/
  | marked {base : Nat} {marker : UInt8} {run : Bytes} (hmarker : markedBase? marker = some base)
      (hrun : IsDigitRun base run) : IsIntegerText ('0'.toUInt8 :: marker :: run)
  /-- Decimal digits. Behind a leading zero nothing but an underscore follows. -/
  | decimal {run : Bytes} (hrun : IsDigitRun 10 run)
      (hzero : ∀ b rest, run = '0'.toUInt8 :: b :: rest → b = '_'.toUInt8) : IsIntegerText run

theorem IsDigitRun.ne_nil {base : Nat} {run : Bytes} (h : IsDigitRun base run) : run ≠ [] := by
  rintro rfl
  exact absurd h.head (by simp)

/-- The digits at the front are a run, if there are any. -/
theorem isDigitRun_digitRun {base : Nat} {bs : Bytes} (hne : digitRun (isDigitIn base) bs ≠ [])
    (hseparated : isSeparated (digitRun (isDigitIn base) bs) = true) :
    IsDigitRun base (digitRun (isDigitIn base) bs) where
  head := by
    unfold digitRun at hne ⊢
    split at hne
    · rename_i hhead
      rw [if_pos hhead]
      cases bs with
      | nil => cases hhead
      | cons b bs =>
        have hb : isDigitIn base b = true := hhead
        simp [hb]
    · exact absurd rfl hne
  digits := by
    intro b hb
    unfold digitRun at hb
    split at hb
    · have := List.all_eq_true.mp List.all_takeWhile b hb
      simpa using this
    · cases hb
  separated := hseparated

/-- Only an integer without an exponent stays one, and it ends behind its digits. -/
theorem scanExponent_of_integer {kind : TokenKind} {taken : Nat} {rest : Bytes}
    (h : (scanExponent kind taken rest).kind = .integer) :
    kind = .integer ∧ (scanExponent kind taken rest).size = taken := by
  have hfinish {kind : TokenKind} {taken : Nat} {rest : Bytes}
      (h : (finishNumber kind taken rest).kind = .integer) :
      kind = .integer ∧ (finishNumber kind taken rest).size = taken := by
    have heq := finishNumber_eq (show (finishNumber kind taken rest).kind ≠ .invalid by simp [h])
    rw [heq] at h ⊢
    exact ⟨h, rfl⟩
  unfold scanExponent at h ⊢
  split at h
  · split at h
    · -- an exponent makes no integer
      dsimp only at h
      split at h
      · cases h
      · split at h
        · cases (hfinish h).1
        · cases h
    · rename_i he
      rw [if_neg he]
      exact hfinish h
  · exact hfinish h

theorem isIntegerText_of_scanBased {base : Nat} {marker : UInt8} {rest : Bytes}
    (hmarker : markedBase? marker = some base)
    (h : (scanBased (isDigitIn base) rest).kind = .integer) :
    IsIntegerText (('0'.toUInt8 :: marker :: rest).take
      (scanBased (isDigitIn base) rest).size) := by
  unfold scanBased at h ⊢
  dsimp only at h ⊢
  split at h
  · cases h
  · rename_i hrun
    split at h
    · rename_i hseparated
      rw [if_neg hrun, if_pos hseparated, finishNumber_eq (by rw [h]; decide), Nat.add_comm,
        List.take_succ_cons, List.take_succ_cons,
        ← List.prefix_iff_eq_take.mp (front_digitRun _ rest)]
      exact .marked hmarker (isDigitRun_digitRun hrun hseparated)
    · cases h

theorem isIntegerText_of_scanDecimal {bs : Bytes} (hhead : bs.head?.any isDigit = true)
    (hzero : ∀ b rest, bs = '0'.toUInt8 :: b :: rest → isDigit b = false)
    (h : (scanDecimal bs).kind = .integer) : IsIntegerText (bs.take (scanDecimal bs).size) := by
  obtain ⟨hseparated, ⟨d, more, hrest, hdigit, hfraction⟩ | hplain⟩ :=
    scanDecimal_cases (by rw [h]; decide)
  · -- behind a fraction it is a float
    rw [scanDecimal_of_fraction hseparated hrest hdigit hfraction] at h
    cases (scanExponent_of_integer h).1
  · have hfront := front_digitRun isDigit bs
    have hne : digitRun isDigit bs ≠ [] := by
      cases bs with
      | nil => cases hhead
      | cons b bs =>
        have hb : isDigit b = true := hhead
        simp [digitRun, hb]
    rw [scanDecimal_of_plain hseparated hplain] at h ⊢
    rw [(scanExponent_of_integer h).2, ← List.prefix_iff_eq_take.mp hfront]
    rw [← isDigitIn_ten] at hne hseparated hfront ⊢
    have hrun := isDigitRun_digitRun hne hseparated
    refine .decimal hrun fun b rest heq => ?_
    refine (hrun.digits b (by simp [heq])).resolve_left fun hb => ?_
    obtain ⟨more, hmore⟩ := hfront
    rw [heq] at hmore
    rw [isDigitIn_ten, hzero b (rest ++ more) hmore.symm] at hb
    cases hb

/-- A scanned integer has the text of an integer literal. -/
theorem isIntegerText_of_scan? {bs : Bytes} {s : Scan} (h : scan? bs = some s)
    (hkind : s.kind = .integer) : IsIntegerText (bs.take s.size) := by
  rcases scan?_cases h with rfl | ⟨b, rest, rfl, hdigit, rfl⟩ | ⟨body, -, rfl⟩ | ⟨b, k, hk, rfl⟩ |
    hinvalid
  · rcases kind_scanName bs with hname | hname | hname | hname | hname <;> rw [hname] at hkind <;>
      cases hkind
  · rcases scanNumber_cases (by rw [hkind]; decide) with ⟨m, more, digit, heq, hbase⟩ | hplain
    · rw [heq] at hkind ⊢
      rw [baseDigits?_eq, Option.map_eq_some_iff] at hbase
      obtain ⟨base, hmarker, rfl⟩ := hbase
      have hscan : scanNumber ('0'.toUInt8 :: m :: more) = scanBased (isDigitIn base) more := by
        simp [scanNumber, baseDigits?_eq, hmarker]
      rw [hscan] at hkind ⊢
      exact isIntegerText_of_scanBased hmarker hkind
    · rw [scanNumber_eq_scanDecimal hplain] at hkind ⊢
      exact isIntegerText_of_scanDecimal hdigit (fun b rest heq => (hplain b rest heq).2) hkind
  · rcases kind_scanChar body with hchar | hchar <;> rw [hchar] at hkind <;> cases hkind
  · obtain rfl : k = .integer := hkind
    exact absurd (kind_of_ofPunctuation? hk).2.2 (by decide)
  · rw [hinvalid] at hkind
    cases hkind

/-! ### Values -/

/-- The values of the digits among some bytes; underscores are left out. -/
def digitValues (run : Bytes) : List Nat :=
  (run.filter (· != '_'.toUInt8)).map digitOf

/-- The number that digits with underscores between them write in a base. -/
def valueIn (base : Nat) (run : Bytes) : Nat :=
  Nat.ofDigits base (digitValues run).reverse

/-- The number that an integer literal writes: in base 16, 2 or 8 behind a marker, else in base
10. -/
def literalValue (text : Bytes) : Nat :=
  match text with
  | z :: marker :: run =>
    match if z == '0'.toUInt8 then markedBase? marker else none with
    | some base => valueIn base run
    | none => valueIn 10 text
  | _ => valueIn 10 text

@[simp] theorem digitValues_nil : digitValues [] = [] := rfl

theorem digitValues_underscore (run : Bytes) :
    digitValues ('_'.toUInt8 :: run) = digitValues run := rfl

theorem digitValues_digit {base : Nat} {b : UInt8} (h : isDigitIn base b = true) (run : Bytes) :
    digitValues (b :: run) = digitOf b :: digitValues run := by
  have hb : (b != '_'.toUInt8) = true := by
    rw [bne, ne_underscore_of_isDigitIn h]
    rfl
  simp only [digitValues, List.filter_cons, hb, if_true, List.map_cons]

@[simp] theorem valueIn_nil (base : Nat) : valueIn base [] = 0 := rfl

theorem valueIn_underscore (base : Nat) (run : Bytes) :
    valueIn base ('_'.toUInt8 :: run) = valueIn base run := rfl

/-- The first digit counts by the number of digits behind it. -/
theorem valueIn_cons {base : Nat} {b : UInt8} {k : Nat} (h : isDigitIn k b = true) (run : Bytes) :
    valueIn base (b :: run) = digitOf b * base ^ (digitValues run).length + valueIn base run := by
  rw [valueIn, digitValues_digit h, List.reverse_cons, Nat.ofDigits_append, Nat.ofDigits_singleton,
    List.length_reverse, valueIn, Nat.add_comm, Nat.mul_comm]

/-- A marker tells the base of what stands behind it. -/
theorem literalValue_marked {base : Nat} {marker : UInt8} (h : markedBase? marker = some base)
    (run : Bytes) : literalValue ('0'.toUInt8 :: marker :: run) = valueIn base run := by
  simp [literalValue, h]

/-- Without a marker a literal is decimal. -/
theorem literalValue_decimal {run : Bytes}
    (h : ∀ b rest, run = '0'.toUInt8 :: b :: rest → b = '_'.toUInt8) :
    literalValue run = valueIn 10 run := by
  unfold literalValue
  split
  · rename_i z marker rest
    have hnone : (if z == '0'.toUInt8 then markedBase? marker else none) = none := by
      split
      · rename_i hz
        rw [h marker rest (by rw [eq_of_beq hz])]
        decide
      · rfl
    rw [hnone]
  · rfl

example : literalValue (utf8 "0xFF_ff") = 65535 := by decide +kernel

end ThreeAddress.Lexer
