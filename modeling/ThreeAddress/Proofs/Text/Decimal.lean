import ThreeAddress.Code.Check
import ThreeAddress.Expr.Basic
import ThreeAddress.Lexer.Character
import ThreeAddress.Proofs.Text.Fields

/-!
# Reading written numbers

A number written in decimal reads back as itself, so the name of a temporary tells its number.

## Main results

* `Integer.readNat_decimal` : a written number reads back.
* `Integer.readNat_announced_decimal` : so it does where it may announce a base.
* `temporaryOf?_temporaryName` : the name of a temporary tells its number.
* `spaceless_temporaryName` : the name of a temporary is a single field.
-/

namespace ThreeAddress

/-- The byte of a decimal digit. -/
theorem toNat_toUInt8_of_isDigit {c : Char} (h : c.isDigit = true) :
    c.toUInt8.toNat = c.toNat ∧ 48 ≤ c.toNat ∧ c.toNat ≤ 57 := by
  have hc : 48 ≤ c.toNat ∧ c.toNat ≤ 57 := by
    simp only [Char.isDigit, Bool.and_eq_true, decide_eq_true_eq, ge_iff_le,
      UInt32.le_iff_toNat_le] at h
    exact h
  refine ⟨?_, hc⟩
  rw [Char.toUInt8, UInt32.toNat_toUInt8]
  apply Nat.mod_eq_of_lt
  change c.toNat < 256
  omega

/-- A written number consists of digits. -/
theorem decimal_ne_nil (n : Nat) : decimal n ≠ [] := by
  simp [decimal, Nat.toDigits_ne_nil]

theorem mem_decimal {x : UInt8} {n : Nat} (h : x ∈ decimal n) : 48 ≤ x.toNat ∧ x.toNat ≤ 57 := by
  obtain ⟨c, hc, rfl⟩ := List.mem_map.mp h
  have hdigit := Nat.isDigit_of_mem_toDigits (by decide) (by decide) hc
  obtain ⟨hbyte, hlo, hhi⟩ := toNat_toUInt8_of_isDigit hdigit
  rw [hbyte]
  exact ⟨hlo, hhi⟩

theorem Lexer.isDigit_of_mem_decimal {n : Nat} {x : UInt8} (h : x ∈ decimal n) :
    isDigit x = true := by
  obtain ⟨hlo, hhi⟩ := mem_decimal h
  simp only [isDigit, Bool.and_eq_true, decide_eq_true_eq, UInt8.le_iff_toNat_le]
  exact ⟨hlo, hhi⟩

theorem notMem_decimal {x : UInt8} (h : Lexer.isDigit x = false) (n : Nat) : x ∉ decimal n :=
  fun hmem => absurd (Lexer.isDigit_of_mem_decimal hmem) (ne_true_of_eq_false h)

/-- The value of a decimal digit. -/
theorem digitValue?_of_isDigit {c : Char} (h : c.isDigit = true) :
    Integer.digitValue? c.toUInt8 = some (c.toNat - '0'.toNat) := by
  obtain ⟨hbyte, hlo, hhi⟩ := toNat_toUInt8_of_isDigit h
  have hlo' : '0'.toUInt8 ≤ c.toUInt8 := by
    rw [UInt8.le_iff_toNat_le, hbyte]
    exact hlo
  have hhi' : c.toUInt8 ≤ '9'.toUInt8 := by
    rw [UInt8.le_iff_toNat_le, hbyte]
    exact hhi
  rw [Integer.digitValue?, if_pos ⟨hlo', hhi'⟩, hbyte]
  rfl

namespace Integer

/-- Digits are read one after another, as long as the number stays within the bound. -/
theorem readDigits_map_toUInt8 (bound : Nat) (ds : List Char) (acc : Nat)
    (hd : ∀ c ∈ ds, c.isDigit = true) (hb : Nat.ofDigitChars 10 ds acc ≤ bound) :
    readDigits 10 bound false acc (ds.map Char.toUInt8) = .ok (Nat.ofDigitChars 10 ds acc) := by
  induction ds generalizing acc with
  | nil => simp [readDigits]
  | cons c ds ih =>
    have hdigit := hd c List.mem_cons_self
    have hv := digitValue?_of_isDigit hdigit
    have hlt : c.toNat - '0'.toNat < 10 := by
      have hhi := (toNat_toUInt8_of_isDigit hdigit).2.2
      have hzero : '0'.toNat = 48 := rfl
      omega
    rw [Nat.ofDigitChars_cons] at hb ⊢
    have hcomm : acc * 10 + (c.toNat - '0'.toNat) = 10 * acc + (c.toNat - '0'.toNat) := by
      rw [Nat.mul_comm]
    have hle : 10 * acc + (c.toNat - '0'.toNat) ≤ bound := by
      rw [Nat.ofDigitChars_eq_ofDigitChars_zero] at hb
      exact Nat.le_trans (Nat.le_mul_of_pos_left _ (Nat.pow_pos (by decide)))
        (Nat.le_trans (Nat.le_add_right _ _) hb)
    simp only [List.map_cons, readDigits, Bool.false_and, Bool.false_eq_true, if_false, hv, hcomm]
    rw [if_neg (by omega), if_neg (by omega)]
    exact ih _ (fun d hd' => hd d (List.mem_cons_of_mem _ hd')) hb

/-- A number written in decimal reads back. -/
theorem readNat_decimal {bound n : Nat} (h : n ≤ bound) :
    readNat (.fixed 10) bound (decimal n) = .ok n := by
  have hdigits : ∀ c ∈ Nat.toDigits 10 n, c.isDigit = true := fun c hc =>
    Nat.isDigit_of_mem_toDigits (by decide) (by decide) hc
  have hread := readDigits_map_toUInt8 bound (Nat.toDigits 10 n) 0 hdigits
    (by rwa [Nat.ofDigitChars_ten_toDigits])
  rw [Nat.ofDigitChars_ten_toDigits] at hread
  rw [readNat, if_neg (decimal_ne_nil n)]
  exact hread

theorem readDigits_le {base bound acc n : Nat} {underscores : Bool} {ds : Bytes}
    (h : readDigits base bound underscores acc ds = .ok n) (hacc : acc ≤ bound) : n ≤ bound := by
  induction ds generalizing acc with
  | nil =>
    obtain rfl := Except.ok.inj h
    exact hacc
  | cons b ds ih =>
    rw [readDigits] at h
    split at h
    · exact ih h hacc
    · split at h
      · cases h
      · split at h
        · cases h
        · split at h
          · cases h
          · exact ih h (by omega)

/-- Where there is no underscore it does not matter whether underscores are passed over. -/
theorem readDigits_of_notMem {base bound acc : Nat} {ds : Bytes}
    (h : '_'.toUInt8 ∉ ds) :
    readDigits base bound false acc ds = readDigits base bound true acc ds := by
  induction ds generalizing acc with
  | nil => rfl
  | cons d ds ih =>
    obtain ⟨hd, hds⟩ := not_or.mp (mt List.mem_cons.mpr h)
    have hne : (d == '_'.toUInt8) = false := beq_false_of_ne (Ne.symm hd)
    simp only [readDigits, hne, Bool.and_false, Bool.false_eq_true, if_false, ih hds]

/-- A number that is read is at most the bound. -/
theorem readNat_le {base : Base} {bound n : Nat} {text : Bytes}
    (h : readNat base bound text = .ok n) : n ≤ bound := by
  unfold readNat at h
  split at h
  · cases h
  · split at h
    · exact readDigits_le h (Nat.zero_le _)
    · cases hdigits : readDigits (announcedBase text).1 bound true 0 (announcedBase text).2 with
      | error err =>
        simp [hdigits, bind, Except.bind] at h
      | ok m =>
        simp only [hdigits, bind, Except.bind] at h
        split at h
        · cases h
        · obtain rfl := Except.ok.inj h
          exact readDigits_le hdigits (Nat.zero_le _)

end Integer

theorem head?_decimal_append (n : Nat) (r : Bytes) :
    (decimal n ++ r).head? = (decimal n).head? := by
  rw [List.head?_append, List.head?_eq_some_head (decimal_ne_nil n), Option.some_or]

/-- No zero leads a written number. -/
theorem head?_decimal_ne {n : Nat} (h : n ≠ 0) : (decimal n).head? ≠ some '0'.toUInt8 := by
  induction n using Nat.strongRecOn with
  | ind n ih =>
    have hdigits : ∀ d < 10, d ≠ 0 → (decimal d).head? ≠ some '0'.toUInt8 := by
      decide
    rcases Nat.lt_or_ge n 10 with hlt | hle
    · exact hdigits n hlt h
    · have hsplit : decimal n = decimal (n / 10) ++ [(n % 10).digitChar.toUInt8] := by
        rw [decimal, Nat.toDigits_of_base_le (by decide) hle, List.map_append]
        rfl
      rw [hsplit, head?_decimal_append]
      exact ih (n / 10) (by omega) (by omega)

/-- A written number other than 0 announces base 10, and reads back. -/
theorem Integer.readNat_announced_decimal {bound n : Nat} (hn : n ≠ 0) (h : n ≤ bound) :
    readNat .announced bound (decimal n) = .ok n := by
  have hplain : '_'.toUInt8 ∉ decimal n := notMem_decimal (by decide) n
  have hbase : announcedBase (decimal n) = (10, decimal n) := by
    have hhead := head?_decimal_ne hn
    cases hdecimal : decimal n with
    | nil => rfl
    | cons d ds =>
      have hd : (d == '0'.toUInt8) = false := by
        rw [hdecimal] at hhead
        simpa using hhead
      unfold announcedBase
      dsimp only
      rw [hd]
      rfl
  have hread := readNat_decimal h
  rw [readNat, if_neg (decimal_ne_nil n)] at hread
  rw [readNat, if_neg (decimal_ne_nil n)]
  simp [hbase, ← readDigits_of_notMem hplain, hread, hplain]

/-- Different numbers are written differently. -/
theorem decimal_injective {m n : Nat} (h : decimal m = decimal n) : m = n := by
  have hm := Integer.readNat_decimal (Nat.le_max_left m n)
  rw [h, Integer.readNat_decimal (Nat.le_max_right m n)] at hm
  exact (Except.ok.inj hm).symm

theorem wordOf?_decimal (n : UInt64) : wordOf? (decimal n.toNat) = some n := by
  have hlt : n.toNat ≤ UInt64.size - 1 := Nat.le_sub_one_of_lt n.toNat_lt
  rw [wordOf?, Integer.readNat_decimal hlt]
  simp

/-- The name of a temporary tells its number. -/
theorem temporaryOf?_temporaryName (n : UInt64) : temporaryOf? (temporaryName n) = some n := by
  have hstrip (b : Bytes) : Bytes.strip? (utf8 "__t") (utf8 "__t" ++ b) = some b := by
    have : utf8 "__t" = [95, 95, 116] := by decide
    simp [this, Bytes.strip?]
  rw [temporaryOf?, temporaryName, hstrip, Option.bind_some, wordOf?_decimal]

theorem temporaryName_injective {m n : UInt64} (h : temporaryName m = temporaryName n) : m = n := by
  have := temporaryOf?_temporaryName m
  rw [h, temporaryOf?_temporaryName] at this
  exact (Option.some.inj this).symm

theorem temporaryName_ne_nil (n : UInt64) : temporaryName n ≠ [] := by
  have : utf8 "__t" = [95, 95, 116] := by decide
  simp [temporaryName, this]

/-- The name of a temporary is a single field. -/
theorem spaceless_temporaryName (n : UInt64) : Spaceless (temporaryName n) := by
  apply spaceless_of_visible
  intro x hx
  rw [temporaryName, List.mem_append] at hx
  rcases hx with hx | hx
  · have hletters : utf8 "__t" = [0x5F, 0x5F, 0x74] := by decide
    rw [hletters] at hx
    simp only [List.mem_cons, List.not_mem_nil, or_false] at hx
    rcases hx with rfl | rfl | rfl <;> decide
  · obtain ⟨hlo, hhi⟩ := mem_decimal hx
    rw [UInt8.lt_iff_toNat_lt, UInt8.lt_iff_toNat_lt]
    exact ⟨Nat.lt_of_lt_of_le (by decide) hlo, Nat.lt_of_le_of_lt hhi (by decide)⟩

end ThreeAddress
