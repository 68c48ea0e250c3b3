import ThreeAddress.Proofs.Unicode.WhiteSpace

/-!
# Normalization makes no plain text

A visible ASCII character is plain if no other character stands for it; that leaves out the letter
K, the semicolon and the backtick. A character that decomposes leaves something behind that is not
plain, such as an accent, and no composite is plain. So a text is normalized to a plain one only if
it is plain, and then it stays as it is spelled.

## Main definitions

* `IsPlain` : a code point is a plain character.
* `ArePlain` : a text is plain.

## Main results

* `ArePlain.of_nfc` : a text is plain if its normalization form C is.
-/

namespace ThreeAddress.Unicode

/-- A visible ASCII character that no other character stands for. -/
def IsPlain (n : Nat) : Prop :=
  0x20 < n ∧ n < 0x7F ∧ n ≠ 0x3B ∧ n ≠ 0x4B ∧ n ≠ 0x60

instance (n : Nat) : Decidable (IsPlain n) :=
  inferInstanceAs (Decidable (_ ∧ _))

/-- Characters that are plain. -/
def ArePlain (cs : List Char) : Prop :=
  ∀ c ∈ cs, IsPlain c.toNat

instance (cs : List Char) : Decidable (ArePlain cs) :=
  List.decidableBAll _ cs

theorem arePlain_cons {c : Char} {cs : List Char} :
    ArePlain (c :: cs) ↔ IsPlain c.toNat ∧ ArePlain cs :=
  List.forall_mem_cons

theorem arePlain_append {cs ds : List Char} :
    ArePlain (cs ++ ds) ↔ ArePlain cs ∧ ArePlain ds :=
  List.forall_mem_append

theorem ArePlain.perm {cs ds : List Char} (h : ArePlain cs) (hperm : cs.Perm ds) : ArePlain ds :=
  fun c hc => h c (hperm.mem_iff.mpr hc)

/-- A code point beyond the range of characters is not read as a plain one. -/
theorem IsPlain.of_ofNat {n : Nat} (h : IsPlain (Char.ofNat n).toNat) : IsPlain n := by
  by_cases hvalid : n.isValidChar
  · rw [Char.ofNat, dif_pos hvalid] at h
    exact h
  · rw [Char.ofNat, dif_neg hvalid] at h
    exact absurd h (by decide)

theorem IsPlain.toNat_ofNat {n : Nat} (h : IsPlain n) : IsPlain (Char.ofNat n).toNat := by
  have hall : ∀ m < 0x7F, (Char.ofNat m).toNat = m := by decide
  rwa [hall n h.2.1]

/-! ### Decomposition -/

theorem not_isPlain_pairs : ∀ p ∈ lowPairs ++ highPairs, ¬IsPlain p.1 ∧ ¬IsPlain p.2.2 := by
  decide +kernel

-- the signs that stand for K, the semicolon and the backtick are in the first table
theorem not_isPlain_singles :
    ∀ p ∈ singletonDecompositions ++ ideographDecompositions, ¬IsPlain p.2 := by
  decide +kernel

/-- What a code point stands for is not plain. -/
theorem exists_not_isPlain_of_decomposition? {n : Nat} {ms : List Nat}
    (h : decomposition? n = some ms) : ∃ m ∈ ms, ¬IsPlain m := by
  obtain ⟨p, hp, -, rfl⟩ | ⟨p, hp, -, rfl⟩ := exists_of_decomposition? h
  · exact ⟨p.2.2, by simp, (not_isPlain_pairs p hp).2⟩
  · exact ⟨p.2, by simp, not_isPlain_singles p hp⟩

theorem isPlain_of_decomposeDeep {depth n : Nat} (h : ∀ m ∈ decomposeDeep depth n, IsPlain m) :
    IsPlain n := by
  induction depth generalizing n with
  | zero => exact h n (by simp [decomposeDeep])
  | succ depth ih =>
    rw [decomposeDeep] at h
    split at h
    · -- a syllable starts with a leading consonant
      have hfirst : 0x1100 + (n - 0xAC00) / 588 ∈ hangulDecomposition n := by
        unfold hangulDecomposition
        dsimp only
        split <;> simp
      have := (h _ hfirst).2
      omega
    · split at h
      · rename_i ms hms
        obtain ⟨m, hm, hplain⟩ := exists_not_isPlain_of_decomposition? hms
        exact absurd (ih fun k hk => h k (List.mem_flatMap.mpr ⟨m, hm, hk⟩)) hplain
      · exact h n List.mem_cons_self

theorem isPlain_of_decompose {c : Char} (h : ArePlain (decompose c)) : IsPlain c.toNat :=
  isPlain_of_decomposeDeep fun _ hm => (h _ (List.mem_map_of_mem hm)).of_ofNat

/-! ### Composition -/

theorem not_isPlain_of_composite? {a b n : Nat} (h : composite? a b = some n) : ¬IsPlain n := by
  obtain ⟨p, hp, rfl⟩ := exists_of_composite? h
  exact (not_isPlain_pairs p hp).1

theorem not_isPlain_of_hangulComposite? {a b n : Nat} (h : hangulComposite? a b = some n) :
    ¬IsPlain n := by
  rintro ⟨-, hn, -⟩
  have := (mem_range_of_hangulComposite? h).1
  omega

/-- Characters that are put together to a plain text were put together as they are, since nothing is
composed to a plain character. -/
theorem arePlain_of_composeFrom {cs : List Char} :
    ∀ {text : List Char} {target : Char} {behind : List Char},
      ArePlain (composeFrom text target behind cs) →
        ArePlain (behind ++ target :: text) ∧ ArePlain cs := by
  induction cs with
  | nil => exact fun h => ⟨h, by simp [ArePlain]⟩
  | cons c cs ih =>
    have hcomposed {text behind : List Char} {a b n : Nat} (hn : composite? a b = some n)
        (h : ArePlain (composeFrom text (Char.ofNat n) behind cs)) : False :=
      not_isPlain_of_composite? hn
        (arePlain_cons.mp (arePlain_append.mp (ih h).1).2).1.of_ofNat
    intro text target behind h
    rw [composeFrom.eq_def] at h
    dsimp only at h
    simp only [arePlain_append, arePlain_cons] at ih ⊢
    split at h
    · obtain ⟨⟨hfront, hrest⟩, hcs⟩ := ih h
      obtain ⟨hc, hbehind⟩ := arePlain_cons.mp hfront
      exact ⟨⟨hbehind, hrest⟩, hc, hcs⟩
    · cases behind with
      | nil =>
        dsimp only at h
        split at h
        · rename_i n hn
          exact (hcomposed hn h).elim
        · obtain ⟨⟨hfront, hrest⟩, hcs⟩ := ih h
          obtain ⟨hc, hnil⟩ := arePlain_cons.mp hfront
          exact ⟨⟨hnil, hrest⟩, hc, hcs⟩
      | cons m between =>
        by_cases hclass : combiningClass m = 0
        · simp only [hclass, if_true] at h
          split at h
          · rename_i n hn
            exact (hcomposed hn h).elim
          · obtain ⟨⟨hfront, hm, hsettled⟩, hcs⟩ := ih h
            obtain ⟨hbetween, hrest⟩ := arePlain_append.mp hsettled
            exact ⟨⟨arePlain_cons.mpr ⟨hm, hbetween⟩, arePlain_cons.mp hrest⟩,
              (arePlain_cons.mp hfront).1, hcs⟩
        · simp only [hclass, if_false] at h
          split at h
          · rename_i n hn
            exact (hcomposed (Option.ite_none_left_eq_some.mp hn).2 h).elim
          · obtain ⟨⟨hfront, hrest⟩, hcs⟩ := ih h
            obtain ⟨hc, hbehind⟩ := arePlain_cons.mp hfront
            exact ⟨⟨hbehind, hrest⟩, hc, hcs⟩

theorem arePlain_of_foldl_joinSyllable {cs : List Char} :
    ∀ {text : List Char}, ArePlain (cs.foldl joinSyllable text) → ArePlain text ∧ ArePlain cs := by
  induction cs with
  | nil => exact fun h => ⟨h, by simp [ArePlain]⟩
  | cons c cs ih =>
    intro text h
    obtain ⟨hjoined, hcs⟩ := ih h
    unfold joinSyllable at hjoined
    split at hjoined
    · exact ⟨by simp [ArePlain], arePlain_cons.mpr ⟨(arePlain_cons.mp hjoined).1, hcs⟩⟩
    · split at hjoined
      · rename_i n hn
        exact absurd (arePlain_cons.mp hjoined).1.of_ofNat (not_isPlain_of_hangulComposite? hn)
      · obtain ⟨hc, htext⟩ := arePlain_cons.mp hjoined
        exact ⟨htext, arePlain_cons.mpr ⟨hc, hcs⟩⟩

theorem ArePlain.of_compose {cs : List Char} (h : ArePlain (compose cs)) : ArePlain cs := by
  cases cs with
  | nil => exact h
  | cons c cs =>
    obtain ⟨htext, hrest⟩ := arePlain_of_foldl_joinSyllable (h.perm (List.reverse_perm _))
    obtain ⟨hc, hplain⟩ := arePlain_of_composeFrom htext
    refine arePlain_cons.mpr ⟨(arePlain_cons.mp hc).1, ?_⟩
    have hsplit := List.prefix_iff_eq_append.mp (List.takeWhile_prefix (l := cs)
      fun d => !isSyllablePart d)
    rw [← hsplit]
    exact arePlain_append.mpr ⟨hplain, hrest⟩

/-! ### Segments -/

/-- The segments hold all characters of a text. -/
theorem arePlain_of_segmentsFrom {cs : List Char} :
    ∀ {run : Nat} {segment : List Char}, (∀ part ∈ segmentsFrom run segment cs, ArePlain part) →
      ArePlain segment ∧ ArePlain cs := by
  have hreverse {segment : List Char} (h : ArePlain segment.reverse) : ArePlain segment :=
    h.perm (List.reverse_perm _)
  induction cs with
  | nil => exact fun h => ⟨hreverse (h _ List.mem_cons_self), by simp [ArePlain]⟩
  | cons c cs ih =>
    intro run segment h
    rw [segmentsFrom] at h
    dsimp only at h
    split at h
    · obtain ⟨hsegment, hparts⟩ := List.forall_mem_cons.mp h
      obtain ⟨hc, hcs⟩ := ih hparts
      exact ⟨(arePlain_cons.mp (hreverse hsegment)).2,
        arePlain_cons.mpr ⟨(arePlain_cons.mp hc).1, hcs⟩⟩
    · split at h
      · obtain ⟨hsegment, hparts⟩ := List.forall_mem_cons.mp h
        obtain ⟨hc, hcs⟩ := ih hparts
        exact ⟨hreverse hsegment, arePlain_cons.mpr ⟨(arePlain_cons.mp hc).1, hcs⟩⟩
      · obtain ⟨hsegment, hcs⟩ := ih h
        obtain ⟨hc, hsegment⟩ := arePlain_cons.mp hsegment
        exact ⟨hsegment, arePlain_cons.mpr ⟨hc, hcs⟩⟩

/-- A text is plain if its normalization form C is. -/
theorem ArePlain.of_nfc {cs : List Char} (h : ArePlain (nfc cs)) : ArePlain cs := by
  have hsegments : ∀ segment ∈ segments cs, ArePlain segment := by
    intro segment hsegment c hc
    have hcomposed : ArePlain (compose (reorder (segment.flatMap decompose))) := fun d hd =>
      h d (List.mem_flatMap.mpr ⟨segment, hsegment, hd⟩)
    have hdecomposed := hcomposed.of_compose.perm (perm_reorder _)
    exact isPlain_of_decompose fun d hd => hdecomposed d (List.mem_flatMap.mpr ⟨c, hc, hd⟩)
  exact (arePlain_of_segmentsFrom hsegments).2

end ThreeAddress.Unicode
