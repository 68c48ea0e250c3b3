import ThreeAddress.Text.Fields
import ThreeAddress.Unicode.Digit
import ThreeAddress.Unicode.Letter
import ThreeAddress.Unicode.NonspacingMark
import ThreeAddress.Unicode.Normalization

/-!
# Normalization makes no white space and no quotes

No letter, digit or mark is white space or a quote. Neither the canonical decompositions nor the
composites lead from other characters to these, and the other steps of normalization only move
characters around. So a text without white space and quotes is normalized to one without them.

## Main definitions

* `IsSolid` : a code point is neither white space nor a quote.
* `AreSolid` : no character of a text is white space or a quote.

## Main results

* `AreSolid.nfc` : normalization form C keeps a text free of white space and quotes.
-/

namespace ThreeAddress.Unicode

/-- A code point that is neither white space nor a quote. -/
def IsSolid (n : Nat) : Prop :=
  Fields.isSpace (Char.ofNat n) = false ∧ n ≠ 0x27

instance (n : Nat) : Decidable (IsSolid n) :=
  inferInstanceAs (Decidable (_ ∧ _))

/-- Characters none of which is white space or a quote. -/
def AreSolid (cs : List Char) : Prop :=
  ∀ c ∈ cs, IsSolid c.toNat

theorem isSolid_toNat {c : Char} :
    IsSolid c.toNat ↔ Fields.isSpace c = false ∧ c.toNat ≠ 0x27 := by
  rw [IsSolid, Char.ofNat_toNat]

/-- A code point beyond the range of characters is read as neither. -/
theorem IsSolid.toNat_ofNat {n : Nat} (h : IsSolid n) : IsSolid (Char.ofNat n).toNat := by
  rw [isSolid_toNat]
  refine ⟨h.1, ?_⟩
  by_cases hvalid : n.isValidChar
  · rw [Char.ofNat, dif_pos hvalid]
    exact h.2
  · rw [Char.ofNat, dif_neg hvalid]
    decide

/-- Hangul letters and syllables are neither white space nor quotes. -/
theorem isSolid_hangul {n : Nat} (h : 0x1100 ≤ n ∧ n < 0x1200 ∨ 0xAC00 ≤ n ∧ n < 0xD7A4) :
    IsSolid n := by
  have hvalid : n.isValidChar := by
    left
    omega
  have htoNat : (Char.ofNat n).toNat = n := by
    rw [Char.ofNat, dif_pos hvalid]
    rfl
  simp only [IsSolid, Fields.isSpace, htoNat]
  simp
  omega

/-! ### Letters, digits and marks -/

/-- The white space characters and the quote as ranges of code points. -/
def gapRanges : RangeSet :=
  [(9, 13), (0x20, 0x20), (0x27, 0x27), (0x85, 0x85), (0xA0, 0xA0), (0x1680, 0x1680),
  (0x2000, 0x200A), (0x2028, 0x2029), (0x202F, 0x202F), (0x205F, 0x205F), (0x3000, 0x3000)]

/-- No range of one set meets a range of the other. -/
def RangeSet.IsDisjoint (s t : RangeSet) : Prop :=
  ∀ r ∈ s, ∀ q ∈ t, r.2 < q.1 ∨ q.2 < r.1

instance (s t : RangeSet) : Decidable (s.IsDisjoint t) :=
  inferInstanceAs (Decidable (∀ r ∈ s, ∀ q ∈ t, _))

theorem contains_gapRanges {c : Char} (h : ¬IsSolid c.toNat) : gapRanges.contains c = true := by
  rw [isSolid_toNat, Decidable.not_and_iff_not_or_not, Bool.not_eq_false, Decidable.not_not] at h
  simp only [Fields.isSpace, Bool.or_eq_true, Bool.and_eq_true, decide_eq_true_eq,
    beq_iff_eq] at h
  simp only [RangeSet.contains, gapRanges, List.any_cons, List.any_nil, Bool.or_eq_true,
    Bool.and_eq_true, decide_eq_true_eq, Bool.false_eq_true, or_false]
  omega

theorem RangeSet.IsDisjoint.isSolid {s : RangeSet} (hs : s.IsDisjoint gapRanges) {c : Char}
    (hc : s.contains c = true) : IsSolid c.toNat := by
  refine Decidable.byContradiction fun hgap => ?_
  obtain ⟨r, hr, hlo, hhi⟩ := RangeSet.contains_iff.mp hc
  obtain ⟨q, hq, hlo', hhi'⟩ := RangeSet.contains_iff.mp (contains_gapRanges hgap)
  have := hs r hr q hq
  omega

/-- Comparing the ends of the ranges is quicker than deciding about them. -/
theorem RangeSet.isDisjoint_of_all {s t : RangeSet}
    (h : (s.all fun r => t.all fun q => Nat.blt r.2 q.1 || Nat.blt q.2 r.1) = true) :
    s.IsDisjoint t := by
  simpa [IsDisjoint] using h

theorem isDisjoint_gapRanges : letterRanges.IsDisjoint gapRanges ∧
    decimalDigitRanges.IsDisjoint gapRanges ∧ nonspacingMarkRanges.IsDisjoint gapRanges :=
  ⟨RangeSet.isDisjoint_of_all (by decide +kernel), RangeSet.isDisjoint_of_all (by decide +kernel),
    RangeSet.isDisjoint_of_all (by decide +kernel)⟩

theorem isSolid_letter {c : Char} (h : isLetter c = true) : IsSolid c.toNat :=
  isDisjoint_gapRanges.1.isSolid h

theorem isSolid_decimalDigit {c : Char} (h : isDecimalDigit c = true) : IsSolid c.toNat :=
  isDisjoint_gapRanges.2.1.isSolid h

theorem isSolid_nonspacingMark {c : Char} (h : isNonspacingMark c = true) : IsSolid c.toNat :=
  isDisjoint_gapRanges.2.2.isSolid h

/-! ### Decomposition -/

theorem isSolid_pairs :
    ∀ p ∈ lowPairs ++ highPairs, IsSolid p.1 ∧ IsSolid p.2.1 ∧ IsSolid p.2.2 := by
  decide +kernel

-- some spaces stand for other spaces
theorem isSolid_singles :
    ∀ p ∈ singletonDecompositions ++ ideographDecompositions, IsSolid p.1 → IsSolid p.2 := by
  decide +kernel

theorem isSolid_decomposition? {n : Nat} (h : IsSolid n) {ms : List Nat}
    (hms : decomposition? n = some ms) : ∀ m ∈ ms, IsSolid m := by
  obtain ⟨p, hp, -, rfl⟩ | ⟨p, hp, rfl, rfl⟩ := exists_of_decomposition? hms
  · simp [isSolid_pairs p hp]
  · simp [isSolid_singles p hp h]

theorem isSolid_hangulDecomposition {n : Nat} (hlo : 0xAC00 ≤ n) (hhi : n < 0xD7A4) :
    ∀ m ∈ hangulDecomposition n, IsSolid m := by
  have hstart : IsSolid (0x1100 + (n - 0xAC00) / 588) ∧
      IsSolid (0x1161 + (n - 0xAC00) % 588 / 28) :=
    ⟨isSolid_hangul (by omega), isSolid_hangul (by omega)⟩
  have hfinal : IsSolid (0x11A7 + (n - 0xAC00) % 28) := isSolid_hangul (by omega)
  unfold hangulDecomposition
  dsimp only
  split
  · simp [hstart]
  · simp [hstart, hfinal]

theorem isSolid_decomposeDeep {depth n : Nat} (h : IsSolid n) :
    ∀ m ∈ decomposeDeep depth n, IsSolid m := by
  induction depth generalizing n with
  | zero => simpa [decomposeDeep] using h
  | succ depth ih =>
    rw [decomposeDeep]
    split
    · rename_i hrange
      exact isSolid_hangulDecomposition hrange.1 hrange.2
    · split
      · rename_i ms hms
        intro m hm
        obtain ⟨k, hk, hmk⟩ := List.mem_flatMap.mp hm
        exact ih (isSolid_decomposition? h hms k hk) m hmk
      · simpa using h

theorem areSolid_decompose {c : Char} (h : IsSolid c.toNat) : AreSolid (decompose c) := by
  intro d hd
  obtain ⟨n, hn, rfl⟩ := List.mem_map.mp hd
  exact (isSolid_decomposeDeep h n hn).toNat_ofNat

/-! ### Order -/

theorem perm_place (c : Char) (ds : List Char) : (place c ds).Perm (c :: ds) := by
  induction ds with
  | nil => exact .refl _
  | cons d ds ih =>
    rw [place]
    split
    · exact (ih.cons d).trans (.swap c d ds)
    · exact .refl _

theorem perm_reorder (cs : List Char) : (reorder cs).Perm cs := by
  have hplaced : ∀ acc, (cs.foldl (fun acc c => place c acc) acc).Perm (cs ++ acc) := by
    induction cs with
    | nil => exact fun acc => .refl _
    | cons c cs ih =>
      intro acc
      exact ((ih _).trans ((perm_place c acc).append_left cs)).trans List.perm_middle
  have h := hplaced []
  rw [List.append_nil] at h
  exact (List.reverse_perm _).trans h

theorem AreSolid.reorder {cs : List Char} (h : AreSolid cs) : AreSolid (reorder cs) :=
  fun c hc => h c ((perm_reorder cs).mem_iff.mp hc)

/-! ### Composition -/

theorem isSolid_composite? {a b n : Nat} (h : composite? a b = some n) : IsSolid n := by
  obtain ⟨p, hp, rfl⟩ := exists_of_composite? h
  exact (isSolid_pairs p hp).1

theorem isSolid_hangulComposite? {a b n : Nat} (h : hangulComposite? a b = some n) : IsSolid n :=
  isSolid_hangul (.inr (mem_range_of_hangulComposite? h))

theorem AreSolid.cons {c : Char} {cs : List Char} (hc : IsSolid c.toNat) (hcs : AreSolid cs) :
    AreSolid (c :: cs) :=
  List.forall_mem_cons.mpr ⟨hc, hcs⟩

theorem AreSolid.append {cs ds : List Char} (hcs : AreSolid cs) (hds : AreSolid ds) :
    AreSolid (cs ++ ds) :=
  List.forall_mem_append.mpr ⟨hcs, hds⟩

/-- A character is composed with its target or stays behind it; either way the text stays solid. -/
theorem exists_composeFrom_cons {c : Char} (hc : IsSolid c.toNat) (cs : List Char)
    {text : List Char} {target : Char} {behind : List Char} (htext : AreSolid text)
    (htarget : IsSolid target.toNat) (hbehind : AreSolid behind) :
    ∃ text' target' behind', AreSolid text' ∧ IsSolid target'.toNat ∧ AreSolid behind' ∧
      composeFrom text target behind (c :: cs) = composeFrom text' target' behind' cs := by
  rw [composeFrom.eq_def]
  dsimp only
  split
  · exact ⟨text, target, c :: behind, htext, htarget, .cons hc hbehind, rfl⟩
  · cases behind with
    | nil =>
      dsimp only
      split
      · rename_i n hn
        exact ⟨text, Char.ofNat n, [], htext, (isSolid_composite? hn).toNat_ofNat, hbehind, rfl⟩
      · exact ⟨text, target, [c], htext, htarget, .cons hc hbehind, rfl⟩
    | cons m between =>
      by_cases hclass : combiningClass m = 0
      · obtain ⟨hm, hbetween⟩ := List.forall_mem_cons.mp hbehind
        have hsettled : AreSolid (between ++ target :: text) :=
          AreSolid.append hbetween (.cons htarget htext)
        have hnone : AreSolid [] := by simp [AreSolid]
        simp only [hclass, if_true]
        split
        · rename_i n hn
          exact ⟨_, Char.ofNat n, [], hsettled, (isSolid_composite? hn).toNat_ofNat, hnone, rfl⟩
        · exact ⟨_, m, [c], hsettled, hm, .cons hc hnone, rfl⟩
      · simp only [hclass, if_false]
        split
        · rename_i n hn
          obtain ⟨-, hn⟩ := Option.ite_none_left_eq_some.mp hn
          exact ⟨text, Char.ofNat n, m :: between, htext, (isSolid_composite? hn).toNat_ofNat,
            hbehind, rfl⟩
        · exact ⟨text, target, c :: m :: between, htext, htarget, .cons hc hbehind, rfl⟩

theorem areSolid_composeFrom {cs : List Char} (hcs : AreSolid cs) :
    ∀ {text : List Char} {target : Char} {behind : List Char}, AreSolid text →
      IsSolid target.toNat → AreSolid behind → AreSolid (composeFrom text target behind cs) := by
  induction cs with
  | nil => exact fun htext htarget hbehind => hbehind.append (.cons htarget htext)
  | cons c cs ih =>
    obtain ⟨hc, hcs⟩ := List.forall_mem_cons.mp hcs
    intro text target behind htext htarget hbehind
    obtain ⟨text', target', behind', htext', htarget', hbehind', hstep⟩ :=
      exists_composeFrom_cons hc cs htext htarget hbehind
    rw [hstep]
    exact ih hcs htext' htarget' hbehind'

theorem AreSolid.joinSyllable {text : List Char} (h : AreSolid text) {c : Char}
    (hc : IsSolid c.toNat) : AreSolid (joinSyllable text c) := by
  unfold Unicode.joinSyllable
  split
  · exact .cons hc h
  · rename_i l before
    obtain ⟨hl, hbefore⟩ := List.forall_mem_cons.mp h
    split
    · rename_i n hn
      exact .cons (isSolid_hangulComposite? hn).toNat_ofNat hbefore
    · exact .cons hc h

theorem AreSolid.foldl_joinSyllable {cs : List Char} (hcs : AreSolid cs) {text : List Char}
    (h : AreSolid text) : AreSolid (cs.foldl Unicode.joinSyllable text) := by
  induction cs generalizing text with
  | nil => exact h
  | cons c cs ih =>
    obtain ⟨hc, hcs⟩ := List.forall_mem_cons.mp hcs
    exact ih hcs (h.joinSyllable hc)

theorem AreSolid.compose {cs : List Char} (h : AreSolid cs) : AreSolid (compose cs) := by
  cases cs with
  | nil => exact h
  | cons c cs =>
    obtain ⟨hc, hcs⟩ := List.forall_mem_cons.mp h
    have hplain : AreSolid (cs.takeWhile fun d => !isSyllablePart d) := fun d hd =>
      hcs d (List.takeWhile_subset _ hd)
    have hrest (n : Nat) : AreSolid (cs.drop n) := fun d hd => hcs d (List.mem_of_mem_drop hd)
    have hnil : AreSolid [] := by simp [AreSolid]
    intro d hd
    exact (hrest _).foldl_joinSyllable (areSolid_composeFrom hplain hnil hc hnil) d
      (List.mem_reverse.mp hd)

/-! ### Segments -/

/-- The joiner that cuts overlong runs of marks is solid as well. -/
theorem areSolid_segmentsFrom {cs : List Char} (hcs : AreSolid cs) :
    ∀ {run : Nat} {segment : List Char}, AreSolid segment →
      ∀ part ∈ segmentsFrom run segment cs, AreSolid part := by
  have hreverse {segment : List Char} (h : AreSolid segment) : AreSolid segment.reverse :=
    fun d hd => h d (List.mem_reverse.mp hd)
  induction cs with
  | nil =>
    intro run segment h part hpart
    obtain rfl := List.mem_singleton.mp hpart
    exact hreverse h
  | cons c cs ih =>
    obtain ⟨hc, hcs⟩ := List.forall_mem_cons.mp hcs
    have hsingle : AreSolid [c] := .cons hc (by simp [AreSolid])
    intro run segment h part hpart
    rw [segmentsFrom] at hpart
    dsimp only at hpart
    split at hpart
    · rcases List.mem_cons.mp hpart with rfl | hpart
      · exact hreverse (.cons (by decide +kernel) h)
      · exact ih hcs hsingle part hpart
    · split at hpart
      · rcases List.mem_cons.mp hpart with rfl | hpart
        · exact hreverse h
        · exact ih hcs hsingle part hpart
      · exact ih hcs (.cons hc h) part hpart

/-- Normalization form C keeps a text free of white space and quotes. -/
theorem AreSolid.nfc {cs : List Char} (h : AreSolid cs) : AreSolid (nfc cs) := by
  intro d hd
  obtain ⟨segment, hsegment, hd⟩ := List.mem_flatMap.mp hd
  have hsolid := areSolid_segmentsFrom h (by simp [AreSolid]) segment hsegment
  have hdecomposed : AreSolid (segment.flatMap decompose) := by
    intro e he
    obtain ⟨c, hc, he⟩ := List.mem_flatMap.mp he
    exact areSolid_decompose (hsolid c hc) e he
  exact hdecomposed.reorder.compose d hd

end ThreeAddress.Unicode
