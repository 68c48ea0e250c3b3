import Mathlib.Algebra.GroupWithZero.Nat
import Mathlib.Data.List.TakeWhile
import ThreeAddress.Proofs.Text.Encoding
import ThreeAddress.Unicode.DisplayWidth

/-!
# Columns of clusters and of characters

A text is cut into stretches without running through any of its pieces, and clusters are stretches
side by side. So the characters of a text are those of its clusters, one cluster after the other,
also where bytes are no encoding of a character. A cluster takes the columns of its first part that
takes any, so the columns of the characters of a text are at least those of the text, and more if a
cluster has two parts that take columns.

## Main definitions

* `Utf8.Ends` : a text ends between two pieces of a longer one.
* `Utf8.Apart` : texts side by side, each of which ends between two pieces.
* `Unicode.overhang` : the columns of the parts of a cluster that do not count.

## Main results

* `Utf8.Apart.pieces_flatten` : the pieces of texts that come apart.
* `Unicode.flatMap_chars_clusters` : the characters of the clusters of a text.
* `Unicode.sum_charWidth_chars` : the columns of the characters of a text.
-/

namespace ThreeAddress

namespace Utf8

/-! ### Cutting between pieces -/

/-- A longer text of two parts has no piece that is cut where the first part ends. -/
inductive Ends : (front back : Bytes) → Prop
  | nil (back : Bytes) : Ends [] back
  | char (c : Char) {front back : Bytes} (h : Ends front back) :
    Ends (String.utf8EncodeChar c ++ front) back
  | stray {b : UInt8} {front back : Bytes} (hb : encoding? (b :: (front ++ back)) = none)
    (h : Ends front back) : Ends (b :: front) back

/-- No character starts with a continuation byte. -/
theorem encoding?_continuation {b : UInt8} (hb : between 0x80 0xBF b = true) (r : Bytes) :
    encoding? (b :: r) = none := by
  obtain ⟨hlo, hhi⟩ := toNat_of_between hb
  simp only [UInt8.reduceToNat] at hlo hhi
  have hascii : ¬b < 0x80 := by
    rw [UInt8.lt_iff_toNat_lt]
    exact Nat.not_lt.mpr hlo
  have hlead (lo hi : UInt8) (h : 0xBF < lo.toNat) : between lo hi b = false := by
    rw [Bool.eq_false_iff]
    intro hbetween
    exact absurd (toNat_of_between hbetween).1 (by omega)
  rw [encoding?.eq_def]
  simp only [hascii, if_false, hlead 0xC2 0xDF (by decide), hlead 0xE0 0xEF (by decide),
    hlead 0xF0 0xF4 (by decide), Bool.false_eq_true]

theorem pieces_cons_of_none {b : UInt8} {r : Bytes} (h : encoding? (b :: r) = none) :
    pieces (b :: r) = ⟨replacement, [b], false⟩ :: pieces r := by
  rw [pieces, piecesFrom, h]
  rfl

namespace Ends

variable {a r s : Bytes}

/-- What stands far behind does not matter. -/
theorem shorten (h : Ends a (r ++ s)) : Ends a r := by
  generalize hback : r ++ s = back at h
  induction h with
  | nil => exact .nil r
  | char c _ ih => exact .char c (ih hback)
  | stray hb _ ih =>
    subst hback
    rw [← List.append_assoc, ← List.cons_append] at hb
    exact .stray (encoding?_of_append_eq_none hb) (ih rfl)

/-- Both parts are read one after the other. -/
theorem pieces_append (h : Ends a r) : pieces (a ++ r) = pieces a ++ pieces r := by
  induction h with
  | nil => rfl
  | char c _ ih =>
    rw [List.append_assoc, pieces_utf8EncodeChar_append, pieces_utf8EncodeChar_append, ih]
    rfl
  | stray hb _ ih =>
    rw [List.cons_append, pieces_cons_of_none hb, ih]
    rw [← List.cons_append] at hb
    rw [pieces_cons_of_none (encoding?_of_append_eq_none hb)]
    rfl

/-- A whole text ends between two pieces. -/
theorem self (a : Bytes) : Ends a [] := by
  induction hsize : a.length using Nat.strongRecOn generalizing a with
  | ind n ih =>
    subst hsize
    cases a with
    | nil => exact .nil []
    | cons b a =>
      cases hread : encoding? (b :: a) with
      | none => exact .stray (by rwa [List.append_nil]) (ih a.length (Nat.lt_succ_self _) a rfl)
      | some p =>
        obtain ⟨c, n⟩ := p
        have hpos := (size_le_of_encoding? hread).1
        rw [← List.take_append_drop n (b :: a), take_of_encoding? hread]
        exact .char c (ih _ (by rw [List.length_drop, List.length_cons]; omega) _ rfl)

/-- A piece is the encoding of its character, or stands for a byte that starts none. -/
theorem mem_pieces (h : Ends a r) :
    ∀ p ∈ pieces a, p.bytes = String.utf8EncodeChar p.char ∨ p.char = replacement := by
  induction h with
  | nil => exact List.forall_mem_nil _
  | char c _ ih =>
    rw [pieces_utf8EncodeChar_append]
    exact List.forall_mem_cons.mpr ⟨.inl rfl, ih⟩
  | stray hb _ ih =>
    rw [← List.cons_append] at hb
    rw [pieces_cons_of_none (encoding?_of_append_eq_none hb)]
    exact List.forall_mem_cons.mpr ⟨.inr rfl, ih⟩

end Ends

/-- A character other than the replacement character is read from its encoding. -/
theorem infix_of_mem_chars {a : Bytes} {c : Char} (h : c ∈ chars a) (hc : c ≠ replacement) :
    String.utf8EncodeChar c <:+: a := by
  obtain ⟨p, hp, rfl⟩ := List.mem_map.mp h
  have hbytes : p.bytes = String.utf8EncodeChar p.char :=
    ((Ends.self a).mem_pieces p hp).resolve_right hc
  obtain ⟨front, back, hpieces⟩ := List.append_of_mem hp
  rw [← hbytes, ← flatMap_bytes_pieces a, hpieces, List.flatMap_append, List.flatMap_cons]
  exact ⟨_, _, List.append_assoc _ _ _⟩

/-- Texts side by side, each of which ends between two pieces. -/
inductive Apart : List Bytes → Prop
  | nil : Apart []
  | cons {a : Bytes} {bs : List Bytes} (ha : Ends a bs.flatten) (h : Apart bs) : Apart (a :: bs)

namespace Apart

variable {bs cs : List Bytes}

theorem of_append (h : Apart (bs ++ cs)) : Apart bs ∧ Apart cs := by
  induction bs with
  | nil => exact ⟨.nil, h⟩
  | cons b bs ih =>
    cases h with
    | cons hb h =>
      have hends : Ends b (bs ++ cs).flatten := hb
      rw [List.flatten_append] at hends
      exact ⟨.cons hends.shorten (ih h).1, (ih h).2⟩

/-- Texts that come apart are read one after the other. -/
theorem pieces_flatten (h : Apart bs) : pieces bs.flatten = bs.flatMap pieces := by
  induction h with
  | nil => rfl
  | cons hb _ ih => rw [List.flatten_cons, hb.pieces_append, ih, List.flatMap_cons]

theorem chars_flatten (h : Apart bs) : chars bs.flatten = bs.flatMap chars := by
  rw [chars, h.pieces_flatten, List.map_flatMap]
  rfl

end Apart

end Utf8

namespace Unicode

open Utf8 (Apart Ends)

/-! ### Stretches and clusters -/

theorem stretchesFrom_eq_drop (k : Nat) (b : Bytes) :
    stretchesFrom k b = stretchesFrom 0 (b.drop k) := by
  induction b generalizing k with
  | nil => cases k <;> rfl
  | cons x b ih =>
    cases k with
    | zero => rfl
    | succ k => exact ih k

/-- Continuation bytes end between two pieces wherever they stand. -/
theorem ends_of_continuations {a : Bytes} (ha : ∀ x ∈ a, Utf8.between 0x80 0xBF x = true)
    (r : Bytes) : Ends a r := by
  induction a with
  | nil => exact .nil r
  | cons x a ih =>
    obtain ⟨hx, ha⟩ := List.forall_mem_cons.mp ha
    exact .stray (Utf8.encoding?_continuation hx _) (ih ha)

/-- Stretches are the text, cut between its pieces. -/
theorem apart_stretches (b : Bytes) :
    ((stretches b).map Stretch.bytes).flatten = b ∧ Apart ((stretches b).map Stretch.bytes) := by
  unfold stretches
  induction hsize : b.length using Nat.strongRecOn generalizing b with
  | ind n ih =>
    subst hsize
    -- the stretches behind the first `k` bytes, which are those of the first stretch
    have hstep {k : Nat} {front : Bytes} (hfront : b.take k = front) (hpos : 0 < k)
        (hlt : 0 < b.length) (hends : Ends front (b.drop k)) :
        (front :: (stretchesFrom 0 (b.drop k)).map Stretch.bytes).flatten = b ∧
          Apart (front :: (stretchesFrom 0 (b.drop k)).map Stretch.bytes) := by
      obtain ⟨hflatten, hapart⟩ := ih _ (by rw [List.length_drop]; omega) (b.drop k) rfl
      refine ⟨?_, .cons ?_ hapart⟩
      · rw [List.flatten_cons, hflatten, ← hfront, List.take_append_drop]
      · rwa [hflatten]
    cases b with
    | nil => exact ⟨rfl, .nil⟩
    | cons x rest =>
      rw [stretchesFrom]
      dsimp only
      split
      · -- an encoding that breaks off takes the rest of the text along
        exact ⟨List.append_nil _, .cons (Ends.self _) .nil⟩
      · split
        · rename_i c n hread
          have hpos := (Utf8.size_le_of_encoding? hread).1
          have hdrop : rest.drop (n - 1) = (x :: rest).drop n := by
            obtain ⟨m, rfl⟩ := Nat.exists_eq_add_one_of_ne_zero (Nat.ne_of_gt hpos)
            rfl
          rw [List.map_cons, stretchesFrom_eq_drop, hdrop]
          refine hstep rfl hpos (Nat.succ_pos _) ?_
          rw [Utf8.take_of_encoding? hread, ← List.append_nil (String.utf8EncodeChar c)]
          exact .char c (.nil _)
        · rename_i hread
          generalize hmore : List.takeWhile (Utf8.between 0x80 0xBF)
            (rest.take (encodingSize x - 1)) = more
          have hfront : rest.take more.length = more := by
            have h : more <+: rest :=
              hmore ▸ (List.takeWhile_prefix _).trans (List.take_prefix _ _)
            exact (List.prefix_iff_eq_take.mp h).symm
          have hmarks : ∀ y ∈ more, Utf8.between 0x80 0xBF y = true := fun y hy => by
            rw [← hmore] at hy
            exact List.mem_takeWhile_imp hy
          rw [List.map_cons, stretchesFrom_eq_drop]
          refine hstep (k := more.length + 1) ?_ (Nat.succ_pos _) (Nat.succ_pos _) ?_
          · rw [List.take_succ_cons, hfront]
          · refine .stray ?_ (ends_of_continuations hmarks _)
            have hrest : more ++ rest.drop more.length = rest := by
              have h := List.take_append_drop more.length rest
              rwa [hfront] at h
            rwa [List.drop_succ_cons, hrest]

/-- Clusters are stretches side by side. -/
theorem flatMap_chars_clustersFrom {state : Option GraphemeState} {pending : List Bytes}
    {ss : List Stretch} (h : Apart (pending.reverse ++ ss.map Stretch.bytes)) :
    (clustersFrom state pending ss).flatMap Utf8.chars =
      (pending.reverse ++ ss.map Stretch.bytes).flatMap Utf8.chars := by
  have hmove (p : Stretch) (ps : List Stretch) (pending : List Bytes) :
      pending.reverse ++ (p :: ps).map Stretch.bytes =
        (p.bytes :: pending).reverse ++ ps.map Stretch.bytes := by simp
  fun_induction clustersFrom state pending ss with
  | case1 state pending hempty =>
    rw [List.isEmpty_iff.mp hempty]
    rfl
  | case2 state pending hpending =>
    rw [List.map_nil, List.append_nil] at h ⊢
    rw [List.flatMap_singleton, h.chars_flatten]
  | case3 state pending p ps hp ih =>
    rw [hmove] at h ⊢
    exact ih h
  | case4 pending p ps g hp ih =>
    rw [hmove] at h ⊢
    exact ih h
  | case5 pending p ps g hp s next hjoins ih =>
    rw [hmove] at h ⊢
    exact ih h
  | case6 pending p ps g hp s next hends ih =>
    -- the pending parts are a cluster, and the next one starts with `p`
    obtain ⟨hpending, hrest⟩ := h.of_append
    rw [List.flatMap_cons, hpending.chars_flatten, List.flatMap_append]
    exact congrArg _ (ih hrest)

/-- The characters of a text are those of its clusters. -/
theorem flatMap_chars_clusters (b : Bytes) :
    (clusters b).flatMap Utf8.chars = Utf8.chars b := by
  obtain ⟨hflatten, hapart⟩ := apart_stretches b
  have h : (clusters b).flatMap Utf8.chars =
      ([].reverse ++ (stretches b).map Stretch.bytes).flatMap Utf8.chars :=
    flatMap_chars_clustersFrom hapart
  rw [h, List.reverse_nil, List.nil_append, ← hapart.chars_flatten, hflatten]

/-! ### Columns -/

/-- The parts of a cluster that take columns, with the columns that they take. -/
def partWidths (cluster : Bytes) : List Nat :=
  ((Utf8.chars cluster).map charWidth).filter fun w => decide (0 < w)

/-- The columns of the parts of a cluster behind the first one that takes any. -/
def overhang (cluster : Bytes) : Nat :=
  (partWidths cluster).tail.sum

theorem sum_filter_pos (ws : List Nat) : (ws.filter fun w => decide (0 < w)).sum = ws.sum := by
  induction ws with
  | nil => rfl
  | cons w ws ih =>
    rw [List.filter_cons]
    split
    · rw [List.sum_cons, List.sum_cons, ih]
    · rename_i hzero
      have hw : w = 0 := by simpa using hzero
      rw [ih, List.sum_cons, hw, Nat.zero_add]

/-- The characters of a cluster take its columns and its overhang. -/
theorem sum_charWidth_cluster (cluster : Bytes) :
    ((Utf8.chars cluster).map charWidth).sum = clusterWidth cluster + overhang cluster := by
  have hfirst : clusterWidth cluster = (partWidths cluster).head?.getD 0 := by
    rw [partWidths, List.head?_filter]
    rfl
  rw [← sum_filter_pos, ← partWidths, hfirst, overhang]
  cases partWidths cluster with
  | nil => rfl
  | cons w ws => rw [List.sum_cons]; rfl

theorem overhang_eq_zero_iff {cluster : Bytes} :
    overhang cluster = 0 ↔ (partWidths cluster).length ≤ 1 := by
  have hpos : ∀ w ∈ partWidths cluster, 0 < w := fun w hw => by
    simpa using (List.mem_filter.mp hw).2
  rw [overhang]
  cases hparts : partWidths cluster with
  | nil => simp
  | cons w ws =>
    rw [hparts] at hpos
    cases ws with
    | nil => simp
    | cons v ws =>
      have hv : 0 < v := hpos v (by simp)
      rw [List.tail_cons, List.sum_cons, List.length_cons, List.length_cons]
      omega

theorem textWidth_eq_sum (b : Bytes) : textWidth b = ((clusters b).map clusterWidth).sum := by
  rw [textWidth, List.sum_eq_foldl, List.foldl_map]

/-- The characters of a text take its columns and the overhangs of its clusters. -/
theorem sum_charWidth_chars (b : Bytes) :
    ((Utf8.chars b).map charWidth).sum = textWidth b + ((clusters b).map overhang).sum := by
  rw [← flatMap_chars_clusters, textWidth_eq_sum]
  induction clusters b with
  | nil => rfl
  | cons c cs ih =>
    rw [List.flatMap_cons, List.map_append, List.sum_append, ih, sum_charWidth_cluster,
      List.map_cons, List.map_cons, List.sum_cons, List.sum_cons]
    omega

end Unicode

end ThreeAddress
