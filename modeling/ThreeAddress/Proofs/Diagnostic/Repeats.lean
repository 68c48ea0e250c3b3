import Mathlib.Data.List.Induction
import ThreeAddress.Diagnostic.Bag
import ThreeAddress.Proofs.Text.Decimal

/-!
# Clearing a bag of repeats

A bag is cleared of repeats in place: one place after another is looked at, and a diagnostic moves
behind those kept unless its key was seen before. What is kept is the first of the diagnostics with
one key each, in order.

The key is a text, but no two places are written alike, and an identifier ends before the first
colon. So diagnostics have the same key if and only if they have the same place and identifiers
that are the same. The identifier of a code outside the families does not tell its number: there,
different codes at one place are taken for repeats.

## Main definitions

* `firsts` : the items of a list that no earlier one is like.
* `Diagnostic.Repeats`, `Diagnostic.Restates` : the same identifier at the same place, and the same
  code at the same place.
* `Sieve.Holds` : what is kept and seen in front of an index.

## Main results

* `Code.id_eq_id_iff` : the codes with one identifier.
* `Diagnostic.repeatKey_eq_iff` : the diagnostics with one key.
* `Sieve.Holds.look` : one look keeps what holds of a sieve.
* `Bag.dedup_eq_firsts` : what is left in a bag that is cleared of repeats.
-/

namespace ThreeAddress

/-! ### First items -/

section Firsts

variable {α : Type} {like same : α → α → Prop} [DecidableRel like] [DecidableRel same]
  {xs : List α}

/-- The items of a list that no earlier item is like, in order. -/
def firsts (like : α → α → Prop) [DecidableRel like] (xs : List α) : List α :=
  (xs.zipIdx.filter fun (p : α × Nat) => decide (∀ y ∈ xs.take p.2, ¬like y p.1)).map Prod.fst

/-- Behind a list, an item is a first one unless an item of the list is like it. -/
theorem firsts_concat (xs : List α) (x : α) :
    firsts like (xs ++ [x]) = firsts like xs ++ if ∀ y ∈ xs, ¬like y x then [x] else [] := by
  have hfront : (xs.zipIdx.filter fun (p : α × Nat) =>
        decide (∀ y ∈ (xs ++ [x]).take p.2, ¬like y p.1)) =
      xs.zipIdx.filter fun (p : α × Nat) => decide (∀ y ∈ xs.take p.2, ¬like y p.1) := by
    refine List.filter_congr fun p hp => ?_
    have hlt : p.2 < xs.length := by simpa using List.snd_lt_of_mem_zipIdx hp
    rw [List.take_append_of_le_length (Nat.le_of_lt hlt)]
  rw [firsts, List.zipIdx_append, List.filter_append, List.map_append, hfront]
  congr 1
  split <;> simp_all

theorem sublist_firsts (like : α → α → Prop) [DecidableRel like] (xs : List α) :
    (firsts like xs).Sublist xs := by
  have hfst : xs.zipIdx.map Prod.fst = xs := by simp
  have hsub : (firsts like xs).Sublist (xs.zipIdx.map Prod.fst) := List.filter_sublist.map Prod.fst
  rwa [hfst] at hsub

/-- No first item is like an earlier one. -/
theorem pairwise_firsts (xs : List α) : (firsts like xs).Pairwise fun y x => ¬like y x := by
  induction xs using List.reverseRecOn with
  | nil => exact List.Pairwise.nil
  | append_singleton xs x ih =>
    rw [firsts_concat]
    split
    · rename_i hnew
      refine List.pairwise_append.mpr ⟨ih, List.pairwise_singleton _ _, fun y hy z hz => ?_⟩
      rw [List.mem_singleton.mp hz]
      exact hnew y ((sublist_firsts like xs).subset hy)
    · rwa [List.append_nil]

/-- A list without items that are like earlier ones is its own list of first items. -/
theorem firsts_of_pairwise (h : xs.Pairwise fun y x => ¬like y x) : firsts like xs = xs := by
  induction xs using List.reverseRecOn with
  | nil => rfl
  | append_singleton xs x ih =>
    obtain ⟨hxs, -, hx⟩ := List.pairwise_append.mp h
    have hnew : ∀ y ∈ xs, ¬like y x := fun y hy => hx y hy x (List.mem_singleton.mpr rfl)
    rw [firsts_concat, ih hxs, if_pos hnew]

/-- Taking the first items twice is taking them once. -/
theorem firsts_firsts (xs : List α) : firsts like (firsts like xs) = firsts like xs :=
  firsts_of_pairwise (pairwise_firsts xs)

theorem length_firsts_le (h : ∀ x y, same x y → like x y) (xs : List α) :
    (firsts like xs).length ≤ (firsts same xs).length := by
  induction xs using List.reverseRecOn with
  | nil => exact Nat.le_refl _
  | append_singleton xs x ih =>
    rw [firsts_concat, firsts_concat, List.length_append, List.length_append]
    by_cases hnew : ∀ y ∈ xs, ¬like y x
    · rw [if_pos hnew, if_pos fun y hy => mt (h y x) (hnew y hy)]
      exact Nat.add_le_add_right ih _
    · rw [if_neg hnew]
      exact Nat.le_trans ih (Nat.le_add_right _ _)

/-- A coarser likeness has the same first items if and only if it is no coarser on the list. -/
theorem firsts_eq_firsts_iff (hlike : Equivalence like) (hsame : Equivalence same)
    (h : ∀ x y, same x y → like x y) :
    firsts like xs = firsts same xs ↔ ∀ x ∈ xs, ∀ y ∈ xs, like x y → same x y := by
  induction xs using List.reverseRecOn with
  | nil => exact ⟨fun _ => List.forall_mem_nil _, fun _ => rfl⟩
  | append_singleton xs x ih =>
    have hsplit : (∀ y ∈ xs ++ [x], ∀ z ∈ xs ++ [x], like y z → same y z) ↔
        (∀ y ∈ xs, ∀ z ∈ xs, like y z → same y z) ∧ ∀ y ∈ xs, like y x → same y x := by
      constructor
      · exact fun hall => ⟨fun y hy z hz => hall y (by simp [hy]) z (by simp [hz]),
          fun y hy => hall y (by simp [hy]) x (by simp)⟩
      · rintro ⟨hxs, hx⟩ y hy z hz hyz
        rcases List.mem_append.mp hy with hin | hlast <;>
          rcases List.mem_append.mp hz with hin' | hlast'
        · exact hxs y hin z hin' hyz
        · rw [List.mem_singleton.mp hlast'] at hyz ⊢
          exact hx y hin hyz
        · rw [List.mem_singleton.mp hlast] at hyz ⊢
          exact hsame.symm (hx z hin' (hlike.symm hyz))
        · rw [List.mem_singleton.mp hlast, List.mem_singleton.mp hlast']
          exact hsame.refl x
    rw [hsplit, ← ih, firsts_concat, firsts_concat]
    by_cases hlikes : ∀ y ∈ xs, ¬like y x
    · rw [if_pos hlikes, if_pos fun y hy => mt (h y x) (hlikes y hy), List.append_cancel_right_eq]
      exact ⟨fun heq => ⟨heq, fun y hy hyx => absurd hyx (hlikes y hy)⟩, And.left⟩
    · rw [if_neg hlikes, List.append_nil]
      by_cases hsames : ∀ y ∈ xs, ¬same y x
      · -- the item behind the list is a first one for the finer likeness alone
        rw [if_pos hsames]
        refine ⟨fun heq => ?_, fun hall => ?_⟩
        · have hle := length_firsts_le h xs
          rw [heq, List.length_append, List.length_singleton] at hle
          exact absurd hle (Nat.not_succ_le_self _)
        · exact absurd (fun y hy hyx => hsames y hy (hall.2 y hy hyx)) hlikes
      · rw [if_neg hsames, List.append_nil]
        obtain ⟨z, hz, hzx⟩ : ∃ z ∈ xs, same z x := by simpa using hsames
        refine ⟨fun heq => ⟨heq, fun y hy hyx => ?_⟩, And.left⟩
        have hyz : like y z := hlike.trans hyx (hlike.symm (h z x hzx))
        exact hsame.trans (ih.mp heq y hy z hz hyz) hzx

end Firsts

/-! ### Keys -/

/-- Texts that end before the first separator are read off in front of it. -/
theorem Bytes.append_cons_inj {sep : UInt8} {a b r s : Bytes} (ha : sep ∉ a) (hb : sep ∉ b) :
    a ++ sep :: r = b ++ sep :: s ↔ a = b ∧ r = s := by
  induction a generalizing b with
  | nil =>
    cases b with
    | nil => simp
    | cons y b => simp [Ne.symm (List.ne_of_not_mem_cons hb).symm]
  | cons x a ih =>
    cases b with
    | nil => simp [(List.ne_of_not_mem_cons ha).symm]
    | cons y b =>
      rw [List.cons_append, List.cons_append, List.cons.injEq, List.cons.injEq,
        ih (List.not_mem_of_not_mem_cons ha) (List.not_mem_of_not_mem_cons hb), and_assoc]

/-- No two places are written alike. -/
theorem Span.render_inj {s t : Span} : s.render = t.render ↔ s = t := by
  have hseps : utf8 ":" = [':'.toUInt8] ∧ utf8 "-" = ['-'.toUInt8] := by decide
  have hcolon : Lexer.isDigit ':'.toUInt8 = false := by decide
  have hdash : Lexer.isDigit '-'.toUInt8 = false := by decide
  refine ⟨fun h => ?_, congrArg _⟩
  simp only [render, hseps.1, hseps.2, List.append_assoc, List.singleton_append] at h
  obtain ⟨hfile, hrest⟩ :=
    (Bytes.append_cons_inj (notMem_decimal hcolon _) (notMem_decimal hcolon _)).mp h
  obtain ⟨hstart, hstop⟩ :=
    (Bytes.append_cons_inj (notMem_decimal hdash _) (notMem_decimal hdash _)).mp hrest
  cases s
  cases t
  simp only [mk.injEq]
  exact ⟨UInt32.toNat_inj.mp (decimal_injective hfile),
    UInt32.toNat_inj.mp (decimal_injective hstart), UInt32.toNat_inj.mp (decimal_injective hstop)⟩

namespace Code

variable {c d : Code}

/-- A code that belongs to none of the five thousands of codes. -/
def IsStray (c : Code) : Prop :=
  c.number < 1000 ∨ 6000 ≤ c.number

instance : DecidablePred IsStray := fun _ => inferInstanceAs (Decidable (_ ∨ _))

/-- The letters of the families. -/
def families : List Bytes :=
  [utf8 "LEX", utf8 "SYN", utf8 "SEM", utf8 "IO", utf8 "PRJ"]

/-- The thousand of a number says its family. -/
theorem family?_cases (c : Code) :
    c.IsStray ∧ c.family? = none ∨ ¬c.IsStray ∧ ∃ f ∈ families, c.family? = some f := by
  have hstray : c.IsStray ↔ c.number.toNat < 1000 ∨ 6000 ≤ c.number.toNat := Iff.rfl
  rw [hstray, family?]
  obtain hk | hk | hk | hk | hk | hk : c.number.toNat / 1000 = 1 ∨ c.number.toNat / 1000 = 2 ∨
      c.number.toNat / 1000 = 3 ∨ c.number.toNat / 1000 = 4 ∨ c.number.toNat / 1000 = 5 ∨
      (c.number.toNat < 1000 ∨ 6000 ≤ c.number.toNat) := by omega
  case inr.inr.inr.inr.inr =>
    refine .inl ⟨hk, ?_⟩
    split
    all_goals first | omega | rfl
  all_goals
    rw [hk]
    exact .inr ⟨by omega, _, by decide, rfl⟩

/-- The identifier of a code of a family: letters, then the number. -/
theorem exists_id_of_not_isStray (h : ¬c.IsStray) :
    ∃ f ∈ families, c.id = f ++ decimal c.number.toNat := by
  rcases c.family?_cases with ⟨hc, -⟩ | ⟨-, f, hf, hfamily⟩
  · exact absurd hc h
  · exact ⟨f, hf, by rw [id, hfamily]⟩

theorem id_of_isStray (h : c.IsStray) : c.id = utf8 "E0000" := by
  rcases c.family?_cases with ⟨-, hfamily⟩ | ⟨hc, -⟩
  · rw [id, hfamily]
  · exact absurd h hc

/-- The digits of an identifier with letters are the number. -/
theorem filter_isDigit {f : Bytes} (hf : f ∈ families) (n : Nat) :
    (f ++ decimal n).filter Lexer.isDigit = decimal n := by
  have hletters : ∀ f ∈ families, f.filter Lexer.isDigit = [] := by decide
  rw [List.filter_append, hletters f hf, List.nil_append]
  exact List.filter_eq_self.mpr fun _ => Lexer.isDigit_of_mem_decimal

/-- The identifiers of two codes are the same if and only if the codes are, or belong to no
family. -/
theorem id_eq_id_iff : c.id = d.id ↔ c = d ∨ c.IsStray ∧ d.IsStray := by
  have hfirst : ∀ f ∈ families, ∀ r : Bytes, f ++ r ≠ utf8 "E0000" := by
    intro f hf r h
    have hhead : ∀ f ∈ families, f.head?.isSome ∧ f.head? ≠ (utf8 "E0000").head? := by decide
    obtain ⟨hsome, hne⟩ := hhead f hf
    rw [← h, List.head?_append, Option.or_of_isSome hsome] at hne
    exact hne rfl
  by_cases hc : c.IsStray <;> by_cases hd : d.IsStray
  · simp [id_of_isStray, hc, hd]
  · obtain ⟨f, hf, hid⟩ := exists_id_of_not_isStray hd
    rw [id_of_isStray hc, hid]
    have hne : c ≠ d := fun h => hd (h ▸ hc)
    simpa [hne, hd] using (hfirst f hf _).symm
  · obtain ⟨f, hf, hid⟩ := exists_id_of_not_isStray hc
    rw [id_of_isStray hd, hid]
    have hne : c ≠ d := fun h => hc (h ▸ hd)
    simpa [hne, hc] using hfirst f hf _
  · obtain ⟨f, hf, hid⟩ := exists_id_of_not_isStray hc
    obtain ⟨g, hg, hid'⟩ := exists_id_of_not_isStray hd
    refine ⟨fun h => .inl ?_, fun h => ?_⟩
    · rw [hid, hid'] at h
      have hdigits := congrArg (List.filter Lexer.isDigit) h
      rw [filter_isDigit hf, filter_isDigit hg] at hdigits
      cases c
      cases d
      exact congrArg mk (UInt16.toNat_inj.mp (decimal_injective hdigits))
    · rcases h with rfl | ⟨h, -⟩
      · rfl
      · exact absurd h hc

/-- No identifier has a colon. -/
theorem colon_notMem_id (c : Code) : ':'.toUInt8 ∉ c.id := by
  by_cases h : c.IsStray
  · rw [id_of_isStray h]
    decide
  · obtain ⟨f, hf, hid⟩ := exists_id_of_not_isStray h
    have hletters : ∀ f ∈ families, ':'.toUInt8 ∉ f := by decide
    rw [hid, List.mem_append]
    exact not_or.mpr ⟨hletters f hf, notMem_decimal (by decide) _⟩

end Code

namespace Diagnostic

/-- A diagnostic has the identifier and the place of another one: their codes are the same or belong
to no family. -/
def Repeats (d e : Diagnostic) : Prop :=
  (d.code = e.code ∨ d.code.IsStray ∧ e.code.IsStray) ∧ d.span = e.span

/-- A diagnostic has the code and the place of another one. -/
def Restates (d e : Diagnostic) : Prop :=
  d.code = e.code ∧ d.span = e.span

instance : DecidableRel Repeats := fun _ _ => inferInstanceAs (Decidable (_ ∧ _))

instance : DecidableRel Restates := fun _ _ => inferInstanceAs (Decidable (_ ∧ _))

/-- Diagnostics have the same key if and only if one repeats the other. -/
theorem repeatKey_eq_iff {d e : Diagnostic} : d.repeatKey = e.repeatKey ↔ d.Repeats e := by
  have hsep : utf8 ":" = [':'.toUInt8] := by decide
  rw [repeatKey, repeatKey, hsep, List.append_assoc, List.append_assoc, List.singleton_append,
    List.singleton_append, Bytes.append_cons_inj (Code.colon_notMem_id _) (Code.colon_notMem_id _),
    Code.id_eq_id_iff, Span.render_inj]
  rfl

theorem equivalence_repeats : Equivalence Repeats where
  refl _ := repeatKey_eq_iff.mp rfl
  symm h := repeatKey_eq_iff.mp (repeatKey_eq_iff.mpr h).symm
  trans h h' := repeatKey_eq_iff.mp ((repeatKey_eq_iff.mpr h).trans (repeatKey_eq_iff.mpr h'))

theorem equivalence_restates : Equivalence Restates where
  refl _ := ⟨rfl, rfl⟩
  symm h := ⟨h.1.symm, h.2.symm⟩
  trans h h' := ⟨h.1.trans h'.1, h.2.trans h'.2⟩

end Diagnostic

/-! ### Clearing in place -/

namespace Sieve

variable {ds : List Diagnostic} {i : Nat} {s : Sieve}

/-- What holds of an array that is being cleared once the places in front of an index have been
looked at: from there on it is as it was, and in front of it stand the first diagnostics of those
looked at. -/
structure Holds (ds : List Diagnostic) (i : Nat) (s : Sieve) : Prop where
  /-- No place is lost. -/
  size : s.items.toList.length = ds.length
  /-- What has not been looked at is still there. -/
  rest : s.items.toList.drop i = ds.drop i
  /-- Nothing moves to the right. -/
  kept_le : s.kept ≤ i
  /-- The first diagnostics are kept. -/
  front : s.items.toList.take s.kept = firsts Diagnostic.Repeats (ds.take i)
  /-- Their keys were seen. -/
  seen : ∀ key, key ∈ s.seen ↔ ∃ d ∈ ds.take i, d.repeatKey = key

/-- One look keeps what holds. -/
theorem Holds.look (h : s.Holds ds i) (hi : i < ds.length) : (s.look i).Holds ds (i + 1) := by
  have hitem : s.items[i]? = some ds[i] := by
    have hdrop := congrArg (fun l : List Diagnostic => l[0]?) h.rest
    simpa [hi] using hdrop
  have hrest : s.items.toList.drop (i + 1) = ds.drop (i + 1) := by
    rw [← List.drop_drop, h.rest, List.drop_drop]
  have htake : ds.take (i + 1) = ds.take i ++ [ds[i]] := List.take_succ_eq_append_getElem hi
  have hseen : ds[i].repeatKey ∈ s.seen ↔ ∃ d ∈ ds.take i, d.Repeats ds[i] := by
    simp only [h.seen, Diagnostic.repeatKey_eq_iff]
  have hkeys (key : Bytes) : (∃ d ∈ ds.take (i + 1), d.repeatKey = key) ↔
      key ∈ s.seen ∨ key = ds[i].repeatKey := by
    rw [h.seen, htake]
    simp only [List.mem_append, List.mem_singleton, or_and_right, exists_or, exists_eq_left]
    exact or_congr_right eq_comm
  rw [Sieve.look, hitem]
  dsimp only
  split
  · -- a repeat stays behind, and its key is known
    rename_i hold
    have hold : ds[i].repeatKey ∈ s.seen := by simpa using hold
    refine ⟨h.size, hrest, Nat.le_succ_of_le h.kept_le, ?_, fun key => ?_⟩
    · rw [htake, firsts_concat, if_neg (by simpa using hseen.mp hold), List.append_nil, h.front]
    · rw [hkeys]
      exact ⟨.inl, fun hkey => hkey.elim id fun heq => heq ▸ hold⟩
  · -- what moves does not reach the places that are still to be looked at
    rename_i hnew
    have hnew : ds[i].repeatKey ∉ s.seen := by simpa using hnew
    have hlt : s.kept < s.items.toList.length :=
      h.size ▸ Nat.lt_of_le_of_lt h.kept_le hi
    have hitems : (s.items.setIfInBounds s.kept ds[i]).toList = s.items.toList.set s.kept ds[i] :=
      Array.toList_setIfInBounds
    refine ⟨?_, ?_, Nat.succ_le_succ h.kept_le, ?_, fun key => ?_⟩
    · rw [hitems, List.length_set, h.size]
    · rw [hitems, List.drop_set_of_lt (Nat.lt_succ_of_le h.kept_le), hrest]
    · have hput : (s.items.toList.set s.kept ds[i]).take (s.kept + 1) =
          s.items.toList.take s.kept ++ [ds[i]] := by
        rw [List.take_succ_eq_append_getElem (by rwa [List.length_set]),
          List.take_set_of_le (Nat.le_refl _), List.getElem_set_self]
      rw [hitems, hput, h.front, htake, firsts_concat, if_pos (by simpa using mt hseen.mpr hnew)]
    · rw [hkeys, List.mem_cons, or_comm]

/-- Looking at the places in order keeps the first diagnostics. -/
theorem holds_foldl_look (ds : List Diagnostic) {n : Nat} (hn : n ≤ ds.length) :
    ((List.range n).foldl Sieve.look { items := ds.toArray }).Holds ds n := by
  induction n with
  | zero => exact ⟨rfl, rfl, Nat.le_refl _, rfl, fun key => by simp⟩
  | succ n ih =>
    rw [List.range_succ, List.foldl_append]
    exact (ih (Nat.le_of_succ_le hn)).look hn

end Sieve

namespace Bag

variable {b : Bag}

/-- A bag that is cleared of repeats keeps the first diagnostics with each key. -/
theorem items_dedup (b : Bag) :
    b.dedup.items.toList = firsts Diagnostic.Repeats b.items.toList := by
  have h := Sieve.holds_foldl_look b.items.toList (Nat.le_refl _)
  have hfront := h.front
  rw [List.take_length] at hfront
  rw [← hfront, dedup]
  simp

theorem sublist_items_dedup (b : Bag) : b.dedup.items.toList.Sublist b.items.toList := by
  rw [items_dedup]
  exact sublist_firsts _ _

/-- Clearing a bag of repeats leaves, in order, the diagnostics that no earlier one has the
identifier and the place of, and nothing else changes; clearing it again changes nothing. These are
the diagnostics without an earlier one of the same code and place if and only if the codes outside
the families are told apart by their places. -/
theorem dedup_eq_firsts (b : Bag) :
    b.dedup = { b with items := (firsts Diagnostic.Repeats b.items.toList).toArray } ∧
      b.dedup.dedup = b.dedup ∧
      (b.dedup.items.toList = firsts Diagnostic.Restates b.items.toList ↔
        ∀ d ∈ b.items.toList, ∀ e ∈ b.items.toList, d.span = e.span →
          d.code.IsStray → e.code.IsStray → d.code = e.code) := by
  have hdedup (b : Bag) :
      b.dedup = { b with items := (firsts Diagnostic.Repeats b.items.toList).toArray } := by
    rw [← items_dedup, Array.toArray_toList]
    rfl
  refine ⟨hdedup b, ?_, ?_⟩
  · rw [hdedup b.dedup, items_dedup, firsts_firsts, ← items_dedup, Array.toArray_toList]
  · rw [items_dedup, firsts_eq_firsts_iff Diagnostic.equivalence_repeats
      Diagnostic.equivalence_restates fun d e h => ⟨.inl h.1, h.2⟩]
    refine forall₄_congr fun d _ e _ => ⟨fun h hspan hd he => (h ⟨.inr ⟨hd, he⟩, hspan⟩).1, ?_⟩
    rintro h ⟨hcode | ⟨hd, he⟩, hspan⟩
    · exact ⟨hcode, hspan⟩
    · exact ⟨h hspan hd he, hspan⟩

/-- Two codes outside the families at one place: the second diagnostic repeats none with its code,
and is dropped. -/
theorem dedup_ne_firsts_strayCodes :
    let ds : List Diagnostic :=
      [.ofError ⟨0⟩ ⟨0, 0, 1⟩ (utf8 "m"), .ofError ⟨7⟩ ⟨0, 0, 1⟩ (utf8 "n")]
    let b := (Bag.new 10).addAll ds
    b.items.toList = ds ∧ firsts Diagnostic.Restates ds = ds ∧
      b.dedup.items.toList = ds.take 1 := by
  decide +kernel

end Bag

end ThreeAddress
