import Mathlib.Data.List.Perm.Subperm
import Mathlib.Data.Nat.Fib.Basic
import ThreeAddress.Proofs.Diagnostic.Bag

/-!
# What bags account for

A bag comes about by adding diagnostics, by taking over other bags and by sorting. Whatever was
added to it, or to a bag that it took over, is kept or counted as dropped, also where limits go no
further. The count is exact, but it is told as a signed word of 64 bits. A bag that is taken over
twice counts twice, so bags that take over each other in turns count up to any number in a few
steps, and from `2 ^ 63` dropped diagnostics on the word tells another number.

A bag that takes over itself is no such bag: what it drops on the way is counted in both roles.

## Main definitions

* `Bag.Course` : how a bag comes about, with the bag and with what was added on the way.
* `Bag.Accounts` : a bag accounts for diagnostics.

## Main results

* `Bag.Accounts.add`, `Bag.Accounts.merge`, `Bag.Accounts.sort` : each step keeps account.
* `Bag.total_mergeSelf` : the account of a bag that takes over itself.
* `Bag.Course.counts_added` : what a bag keeps and tells of what was added.
* `Bag.Course.not_counts_crossed` : two bags that take over each other ninety-two times.
-/

namespace ThreeAddress.Bag

variable {b c : Bag} {ds es : List Diagnostic}

/-! ### Limits -/

theorem toNat_limitOf (n : Nat) : (limitOf n).toNat = min n 65535 := by
  unfold limitOf
  split
  · rename_i h
    have hle : n ≤ 65535 := h
    rw [UInt16.toNat_ofNat_of_lt' (Nat.lt_succ_of_le hle), Nat.min_eq_left hle]
  · rename_i h
    exact (Nat.min_eq_right (Nat.le_of_not_le h)).symm

theorem limit_le (b : Bag) : b.limit.toNat ≤ 65535 :=
  Nat.le_of_lt_succ b.limit.toNat_lt

@[simp] theorem items_growTo (n : Nat) : (b.growTo n).items = b.items := by
  unfold growTo
  split <;> rfl

@[simp] theorem size_growTo (n : Nat) : (b.growTo n).size = b.size := by
  rw [size, items_growTo, size]

@[simp] theorem total_growTo (n : Nat) : (b.growTo n).total = b.total := by
  unfold growTo
  split <;> rfl

/-- A limit grows as far as it is needed and as limits go. -/
theorem limit_growTo (n : Nat) : (b.growTo n).limit.toNat = max b.limit.toNat (min n 65535) := by
  have hle := b.limit_le
  unfold growTo
  split
  · rw [toNat_limitOf]
    omega
  · omega

@[simp] theorem limit_addAll (ds : List Diagnostic) : (b.addAll ds).limit = b.limit := by
  unfold addAll
  induction ds generalizing b with
  | nil => rfl
  | cons d ds ih => rw [List.foldl_cons, ih, limit_add]

/-! ### What a bag takes over -/

theorem size_eq_length (b : Bag) : b.size = b.items.toList.length :=
  rfl

/-- A bag with what it keeps of another one, before it takes over the count. -/
def joined (b c : Bag) : Bag :=
  (b.growTo (b.size + c.size)).addAll c.items.toList

theorem limit_joined (b c : Bag) :
    (b.joined c).limit.toNat = max b.limit.toNat (min (b.size + c.size) 65535) := by
  rw [joined, limit_addAll, limit_growTo]

/-- Another bag is kept as far as the limit has room for it. -/
theorem items_joined (b c : Bag) : (b.joined c).items.toList =
    b.items.toList ++ c.items.toList.take ((b.joined c).limit.toNat - b.size) := by
  rw [joined, items_addAll, limit_addAll, items_growTo, size_growTo]

theorem size_joined (b c : Bag) :
    (b.joined c).size = b.size + min ((b.joined c).limit.toNat - b.size) c.size := by
  rw [size_eq_length, items_joined, List.length_append, List.length_take]
  rfl

theorem total_joined (b c : Bag) : (b.joined c).total = b.total + c.size := by
  rw [joined, total_addAll, total_growTo, size_eq_length]

/-- Nothing is lost as long as limits go that far. -/
theorem items_joined_of_le (h : b.size + c.size ≤ 65535) :
    (b.joined c).items.toList = b.items.toList ++ c.items.toList := by
  have hroom : c.items.toList.length ≤ (b.joined c).limit.toNat - b.size := by
    rw [limit_joined, ← size_eq_length]
    omega
  rw [items_joined, List.take_of_length_le hroom]

theorem total_merge (b c : Bag) : (b.merge c).total = b.total + c.total := by
  have hjoined : (b.joined c).size + (b.joined c).dropped = b.total + c.size := total_joined b c
  calc (b.merge c).total
    _ = (b.joined c).size + ((b.joined c).dropped + c.dropped) := rfl
    _ = b.total + (c.size + c.dropped) := by omega
    _ = b.total + c.total := rfl

/-- A bag that takes over itself counts what it drops twice: the diagnostics that find no place
under the largest limit are one more time in the account. -/
theorem total_mergeSelf (h : b.size ≤ b.limit.toNat) :
    b.mergeSelf.total = 2 * b.total + (2 * b.size - 65535) := by
  have hjoined : (b.joined b).size + (b.joined b).dropped = b.size + b.dropped + b.size :=
    total_joined b b
  have hsize := size_joined b b
  have hlimit := limit_joined b b
  have hle := b.limit_le
  calc b.mergeSelf.total
    _ = (b.joined b).size + ((b.joined b).dropped + (b.joined b).dropped) := rfl
    _ = 2 * (b.size + b.dropped) + (2 * b.size - 65535) := by omega

/-! ### Accounts -/

/-- A bag accounts for diagnostics: it keeps some of them, within its limit, and has dropped the
others. -/
structure Accounts (b : Bag) (ds : List Diagnostic) : Prop where
  /-- The limit is kept to. -/
  size_le : b.size ≤ b.limit.toNat
  /-- Every diagnostic is kept or dropped. -/
  total : b.total = ds.length
  /-- No other diagnostics are kept, and none is kept more often than it was added. -/
  kept : b.items.toList.Subperm ds

theorem accounts_new (limit : Int) : (new limit).Accounts [] where
  size_le := Nat.zero_le _
  total := rfl
  kept := List.Subperm.refl []

namespace Accounts

theorem add (h : b.Accounts ds) (d : Diagnostic) : (b.add d).Accounts (ds ++ [d]) := by
  have hitems : (b.add d).items.toList = b.items.toList ++ [d].take (b.limit.toNat - b.size) :=
    items_addAll [d]
  refine ⟨?_, ?_, ?_⟩
  · have hle := h.size_le
    rw [size_eq_length, hitems, limit_add, List.length_append, List.length_take, ← size_eq_length,
      List.length_singleton]
    omega
  · rw [total_add, h.total, List.length_append, List.length_singleton]
  · rw [hitems]
    exact h.kept.append (List.take_sublist _ _).subperm

theorem merge (hb : b.Accounts ds) (hc : c.Accounts es) : (b.merge c).Accounts (ds ++ es) where
  size_le := by
    have hsize := size_joined b c
    have hlimit := limit_joined b c
    have hle := hb.size_le
    show (b.joined c).size ≤ (b.joined c).limit.toNat
    omega
  total := by rw [total_merge, hb.total, hc.total, List.length_append]
  kept := by
    show (b.joined c).items.toList.Subperm (ds ++ es)
    rw [items_joined]
    exact hb.kept.append ((List.take_sublist _ _).subperm.trans hc.kept)

theorem sort (h : b.Accounts ds) : b.sort.Accounts ds where
  size_le := by
    rw [size_sort]
    exact h.size_le
  total := by rw [total_sort, h.total]
  kept := by
    have hperm : b.sort.items.toList.Perm b.items.toList := List.mergeSort_perm _ _
    exact hperm.subperm.trans h.kept

/-- The count of dropped diagnostics is told as it is as long as there are fewer than `2 ^ 63`. -/
theorem told_iff (h : b.Accounts ds) :
    (b.size : Int) + b.droppedWord.toInt = ds.length ↔ ds.length < 0x8000000000000000 + b.size := by
  have htotal := h.total
  rw [droppedWord, Int64.toInt_ofNat', Int.bmod_def, ← htotal, Bag.total]
  simp only [Int64.size]
  omega

end Accounts

/-- How a bag comes about. The bags that it takes over are other bags. -/
inductive Course where
  /-- An empty bag with a wanted limit. -/
  | new (limit : Int)
  /-- A diagnostic is added. -/
  | add (course : Course) (d : Diagnostic)
  /-- Another bag is taken over. -/
  | merge (course other : Course)
  /-- The bag is sorted. -/
  | sort (course : Course)

namespace Course

/-- The bag that comes about. -/
def bag : Course → Bag
  | new limit => .new limit
  | add s d => s.bag.add d
  | merge s t => s.bag.merge t.bag
  | sort s => s.bag.sort

/-- The diagnostics added to the bag or to the bags that it takes over. -/
def added : Course → List Diagnostic
  | new _ => []
  | add s d => s.added ++ [d]
  | merge s t => s.added ++ t.added
  | sort s => s.added

/-- Every bag accounts for what was added. -/
theorem accounts_bag (s : Course) : s.bag.Accounts s.added := by
  induction s with
  | new limit => exact accounts_new limit
  | add s d ih => exact ih.add d
  | merge s t ihs iht => exact ihs.merge iht
  | sort s ih => exact ih.sort

/-- A bag never keeps more than its limit, and no limit is above 65535. What it keeps and what it
has dropped are together as many as were added, in words of 64 bits; the numbers told are exactly as
many as long as fewer than `2 ^ 63` were dropped. What it keeps was added, and nothing is kept more
often than it was added. Two bags that keep at most 65535 diagnostics together are kept as a
whole. -/
theorem counts_added (s : Course) :
    s.bag.size ≤ s.bag.limit.toNat ∧ s.bag.limit.toNat ≤ 65535 ∧
      Int64.ofNat s.bag.size + s.bag.droppedWord = Int64.ofNat s.added.length ∧
      ((s.bag.size : Int) + s.bag.droppedWord.toInt = s.added.length ↔
        s.added.length < 0x8000000000000000 + s.bag.size) ∧
      s.bag.items.toList.Subperm s.added ∧
      ∀ t : Course, s.bag.size + t.bag.size ≤ 65535 →
        (s.merge t).bag.items.toList = s.bag.items.toList ++ t.bag.items.toList := by
  have h := s.accounts_bag
  refine ⟨h.size_le, s.bag.limit_le, ?_, h.told_iff, h.kept, fun t => items_joined_of_le⟩
  rw [droppedWord, ← Int64.ofNat_add, ← h.total, Bag.total]

/-- A bag with room for one of two diagnostics takes over another such bag. -/
theorem counts_added_full :
    let d : Diagnostic := .ofError .unknownChar {} (utf8 "unknown character")
    let s : Course := .add (.add (.new 1) d) d
    s.bag.size + s.bag.size ≤ 65535 ∧ (s.merge s).bag.items.toList = [d, d] ∧
      ((s.merge s).bag.size : Int) + (s.merge s).bag.droppedWord.toInt = 4 := by
  intro d s
  have hkept : s.bag.items.toList = [d] := by decide +kernel
  have hsize : s.bag.size = 1 := congrArg List.length hkept
  have hfits : s.bag.size + s.bag.size ≤ 65535 := by
    rw [hsize]
    decide
  obtain ⟨-, -, -, -, -, hmerge⟩ := counts_added s
  obtain ⟨-, -, -, htold, -⟩ := counts_added (s.merge s)
  have hitems := hmerge s hfits
  rw [hkept] at hitems
  exact ⟨hfits, hitems, htold.mpr (Nat.lt_of_lt_of_le (by decide) (Nat.le_add_right _ _))⟩

/-- Two bags of one diagnostic each, which take over each other in turns: the last one behind `n`
such steps. -/
def crossed (d : Diagnostic) : Nat → Course
  | 0 | 1 => .add (.new 1) d
  | n + 2 => .merge (crossed d n) (crossed d (n + 1))

theorem length_added_crossed (d : Diagnostic) (n : Nat) :
    (crossed d n).added.length = Nat.fib (n + 1) := by
  induction n using Nat.twoStepInduction with
  | zero => rfl
  | one => rfl
  | more n ih ih' =>
    rw [crossed, added, List.length_append, ih, ih']
    exact Nat.fib_add_two.symm

/-- After fewer than a hundred steps the numbers told are not those of the diagnostics added. -/
theorem not_counts_crossed :
    let b := (crossed default 92).bag
    (b.size : Int) + b.droppedWord.toInt ≠ (crossed default 92).added.length := by
  intro b h
  have haccounts := (crossed default 92).accounts_bag
  have hfew := haccounts.told_iff.mp h
  have hsize := Nat.le_trans haccounts.size_le (limit_le _)
  have hfib : Nat.fib 93 = 12200160415121876738 := by decide +kernel
  rw [length_added_crossed, hfib] at hfew
  omega

end Course

end ThreeAddress.Bag
