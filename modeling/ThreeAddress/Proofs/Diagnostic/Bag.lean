import ThreeAddress.Analysis

/-!
# What a bag keeps

A bag keeps the first diagnostics that it is handed, up to its limit. Warnings and errors compete
for the same places.

## Main definitions

* `Bag.total` : the number of diagnostics that a bag was handed.

## Main results

* `Bag.items_addAll` : what is kept of a list.
* `Bag.total_addAll` : a list is handed as a whole.
* `Outcome.items_deliver` : what a fresh bag keeps of an analysis.
-/

namespace ThreeAddress

namespace Bag

variable {b : Bag}

@[simp] theorem limit_add (d : Diagnostic) : (b.add d).limit = b.limit := by
  unfold add
  split <;> rfl

/-- A bag keeps the first diagnostics of a list, as many as there is room for. -/
theorem items_addAll (ds : List Diagnostic) :
    (b.addAll ds).items.toList = b.items.toList ++ ds.take (b.limit.toNat - b.size) := by
  unfold addAll
  induction ds generalizing b with
  | nil => simp
  | cons d ds ih =>
    rw [List.foldl_cons, ih, limit_add]
    by_cases hroom : b.items.size < b.limit.toNat
    · have hadd : b.add d = { b with items := b.items.push d } := by simp [add, hasRoom, hroom]
      obtain ⟨n, hn⟩ : ∃ n, b.limit.toNat - b.items.size = n + 1 :=
        Nat.exists_eq_add_one.mpr (by omega)
      have hrest : b.limit.toNat - (b.items.push d).size = n := by
        rw [Array.size_push]
        omega
      rw [hadd, size, size, hrest, hn, List.take_succ_cons]
      simp
    · have hadd : b.add d = { b with dropped := b.dropped + 1 } := by simp [add, hasRoom, hroom]
      have hfull : b.limit.toNat - b.items.size = 0 := by omega
      rw [hadd, size, size, hfull, List.take_zero, List.take_zero]

/-- A new bag takes at least one diagnostic. -/
theorem limit_new_pos (n : Int) : 0 < (new n).limit.toNat := by
  unfold new limitOf
  dsimp only
  split
  · decide
  · split
    · rename_i hpos hle
      rw [UInt16.toNat_ofNat_of_lt' (Nat.lt_of_le_of_lt hle (by decide))]
      omega
    · decide

theorem hasErrors_eq_true :
    b.hasErrors = true ↔ ∃ d ∈ b.items.toList, d.severity.isError = true := by
  rw [hasErrors, ← Array.any_toList, List.any_eq_true]

@[simp] theorem hasErrors_sort : b.sort.hasErrors = b.hasErrors := by
  rw [Bool.eq_iff_iff, hasErrors_eq_true, hasErrors_eq_true]
  simp [sort, List.mem_mergeSort]

@[simp] theorem size_sort : b.sort.size = b.size := by
  simp [sort, size]

theorem sort_new (n : Int) : (new n).sort = new n := by
  simp [sort, new]

theorem mem_items_sort {d : Diagnostic} : d ∈ b.sort.items.toList ↔ d ∈ b.items.toList := by
  simp [sort, List.mem_mergeSort]

/-- The number of diagnostics that a bag was handed: those that it keeps and those that it
dropped. -/
def total (b : Bag) : Nat :=
  b.size + b.dropped

theorem total_add (b : Bag) (d : Diagnostic) : (b.add d).total = b.total + 1 := by
  unfold add total size
  split
  · dsimp only
    rw [Array.size_push]
    omega
  · rfl

theorem total_addAll (b : Bag) (ds : List Diagnostic) :
    (b.addAll ds).total = b.total + ds.length := by
  unfold addAll
  induction ds generalizing b with
  | nil => rfl
  | cons d ds ih =>
    rw [List.foldl_cons, ih, total_add, List.length_cons]
    omega

@[simp] theorem total_sort (b : Bag) : b.sort.total = b.total := by
  rw [total, size_sort]
  rfl

end Bag

theorem Dedup.sublist_filter (r : Dedup) (ds : List Diagnostic) : (r.filter ds).Sublist ds := by
  induction ds generalizing r with
  | nil => exact List.Sublist.refl _
  | cons d ds ih =>
    rw [filter]
    split
    · exact (ih _).cons_cons d
    · exact (ih _).cons d

/-- A diagnostic that passes a channel was reported. -/
theorem Channel.exists_report {c : Channel} {rs : List Report} {d : Diagnostic}
    (h : d ∈ c.select rs) : ∃ r ∈ rs, r.diagnostic = d := by
  have hmem : d ∈ (rs.filter fun r => c.admits r.origin).map Report.diagnostic := by
    unfold select at h
    dsimp only at h
    split at h
    · exact (Dedup.sublist_filter _ _).subset h
    · exact h
  obtain ⟨r, hr, rfl⟩ := List.mem_map.mp hmem
  exact ⟨r, List.filter_sublist.subset hr, rfl⟩

/-- The diagnostics that a bag is handed of reports: repeats are left out. -/
def handed (rs : List Report) : List Diagnostic :=
  Dedup.filter {} (rs.map Report.diagnostic)

theorem handed_ne_nil {rs : List Report} (h : rs ≠ []) : handed rs ≠ [] := by
  cases rs with
  | nil => exact absurd rfl h
  | cons r rs => simp [handed, Dedup.filter, Dedup.pass]

theorem Channel.select_dedup (rs : List Report) :
    ({ dedup := true } : Channel).select rs = handed rs := by
  have hall : rs.filter (fun r => ({ dedup := true } : Channel).admits r.origin) = rs :=
    List.filter_eq_self.mpr fun r _ => by cases r.origin <;> rfl
  rw [select, hall]
  rfl

/-- A fresh bag keeps the first diagnostics that it is handed of an analysis. -/
theorem Outcome.items_deliver (out : Outcome) (n : Int) :
    (out.deliver { dedup := true } (Bag.new n)).items.toList =
      (handed out.reports).take (Bag.new n).limit.toNat := by
  rw [Outcome.deliver, Channel.select_dedup, Bag.items_addAll]
  rfl

/-- A fresh bag keeps nothing of an analysis only if nothing was reported. -/
theorem Outcome.reports_of_size_deliver {out : Outcome} {n : Int}
    (h : (out.deliver { dedup := true } (Bag.new n)).size = 0) : out.reports = [] := by
  refine Classical.byContradiction fun hreports => ?_
  have hlimit := Bag.limit_new_pos n
  have hitems := items_deliver out n
  rw [List.eq_nil_of_length_eq_zero (Array.length_toList.trans h)] at hitems
  rcases List.take_eq_nil_iff.mp hitems.symm with hzero | hnil
  · omega
  · exact handed_ne_nil hreports hnil

end ThreeAddress
