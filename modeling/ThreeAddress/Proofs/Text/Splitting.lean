import ThreeAddress.Bytes

/-!
# Splitting and joining byte strings

Fields around a separator, and byte strings in front of and behind others.

## Main results

* `Bytes.splitOn_append_cons` : splitting at a separator.
* `Bytes.splitOn_joinWith` : fields without the separator come back.
* `Bytes.strip?_append`, `Bytes.eq_append_of_strip?` : taking a front away.
-/

namespace ThreeAddress

namespace Bytes

theorem splitOn_ne_nil (sep : UInt8) (a : Bytes) : splitOn sep a ≠ [] := by
  cases a with
  | nil => simp [splitOn]
  | cons x a =>
    simp only [splitOn]
    split
    · simp
    · split <;> simp

/-- There is one field more than there are separators. -/
theorem length_splitOn (sep : UInt8) (b : Bytes) :
    (splitOn sep b).length = b.count sep + 1 := by
  induction b with
  | nil => rfl
  | cons x b ih =>
    rw [splitOn, List.count_cons]
    split
    · rw [List.length_cons, ih]
    · rw [Nat.add_zero, ← ih]
      cases hfields : splitOn sep b with
      | nil => exact absurd hfields (splitOn_ne_nil sep b)
      | cons f fs => rfl

/-- A text is split at a separator into what is split in front of it and behind it. -/
theorem splitOn_append_cons (sep : UInt8) (a b : Bytes) :
    splitOn sep (a ++ sep :: b) = splitOn sep a ++ splitOn sep b := by
  induction a with
  | nil => simp [splitOn]
  | cons x a ih =>
    simp only [List.cons_append, splitOn, ih]
    split
    · rfl
    · cases hs : splitOn sep a with
      | nil => exact absurd hs (splitOn_ne_nil sep a)
      | cons f fs => rfl

/-- No field holds the separator. -/
theorem notMem_of_mem_splitOn {sep : UInt8} {a f : Bytes} (h : f ∈ splitOn sep a) : sep ∉ f := by
  induction a generalizing f with
  | nil =>
    rw [splitOn, List.mem_singleton] at h
    simp [h]
  | cons x a ih =>
    rw [splitOn] at h
    split at h
    · rcases List.mem_cons.mp h with rfl | h
      · exact List.not_mem_nil
      · exact ih h
    · rename_i hx
      have hne : sep ≠ x := fun heq => hx (beq_iff_eq.mpr heq.symm)
      split at h
      · rw [List.mem_singleton.mp h]
        simpa using hne
      · rename_i g gs hs
        rcases List.mem_cons.mp h with rfl | h
        · simpa [hne] using ih (by rw [hs]; exact List.mem_cons_self)
        · exact ih (by rw [hs]; exact List.mem_cons_of_mem _ h)

/-- A text without the separator is one field. -/
theorem splitOn_of_notMem {sep : UInt8} {a : Bytes} (h : sep ∉ a) : splitOn sep a = [a] := by
  induction a with
  | nil => rfl
  | cons x a ih =>
    simp only [List.mem_cons, not_or] at h
    have hne : (x == sep) = false := beq_eq_false_iff_ne.mpr (Ne.symm h.1)
    simp [splitOn, ih h.2, hne]

/-- What stands in front of a text without the separator stands in front of its first field. -/
theorem exists_splitOn_append {sep : UInt8} {a : Bytes} (h : sep ∉ a) (b : Bytes) :
    ∃ f fs, splitOn sep (a ++ b) = (a ++ f) :: fs := by
  induction a with
  | nil => exact List.exists_cons_of_ne_nil (splitOn_ne_nil sep b)
  | cons x a ih =>
    simp only [List.mem_cons, not_or] at h
    obtain ⟨f, fs, hsplit⟩ := ih h.2
    have hx : (x == sep) = false := beq_false_of_ne (Ne.symm h.1)
    exact ⟨f, fs, by simp [splitOn, hx, hsplit]⟩

theorem strip?_append (p b : Bytes) : strip? p (p ++ b) = some b := by
  induction p with
  | nil => cases b <;> rfl
  | cons x p ih => simp [strip?, ih]

theorem eq_append_of_strip? {p b r : Bytes} (h : strip? p b = some r) : b = p ++ r := by
  induction p generalizing b with
  | nil => exact Option.some.inj h
  | cons x p ih =>
    cases b with
    | nil => cases h
    | cons y b =>
      rw [strip?] at h
      split at h
      · rename_i hxy
        rw [ih h, eq_of_beq hxy, List.cons_append]
      · cases h

theorem stripEnd?_append (b p : Bytes) : stripEnd? p (b ++ p) = some b := by
  simp [stripEnd?, strip?_append]

theorem mem_joinWith {x : UInt8} {sep : Bytes} {fs : List Bytes} (h : x ∈ joinWith sep fs) :
    x ∈ sep ∨ ∃ f ∈ fs, x ∈ f := by
  induction fs with
  | nil => simp [joinWith] at h
  | cons f fs ih =>
    cases fs with
    | nil => exact Or.inr ⟨f, List.mem_cons_self, h⟩
    | cons g fs =>
      rw [joinWith, List.mem_append, List.mem_append] at h
      rcases h with (hf | hsep) | hrest
      · exact Or.inr ⟨f, List.mem_cons_self, hf⟩
      · exact Or.inl hsep
      · rcases ih hrest with hsep | ⟨k, hk, hx⟩
        · exact Or.inl hsep
        · exact Or.inr ⟨k, List.mem_cons_of_mem _ hk, hx⟩

theorem infix_joinWith (sep : Bytes) {f : Bytes} {fs : List Bytes} (h : f ∈ fs) :
    f <:+: joinWith sep fs := by
  induction fs with
  | nil => simp at h
  | cons g fs ih =>
    cases fs with
    | nil =>
      obtain rfl : f = g := by simpa using h
      exact List.infix_refl _
    | cons k fs =>
      rw [joinWith]
      rcases List.mem_cons.mp h with rfl | hf
      · exact (List.prefix_append _ _).isInfix.trans (List.prefix_append _ _).isInfix
      · exact (ih hf).trans (List.suffix_append _ _).isInfix

/-- Cutting texts that are one field each changes nothing. -/
theorem flatMap_eq_self {cut : Bytes → List Bytes} {fs : List Bytes} (h : ∀ f ∈ fs, cut f = [f]) :
    fs.flatMap cut = fs := by
  induction fs with
  | nil => rfl
  | cons f fs ih =>
    rw [List.flatMap_cons, h f List.mem_cons_self, ih fun g hg => h g (List.mem_cons_of_mem _ hg)]
    rfl

/-- Fields without the separator come back when their join is split. -/
theorem splitOn_joinWith {sep : UInt8} {fs : List Bytes} (hne : fs ≠ [])
    (h : ∀ f ∈ fs, sep ∉ f) : splitOn sep (joinWith [sep] fs) = fs := by
  induction fs with
  | nil => exact absurd rfl hne
  | cons f fs ih =>
    have hf : splitOn sep f = [f] := splitOn_of_notMem (h f List.mem_cons_self)
    cases fs with
    | nil => exact hf
    | cons g fs =>
      rw [joinWith, List.append_assoc, List.singleton_append, splitOn_append_cons, hf,
        ih (List.cons_ne_nil _ _) fun k hk => h k (List.mem_cons_of_mem _ hk)]
      rfl

theorem joinWith_concat (sep : Bytes) {fs : List Bytes} (hne : fs ≠ []) (f : Bytes) :
    joinWith sep (fs ++ [f]) = joinWith sep fs ++ sep ++ f := by
  induction fs with
  | nil => exact absurd rfl hne
  | cons g fs ih =>
    cases fs with
    | nil => rfl
    | cons k fs =>
      have hrest := ih (List.cons_ne_nil _ _)
      simp only [List.cons_append] at hrest
      simp only [List.cons_append, joinWith, hrest, List.append_assoc]

end Bytes

end ThreeAddress
