import ThreeAddress.DataType.Width

/-!
# Exact widths

The width of a type is computed in words of 64 bits. It is told to be exact if and only if the type
and every array in it have fewer than `2 ^ 64` bytes: an inner array that is too large is noticed
even if an outer count of 0 takes the bytes away again. Without empty arrays nothing is larger than
the whole, and the width is the exact one cut off at the largest word.

Only arrays have elements; a descriptor of another kind is as wide as its kind says, whatever it
carries. An array without an element type has no bytes.

## Main definitions

* `DataType.bytes` : the exact width of a type, from the widths of scalars.
* `DataType.arrays` : the arrays in a type.
* `DataType.exactWidth` : the exact width of a type, said in numbers alone.
* `DataType.Fits` : a type and all arrays in it have sizes of 64 bits.

## Main results

* `DataType.checkedWidth_eq_true_iff` : a width is exact if and only if every array fits.
* `DataType.checkedWidth_iff` : the checked width of a type of positive sizes is its exact width.
* `DataType.width_of_fits` : what the two widths tell of every type.
-/

namespace ThreeAddress

/-- The number of bytes of a value of a kind that is no array. -/
def TypeKind.bytes (k : TypeKind) (count : Nat) : Nat :=
  match k with
  | .int32 | .float32 => 4
  | .int64 | .float64 => 8
  | .char | .bool => 1
  | .string => count
  | _ => 0

namespace DataType

variable {t : DataType}

/-- The exact width of a type in bytes. -/
def bytes : DataType → Nat
  | leaf k n => (leafWidth k n).toNat
  | compound k n t => if k = .array then t.bytes * n.toNat else (leafWidth k n).toNat

/-- The arrays in a type, from the outermost one inwards. -/
def arrays : DataType → List DataType
  | leaf _ _ => []
  | compound k n t => if k = .array then compound k n t :: t.arrays else []

/-- The sizes of all arrays in a type are positive. -/
def Positive : DataType → Prop
  | leaf _ _ => True
  | compound _ n t => n ≠ 0 ∧ t.Positive

/-! ### Arrays and other types -/

theorem checkedWidth_array (n : UInt32) (t : DataType) :
    (array t n).checkedWidth = match t.checkedWidth with
      | (_, false) => (0, false)
      | (w, true) => (UInt64.ofNat (w.toNat * n.toNat), decide (w.toNat * n.toNat < UInt64.size)) :=
  rfl

theorem checkedWidth_of_ne {k : TypeKind} (hk : k ≠ .array) (n : UInt32) (t : DataType) :
    (compound k n t).checkedWidth = (leafWidth k n, true) := by
  unfold checkedWidth
  split
  · exact absurd rfl hk
  · rfl

theorem bytes_array (n : UInt32) (t : DataType) : (array t n).bytes = t.bytes * n.toNat :=
  if_pos rfl

theorem arrays_array (n : UInt32) (t : DataType) : (array t n).arrays = array t n :: t.arrays :=
  if_pos rfl

theorem arrays_of_ne {k : TypeKind} (hk : k ≠ .array) (n : UInt32) (t : DataType) :
    (compound k n t).arrays = [] :=
  if_neg hk

/-! ### The checked width -/

/-- A width that is exact by the check is the exact width. -/
theorem bytes_of_checkedWidth {w : UInt64} (h : t.checkedWidth = (w, true)) :
    w.toNat = t.bytes := by
  induction t generalizing w with
  | leaf k n =>
    obtain ⟨rfl, -⟩ := Prod.mk.inj h
    rfl
  | compound k n t ih =>
    by_cases hk : k = .array
    · subst hk
      rw [show compound .array n t = array t n from rfl, checkedWidth_array] at h
      split at h
      · simp at h
      · rename_i w' hw'
        simp only [Prod.mk.injEq, decide_eq_true_eq] at h
        obtain ⟨rfl, hlt⟩ := h
        rw [UInt64.toNat_ofNat_of_lt' hlt, ih hw', bytes, if_pos rfl]
    · rw [checkedWidth_of_ne hk] at h
      obtain ⟨rfl, -⟩ := Prod.mk.inj h
      rw [bytes, if_neg hk]

/-- A width is exact if and only if every array in the type has a size of 64 bits. -/
theorem checkedWidth_eq_true_iff {t : DataType} :
    t.checkedWidth.2 = true ↔ ∀ a ∈ t.arrays, a.bytes < UInt64.size := by
  induction t with
  | leaf k n => exact ⟨fun _ => List.forall_mem_nil _, fun _ => rfl⟩
  | compound k n t ih =>
    by_cases hk : k = .array
    · subst hk
      rw [show compound .array n t = array t n from rfl, arrays_array, List.forall_mem_cons, ← ih,
        checkedWidth_array, bytes_array]
      rcases hw : t.checkedWidth with ⟨w, sure⟩
      cases sure with
      | false => simp
      | true => simp [← bytes_of_checkedWidth hw]
    · rw [checkedWidth_of_ne hk, arrays_of_ne hk]
      exact ⟨fun _ => List.forall_mem_nil _, fun _ => rfl⟩

/-- An exact width is a word. -/
theorem bytes_lt_of_checkedWidth (h : t.checkedWidth.2 = true) : t.bytes < UInt64.size := by
  rw [← bytes_of_checkedWidth (Prod.ext rfl h)]
  exact t.checkedWidth.1.toNat_lt

/-- Without empty arrays no array in a type is larger than the type. -/
theorem bytes_le_of_mem_arrays (hpos : ∀ a ∈ t.arrays, 1 ≤ a.count.toNat) :
    ∀ a ∈ t.arrays, a.bytes ≤ t.bytes := by
  induction t with
  | leaf k n => exact List.forall_mem_nil _
  | compound k n t ih =>
    by_cases hk : k = .array
    · subst hk
      rw [show compound .array n t = array t n from rfl, arrays_array] at hpos ⊢
      obtain ⟨hn, hinner⟩ := List.forall_mem_cons.mp hpos
      refine List.forall_mem_cons.mpr ⟨Nat.le_refl _, fun a ha => ?_⟩
      rw [bytes_array]
      exact Nat.le_trans (ih hinner a ha) (Nat.le_mul_of_pos_right _ hn)
    · rw [arrays_of_ne hk]
      exact List.forall_mem_nil _

/-- So the whole is compared with the largest word alone. -/
theorem checkedWidth_eq_true_iff_of_pos (hpos : ∀ a ∈ t.arrays, 1 ≤ a.count.toNat) :
    t.checkedWidth.2 = true ↔ t.bytes < UInt64.size :=
  ⟨bytes_lt_of_checkedWidth, fun hlt => checkedWidth_eq_true_iff.mpr fun a ha =>
    Nat.lt_of_le_of_lt (bytes_le_of_mem_arrays hpos a ha) hlt⟩

theorem Positive.count_pos (ht : t.Positive) : ∀ a ∈ t.arrays, 1 ≤ a.count.toNat := by
  induction t with
  | leaf k n => exact List.forall_mem_nil _
  | compound k n t ih =>
    unfold arrays
    split
    · exact List.forall_mem_cons.mpr
        ⟨Nat.pos_of_ne_zero fun h => ht.1 (UInt32.toNat_inj.mp h), ih ht.2⟩
    · exact List.forall_mem_nil _

/-- For positive sizes, the check holds exactly for the types of fewer than `2 ^ 64` bytes. -/
theorem checkedWidth_iff {t : DataType} (ht : t.Positive) :
    (∃ w, t.checkedWidth = (w, true)) ↔ t.bytes < UInt64.size := by
  rw [← checkedWidth_eq_true_iff_of_pos ht.count_pos]
  exact ⟨fun ⟨w, hw⟩ => by rw [hw], fun h => ⟨_, Prod.ext rfl h⟩⟩

/-! ### What the widths tell -/

/-- The exact width of a type: an array has the bytes of its elements together. -/
def exactWidth : DataType → Nat
  | leaf k n => k.bytes n.toNat
  | compound .array n t => n.toNat * t.exactWidth
  | compound k n _ => k.bytes n.toNat

theorem toNat_leafWidth (k : TypeKind) (n : UInt32) :
    (leafWidth k n).toNat = k.bytes n.toNat := by
  cases k with
  | string => exact UInt32.toNat_toUInt64 n
  | _ => rfl

theorem bytes_eq_exactWidth (t : DataType) : t.bytes = t.exactWidth := by
  induction t with
  | leaf k n => exact toNat_leafWidth k n
  | compound k n t ih =>
    by_cases hk : k = .array
    · subst hk
      rw [bytes, if_pos rfl, exactWidth, ih, Nat.mul_comm]
    · rw [bytes, if_neg hk, toNat_leafWidth]
      cases k with
      | array => exact absurd rfl hk
      | _ => rfl

/-- A type and all arrays in it have sizes of 64 bits. -/
def Fits (t : DataType) : Prop :=
  t.exactWidth < UInt64.size ∧ ∀ a ∈ t.arrays, a.exactWidth < UInt64.size

theorem checkedWidth_eq_true_iff_fits : t.checkedWidth.2 = true ↔ t.Fits := by
  have harrays : t.checkedWidth.2 = true ↔ ∀ a ∈ t.arrays, a.exactWidth < UInt64.size := by
    simp only [checkedWidth_eq_true_iff, bytes_eq_exactWidth]
  refine ⟨fun h => ⟨?_, harrays.mp h⟩, fun h => harrays.mpr h.2⟩
  rw [← bytes_eq_exactWidth]
  exact bytes_lt_of_checkedWidth h

theorem width_of_checkedWidth (t : DataType) :
    t.width = if t.checkedWidth.2 then t.checkedWidth.1 else 0xFFFFFFFFFFFFFFFF := by
  rcases h : t.checkedWidth with ⟨w, sure⟩
  cases sure with
  | false => simp [width, h]
  | true => simp [width, h]

/-- The checked width is exact if and only if the type and all arrays in it have sizes of 64 bits,
and then it is the exact width. The other width is the exact one as well then, and the largest word
otherwise; if no array is empty, it is the exact width cut off at the largest word. -/
theorem width_of_fits (t : DataType) :
    (t.checkedWidth.2 = true ↔ t.Fits) ∧
      (t.Fits → t.checkedWidth.1.toNat = t.exactWidth ∧ t.width.toNat = t.exactWidth) ∧
      (¬t.Fits → t.width.toNat = UInt64.size - 1) ∧
      ((∀ a ∈ t.arrays, 1 ≤ a.count.toNat) →
        t.width.toNat = min t.exactWidth (UInt64.size - 1)) := by
  have hsure : t.Fits → t.checkedWidth.1.toNat = t.exactWidth ∧ t.width.toNat = t.exactWidth := by
    intro h
    have hchecked := checkedWidth_eq_true_iff_fits.mpr h
    have hexact : t.checkedWidth.1.toNat = t.exactWidth := by
      rw [← bytes_eq_exactWidth]
      exact bytes_of_checkedWidth (Prod.ext rfl hchecked)
    rw [width_of_checkedWidth, if_pos hchecked]
    exact ⟨hexact, hexact⟩
  have hcut : ¬t.Fits → t.width.toNat = UInt64.size - 1 := by
    intro h
    rw [width_of_checkedWidth, if_neg (mt checkedWidth_eq_true_iff_fits.mp h)]
    rfl
  refine ⟨checkedWidth_eq_true_iff_fits, hsure, hcut, fun hpos => ?_⟩
  have hwhole : t.Fits ↔ t.exactWidth < UInt64.size := by
    rw [← checkedWidth_eq_true_iff_fits, checkedWidth_eq_true_iff_of_pos hpos, bytes_eq_exactWidth]
  by_cases h : t.Fits
  · rw [(hsure h).2, Nat.min_eq_left (Nat.le_sub_one_of_lt h.1)]
  · rw [hcut h, Nat.min_eq_right (Nat.le_trans (Nat.sub_le _ _) (Nat.not_lt.mp (mt hwhole.mpr h)))]

/-- A square of words beyond 64 bits, three times over and not at all. -/
theorem width_of_fits_square :
    let square := array (array int64 0xFFFFFFFF) 0xFFFFFFFF
    ¬square.Fits ∧ (∀ a ∈ (array square 3).arrays, 1 ≤ a.count.toNat) ∧
      (array square 3).width.toNat = min (array square 3).exactWidth (UInt64.size - 1) ∧
      (array square 0).exactWidth = 0 ∧ (array square 0).width.toNat = UInt64.size - 1 := by
  intro square
  have hsquare : ¬square.Fits := fun h => absurd h.1 (by decide)
  have hempty : ¬(array square 0).Fits := fun h => absurd (h.2 square (by decide)) (by decide)
  have hpos : ∀ a ∈ (array square 3).arrays, 1 ≤ a.count.toNat := by decide
  obtain ⟨-, -, -, hthree⟩ := width_of_fits (array square 3)
  obtain ⟨-, -, hzero, -⟩ := width_of_fits (array square 0)
  exact ⟨hsquare, hpos, hthree hpos, Nat.zero_mul _, hzero hempty⟩

end DataType

end ThreeAddress
