import ThreeAddress.Path

/-!
# File trees

A file tree says what stands at each place below the root. A place is the list of names that leads
to it; the root itself is the empty list and always a directory.

## Main definitions

* `FileTree.get?`, `put`, `erase` : the three basic operations.
* `FileTree.eraseBelow`, `move` : operations on a whole subtree.
* `FileTree.files` : the files below a place, in the order of their places.
-/

namespace ThreeAddress

/-- What stands at a place. -/
inductive Entry where
  /-- A file with its content. -/
  | file (content : Bytes)
  /-- A directory. -/
  | directory
deriving Repr, DecidableEq, Inhabited

/-- The names that lead to a place from the root. -/
abbrev Place := List Bytes

/-- What stands at each place below the root. -/
structure FileTree where
  /-- The places with their entries. -/
  entries : List (Place × Entry) := []
deriving Repr, DecidableEq, Inhabited

namespace FileTree

/-- What stands at a place. -/
def get? (t : FileTree) (p : Place) : Option Entry :=
  if p = [] then some .directory else t.entries.lookup p

/-- Takes a place away. -/
def erase (t : FileTree) (p : Place) : FileTree :=
  ⟨t.entries.filter fun x => x.1 != p⟩

/-- Puts an entry at a place. -/
def put (t : FileTree) (p : Place) (e : Entry) : FileTree :=
  ⟨(p, e) :: (t.erase p).entries⟩

/-- Takes a place away with everything below it. -/
def eraseBelow (t : FileTree) (p : Place) : FileTree :=
  ⟨t.entries.filter fun x => !p.isPrefixOf x.1⟩

/-- Moves a place with everything below it; what stood at the target is gone. -/
def move (t : FileTree) (source target : Place) : FileTree :=
  let moved := t.entries.filterMap fun x =>
    if source.isPrefixOf x.1 then some (target ++ x.1.drop source.length, x.2) else none
  ⟨moved ++ ((t.eraseBelow source).eraseBelow target).entries⟩

/-- Compares places name by name: a directory comes in front of what is below it. -/
def placeLessEq : Place → Place → Bool
  | [], _ => true
  | _ :: _, [] => false
  | a :: p, b :: q => if a = b then placeLessEq p q else Bytes.lessEq a b

/-- The files at or below a place as seen from it, in the order of their places. -/
def files (t : FileTree) (p : Place) : List (Place × Bytes) :=
  (t.entries.filterMap fun x =>
    match x.2 with
    | .file content => if p.isPrefixOf x.1 then some (x.1.drop p.length, content) else none
    | .directory => none).mergeSort fun x y => placeLessEq x.1 y.1

theorem lookup_filter_ne {p q : Place} (h : p ≠ q) (es : List (Place × Entry)) :
    (es.filter fun x => x.1 != q).lookup p = es.lookup p := by
  induction es with
  | nil => rfl
  | cons x es ih =>
    obtain ⟨k, e⟩ := x
    by_cases hk : k = q
    · subst hk
      have hpk : (p == k) = false := by simpa using h
      simp [List.lookup_cons, hpk, ih]
    · have hkq : (k != q) = true := by simpa using hk
      simp only [List.filter_cons, hkq, if_true, List.lookup_cons, ih]

theorem lookup_filter_self (p : Place) (es : List (Place × Entry)) :
    (es.filter fun x => x.1 != p).lookup p = none := by
  induction es with
  | nil => rfl
  | cons x es ih =>
    obtain ⟨k, e⟩ := x
    by_cases hk : k = p
    · subst hk
      simpa using ih
    · have hkp : (k != p) = true := by simpa using hk
      have hpk : (p == k) = false := by simpa using fun h => hk h.symm
      simp [hkp, List.lookup_cons, hpk, ih]

/-- A place holds what was put there. -/
@[simp] theorem get?_put_self {p : Place} (h : p ≠ []) (t : FileTree) (e : Entry) :
    (t.put p e).get? p = some e := by
  simp [get?, put, h]

/-- Putting an entry at a place leaves all other places alone. -/
theorem get?_put_ne {p q : Place} (h : p ≠ q) (t : FileTree) (e : Entry) :
    (t.put q e).get? p = t.get? p := by
  have hpq : (p == q) = false := by simpa using h
  simp [get?, put, erase, List.lookup_cons, hpq, lookup_filter_ne h]

/-- Nothing stands at a place that was taken away. -/
theorem get?_erase_self {p : Place} (h : p ≠ []) (t : FileTree) : (t.erase p).get? p = none := by
  simp [get?, erase, h, lookup_filter_self]

/-- Taking a place away leaves all other places alone. -/
theorem get?_erase_ne {p q : Place} (h : p ≠ q) (t : FileTree) :
    (t.erase q).get? p = t.get? p := by
  simp [get?, erase, lookup_filter_ne h]

end FileTree

end ThreeAddress
