import ThreeAddress.Proofs.Text.Splitting
import ThreeAddress.Source.Load

/-!
# Loading sources

A file is taken into a set without a byte order mark, and every pair of a carriage return and a
newline in it becomes a newline. The pairs are replaced in one pass. A further carriage return in
front of a pair is no part of it and is kept, and so it makes up a new pair with the newline that
the old one became. Those are all the pairs that are left in what is stored.

## Main definitions

* `returnPair` : a carriage return and a newline.

## Main results

* `plainNewlines_eq_self_iff` : a content is kept as it is if it holds no pair.
* `returnPair_infix_plainNewlines` : what pairs are left in.
* `FileSet.get?_add` : a file that is added to a set is found in it.
* `FileSet.exists_load_plain` : when what is stored holds a pair.
-/

namespace ThreeAddress

/-- A carriage return and a newline. -/
def returnPair : Bytes := ['\r'.toUInt8, '\n'.toUInt8]

section Contents

variable {b : UInt8} {c v : Bytes}

/-! ### Newlines -/

theorem returnPair_prefix_cons :
    returnPair <+: b :: c ↔ b = '\r'.toUInt8 ∧ c.head? = some '\n'.toUInt8 := by
  rw [returnPair, List.cons_prefix_cons, eq_comm]
  cases c with
  | nil => simp
  | cons x c => simp [List.cons_prefix_cons, eq_comm]

theorem plainNewlines_of_pair (h : returnPair <+: b :: c) :
    plainNewlines (b :: c) = plainNewlines c := by
  obtain ⟨rfl, hc⟩ := returnPair_prefix_cons.mp h
  rw [plainNewlines, if_pos]
  simp [hc]

theorem plainNewlines_of_not_pair (h : ¬returnPair <+: b :: c) :
    plainNewlines (b :: c) = b :: plainNewlines c := by
  rw [plainNewlines, if_neg]
  simpa [returnPair_prefix_cons] using h

/-- Other bytes than carriage returns are kept. -/
theorem plainNewlines_cons (h : b ≠ '\r'.toUInt8) (c : Bytes) :
    plainNewlines (b :: c) = b :: plainNewlines c :=
  plainNewlines_of_not_pair fun hpair => h (returnPair_prefix_cons.mp hpair).1

theorem sublist_plainNewlines (c : Bytes) : (plainNewlines c).Sublist c := by
  induction c with
  | nil => exact List.Sublist.slnil
  | cons b c ih =>
    by_cases hpair : returnPair <+: b :: c
    · rw [plainNewlines_of_pair hpair]
      exact ih.cons b
    · rw [plainNewlines_of_not_pair hpair]
      exact ih.cons_cons b

/-- A content is kept as it is if and only if it holds no pair. -/
theorem plainNewlines_eq_self_iff : plainNewlines c = c ↔ ¬returnPair <:+: c := by
  induction c with
  | nil => simp [plainNewlines, returnPair]
  | cons b c ih =>
    by_cases hpair : returnPair <+: b :: c
    · rw [plainNewlines_of_pair hpair]
      have hle := (sublist_plainNewlines c).length_le
      refine ⟨fun heq => ?_, fun hnone => absurd hpair.isInfix hnone⟩
      rw [heq, List.length_cons] at hle
      exact absurd hle (Nat.not_succ_le_self _)
    · rw [plainNewlines_of_not_pair hpair, List.cons_inj_right, ih, List.infix_cons_iff]
      simp [hpair]

/-- What is left begins with a newline if the content does, or if it begins with a pair. -/
theorem head?_plainNewlines : (plainNewlines c).head? = some '\n'.toUInt8 ↔
    c.head? = some '\n'.toUInt8 ∨ returnPair <+: c := by
  cases c with
  | nil => simp [plainNewlines, returnPair]
  | cons b c =>
    by_cases hpair : returnPair <+: b :: c
    · obtain ⟨-, hc⟩ := returnPair_prefix_cons.mp hpair
      obtain ⟨rest, rfl⟩ := List.head?_eq_some_iff.mp hc
      rw [plainNewlines_of_pair hpair, plainNewlines_cons (by decide)]
      simp [hpair]
    · rw [plainNewlines_of_not_pair hpair]
      simp [hpair]

/-- A pair is left where a further carriage return stood in front of one. -/
theorem returnPair_infix_plainNewlines :
    returnPair <:+: plainNewlines c ↔ '\r'.toUInt8 :: returnPair <:+: c := by
  induction c with
  | nil => simp [plainNewlines, returnPair]
  | cons b c ih =>
    by_cases hpair : returnPair <+: b :: c
    · obtain ⟨-, hc⟩ := returnPair_prefix_cons.mp hpair
      have hnone : ¬ '\r'.toUInt8 :: returnPair <+: b :: c := by
        rw [List.cons_prefix_cons]
        rintro ⟨-, rest, rfl⟩
        exact absurd (Option.some.inj hc) (by decide)
      rw [plainNewlines_of_pair hpair, ih, List.infix_cons_iff]
      simp only [hnone, false_or]
    · have hfront :
          returnPair <+: b :: plainNewlines c ↔ '\r'.toUInt8 :: returnPair <+: b :: c := by
        rw [returnPair_prefix_cons, head?_plainNewlines, List.cons_prefix_cons, eq_comm]
        refine and_congr_right fun hb => or_iff_right fun hc => ?_
        exact hpair (returnPair_prefix_cons.mpr ⟨hb.symm, hc⟩)
      rw [plainNewlines_of_not_pair hpair, List.infix_cons_iff, hfront, ih,
        ← List.infix_cons_iff]

/-! ### Byte order marks -/

theorem fst_normalize_of_unmarked (h : ¬byteOrderMark <+: c) :
    (normalize c).1 = plainNewlines c := by
  rw [normalize]
  cases hstrip : Bytes.strip? byteOrderMark c with
  | none => rfl
  | some rest => exact absurd ⟨rest, (Bytes.eq_append_of_strip? hstrip).symm⟩ h

theorem fst_normalize_append (c : Bytes) :
    (normalize (byteOrderMark ++ c)).1 = plainNewlines c := by
  rw [normalize, Bytes.strip?_append]

/-- A byte order mark is no part of what begins with a carriage return. -/
theorem infix_byteOrderMark_append (p c : Bytes) :
    '\r'.toUInt8 :: p <:+: byteOrderMark ++ c ↔ '\r'.toUInt8 :: p <:+: c := by
  have hskip {x : UInt8} (hx : '\r'.toUInt8 ≠ x) (rest : Bytes) :
      '\r'.toUInt8 :: p <:+: x :: rest ↔ '\r'.toUInt8 :: p <:+: rest := by
    rw [List.infix_cons_iff]
    exact or_iff_right fun hfront => hx (List.cons_prefix_cons.mp hfront).1
  show _ <:+: 0xEF :: 0xBB :: 0xBF :: c ↔ _
  rw [hskip (by decide), hskip (by decide), hskip (by decide)]

/-- What is left of a content is the content without a byte order mark, with its pairs replaced. -/
theorem exists_fst_normalize (v : Bytes) : ∃ c, (normalize v).1 = plainNewlines c ∧
    ∀ p, '\r'.toUInt8 :: p <:+: v ↔ '\r'.toUInt8 :: p <:+: c := by
  by_cases hmark : byteOrderMark <+: v
  · obtain ⟨c, rfl⟩ := hmark
    exact ⟨c, fst_normalize_append c, fun p => infix_byteOrderMark_append p c⟩
  · exact ⟨v, fst_normalize_of_unmarked hmark, fun _ => Iff.rfl⟩

end Contents

/-! ### Single files -/

section Files

variable {fs : FileSystem} {c path v : Bytes}

/-- What is loaded is what is left of the content. -/
theorem SourceFile.load_of_normalize (h : fs.read path = .ok v) (hv : (normalize v).1 = c) :
    SourceFile.load fs path = .ok (.ofContent 0 path c (normalize v).2) := by
  rw [SourceFile.load, h, ← hv]
  rfl

end Files

/-! ### Files of a set -/

namespace FileSet

variable {s : FileSet} {fs : FileSystem} {c path v : Bytes}

/-- A file that is added to a set is found under its number. -/
theorem get?_add (h : s.files.size < UInt32.size) (path content : Bytes) (flags : FileFlags) :
    (s.add path content flags).2.get? (s.add path content flags).1 =
      some (.ofContent (s.add path content flags).1 path content flags) := by
  show (s.files.push _)[(UInt32.ofNat s.files.size).toNat]? = _
  rw [UInt32.toNat_ofNat_of_lt' h, Array.getElem?_push_size]
  rfl

/-- What is loaded into a set is what is left of the content. -/
theorem load_of_normalize (h : fs.read path = .ok v) (hv : (normalize v).1 = c)
    (s : FileSet) : s.load fs path = .ok (s.add path c (normalize v).2) := by
  rw [load, h, ← hv]
  rfl

/-- A file is loaded into a set. What is stored holds a pair of a carriage return and a newline if
and only if a further carriage return stands in front of a pair in the file; and otherwise replacing
the pairs of what is stored changes nothing. -/
theorem exists_load_plain (hread : fs.read path = .ok v) (hsize : s.files.size < UInt32.size) :
    ∃ id t f, s.load fs path = .ok (id, t) ∧ t.get? id = some f ∧
      (returnPair <:+: f.content ↔ '\r'.toUInt8 :: returnPair <:+: v) ∧
      (plainNewlines f.content = f.content ↔ ¬ '\r'.toUInt8 :: returnPair <:+: v) := by
  obtain ⟨c, hnormal, hinfix⟩ := exists_fst_normalize v
  have hpair : returnPair <:+: plainNewlines c ↔ '\r'.toUInt8 :: returnPair <:+: v := by
    rw [returnPair_infix_plainNewlines, hinfix]
  refine ⟨_, _, _, load_of_normalize hread hnormal s, get?_add hsize _ _ _, hpair, ?_⟩
  exact plainNewlines_eq_self_iff.trans (not_congr hpair)

/-- A source with a byte order mark and pairs at the ends of its lines. -/
theorem exists_load_plain_marked :
    let v := utf8 "\uFEFFa;\r\nb;\r\n"
    let fs : FileSystem := { tree := ⟨[([utf8 "a.ez"], .file v)]⟩ }
    fs.read (utf8 "a.ez") = .ok v ∧ ({} : FileSet).files.size < UInt32.size ∧
      ∃ id t f, ({} : FileSet).load fs (utf8 "a.ez") = .ok (id, t) ∧ t.get? id = some f ∧
        ¬returnPair <:+: f.content ∧ plainNewlines f.content = f.content := by
  intro v fs
  have hread : fs.read (utf8 "a.ez") = .ok v := rfl
  have hsize : ({} : FileSet).files.size < UInt32.size := by decide
  have hnone : ¬ '\r'.toUInt8 :: returnPair <:+: v := by decide +kernel
  obtain ⟨id, t, f, hload, hfile, hpair, hplain⟩ := exists_load_plain hread hsize
  exact ⟨hread, hsize, id, t, f, hload, hfile, mt hpair.mp hnone, hplain.mpr hnone⟩

/-- A line that ends with two carriage returns and a newline is stored with a pair at its end. -/
theorem load_doubledReturn :
    let v := utf8 "a;\r\r\nb;"
    let fs : FileSystem := { tree := ⟨[([utf8 "a.ez"], .file v)]⟩ }
    ∃ id t f, ({} : FileSet).load fs (utf8 "a.ez") = .ok (id, t) ∧ t.get? id = some f ∧
      f.content = utf8 "a;\r\nb;" ∧ returnPair <:+: f.content ∧
      plainNewlines f.content = utf8 "a;\nb;" ∧ plainNewlines f.content ≠ f.content := by
  intro v fs
  have hread : fs.read (utf8 "a.ez") = .ok v := rfl
  have hnormal : (normalize v).1 = utf8 "a;\r\nb;" := by decide +kernel
  have hpair : returnPair <:+: utf8 "a;\r\nb;" := by decide +kernel
  have hagain : plainNewlines (utf8 "a;\r\nb;") = utf8 "a;\nb;" := by decide +kernel
  exact ⟨_, _, _, load_of_normalize hread hnormal {}, get?_add (by decide) _ _ _, rfl, hpair,
    hagain, fun heq => plainNewlines_eq_self_iff.mp heq hpair⟩

end FileSet

end ThreeAddress
