import ThreeAddress.Text.Fields

/-!
# Fields around blanks

A byte below `0x80` stands for itself wherever it occurs: no encoding of a longer character runs
into it. So a text falls apart at every blank, and a text without white space is one field.

## Main definitions

* `Spaceless` : no character of a text is white space.

## Main results

* `Utf8.pieces_append_ascii` : the pieces of a text split at an ASCII byte.
* `Fields.split_append_blank` : the fields around a blank.
* `Fields.split_of_spaceless` : a text without white space is one field.
-/

namespace ThreeAddress

namespace Utf8

/-- An encoding takes no more bytes than there are. -/
theorem size_le_of_encoding? {bs : Bytes} {c : Char} {n : Nat} (h : encoding? bs = some (c, n)) :
    0 < n ∧ n ≤ bs.length := by
  rcases bs with _ | ⟨b0, _ | ⟨b1, _ | ⟨b2, _ | ⟨b3, rest⟩⟩⟩⟩
  · cases h
  all_goals
    simp only [encoding?] at h
    repeat' split at h
    all_goals cases h <;> simp

/-- An encoding does not run into a byte below `0x80`. -/
theorem encoding?_append_ascii {x : UInt8} (hx : x < 0x80) (b : UInt8) (a r : Bytes) :
    encoding? (b :: (a ++ x :: r)) = encoding? (b :: a) := by
  have hcont (lo hi : UInt8) (hlo : 0x80 ≤ lo) : between lo hi x = false := by
    simp only [between, Bool.and_eq_false_iff, decide_eq_false_iff_not]
    left
    intro hle
    exact absurd (UInt8.lt_of_lt_of_le hx (UInt8.le_trans hlo hle)) (UInt8.lt_irrefl _)
  have h0 : between 0x80 0xBF x = false := hcont _ _ (by decide)
  have hE (hi : UInt8) : between (if b = 0xE0 then 0xA0 else 0x80) hi x = false := by
    apply hcont
    split <;> decide
  have hF (hi : UInt8) : between (if b = 0xF0 then 0x90 else 0x80) hi x = false := by
    apply hcont
    split <;> decide
  -- what follows the first byte matters for three bytes at most
  rcases a with _ | ⟨a1, _ | ⟨a2, _ | ⟨a3, a⟩⟩⟩
  · cases r with
    | nil => simp [encoding?, h0]
    | cons r1 r =>
      cases r with
      | nil => simp [encoding?, h0, hE]
      | cons r2 r => simp [encoding?, h0, hE, hF]
  · cases r <;> simp [encoding?, h0]
  · simp [encoding?, h0]
  · simp [encoding?]

theorem piecesFrom_append_ascii {x : UInt8} (hx : x < 0x80) (r : Bytes) (a : Bytes) :
    ∀ k ≤ a.length, piecesFrom k (a ++ x :: r) = piecesFrom k a ++ pieces (x :: r) := by
  induction a with
  | nil =>
    intro k hk
    obtain rfl : k = 0 := by simpa using hk
    rfl
  | cons b a ih =>
    intro k hk
    cases k with
    | succ k => exact ih k (by simpa using hk)
    | zero =>
      simp only [List.cons_append, piecesFrom, encoding?_append_ascii hx]
      cases he : encoding? (b :: a) with
      | none => simp [ih 0 (Nat.zero_le _)]
      | some p =>
        obtain ⟨c, n⟩ := p
        have hn := (size_le_of_encoding? he).2
        have hpos := (size_le_of_encoding? he).1
        simp only [List.length_cons] at hn
        have htake : (b :: (a ++ x :: r)).take n = (b :: a).take n := by
          rw [← List.cons_append, List.take_append_of_le_length (by simpa using hn)]
        simp only [htake, ih (n - 1) (by omega), List.cons_append]

/-- The pieces of a text split at a byte below `0x80`. -/
theorem pieces_append_ascii {x : UInt8} (hx : x < 0x80) (a r : Bytes) :
    pieces (a ++ x :: r) = pieces a ++ pieces (x :: r) :=
  piecesFrom_append_ascii hx r a 0 (Nat.zero_le _)

/-- A byte below `0x80` is a piece of its own. -/
theorem pieces_cons_ascii {x : UInt8} (hx : x < 0x80) (r : Bytes) :
    pieces (x :: r) = ⟨Char.ofNat x.toNat, [x], true⟩ :: pieces r := by
  simp [pieces, piecesFrom, encoding?, hx]

theorem flatMap_bytes_piecesFrom (b : Bytes) :
    ∀ k, (piecesFrom k b).flatMap Piece.bytes = b.drop k := by
  induction b with
  | nil =>
    intro k
    cases k <;> simp [piecesFrom]
  | cons x b ih =>
    intro k
    cases k with
    | succ k => simpa [piecesFrom] using ih k
    | zero =>
      simp only [piecesFrom]
      cases he : encoding? (x :: b) with
      | none => simp [ih 0]
      | some p =>
        obtain ⟨c, n⟩ := p
        have hpos := (size_le_of_encoding? he).1
        obtain ⟨n, rfl⟩ : ∃ m, n = m + 1 := ⟨n - 1, by omega⟩
        simp [ih n, List.take_append_drop]

/-- The pieces of a text put back together are the text. -/
theorem flatMap_bytes_pieces (b : Bytes) : (pieces b).flatMap Piece.bytes = b :=
  flatMap_bytes_piecesFrom b 0

end Utf8

/-- A text none of whose characters is white space. -/
def Spaceless (b : Bytes) : Prop :=
  ∀ p ∈ Utf8.pieces b, (p.valid && Fields.isSpace p.char) = false

instance (b : Bytes) : Decidable (Spaceless b) :=
  inferInstanceAs (Decidable (∀ p ∈ Utf8.pieces b, _))

/-- A text without white space holds no newline. -/
theorem Spaceless.newline_notMem {b : Bytes} (h : Spaceless b) : '\n'.toUInt8 ∉ b := by
  intro hmem
  obtain ⟨a, r, rfl⟩ := List.append_of_mem hmem
  have hp := h ⟨Char.ofNat '\n'.toUInt8.toNat, ['\n'.toUInt8], true⟩ (by
    rw [Utf8.pieces_append_ascii (by decide), Utf8.pieces_cons_ascii (by decide)]
    exact List.mem_append_right _ List.mem_cons_self)
  exact absurd hp (by decide)

/-- A visible ASCII character is no white space. -/
theorem isSpace_of_visible {n : Nat} (hlo : 0x20 < n) (hhi : n < 0x7F) :
    Fields.isSpace (Char.ofNat n) = false := by
  have hall : ∀ m < 0x7F, 0x20 < m → Fields.isSpace (Char.ofNat m) = false := by decide
  exact hall n hhi hlo

/-- A text of visible ASCII characters holds no white space. -/
theorem spaceless_of_visible {b : Bytes} (h : ∀ x ∈ b, 0x20 < x ∧ x < 0x7F) : Spaceless b := by
  induction b with
  | nil => simp [Spaceless, Utf8.pieces, Utf8.piecesFrom]
  | cons x b ih =>
    obtain ⟨hlo, hhi⟩ := h x List.mem_cons_self
    have htail := ih fun y hy => h y (List.mem_cons_of_mem _ hy)
    have hascii : x < 0x80 := UInt8.lt_trans hhi (by decide)
    intro p hp
    rw [Utf8.pieces_cons_ascii hascii, List.mem_cons] at hp
    rcases hp with rfl | hp
    · rw [isSpace_of_visible (UInt8.lt_iff_toNat_lt.mp hlo) (UInt8.lt_iff_toNat_lt.mp hhi)]
      rfl
    · exact htail p hp

namespace Fields

theorem splitPieces_append {s : Utf8.Piece} (hs : (s.valid && isSpace s.char) = true)
    (qs ps : List Utf8.Piece) (field : Bytes) :
    splitPieces field (ps ++ s :: qs) = splitPieces field ps ++ splitPieces [] qs := by
  induction ps generalizing field with
  | nil =>
    simp only [List.nil_append, splitPieces, hs, if_true, close]
    split <;> simp
  | cons p ps ih =>
    simp only [List.cons_append, splitPieces]
    split
    · simp only [close, ih]
      split <;> simp
    · exact ih _

/-- The fields of a text with an ASCII white space byte in it are those in front of it and those
behind it. -/
theorem split_append_space {x : UInt8} (hx : x < 0x80)
    (hs : isSpace (Char.ofNat x.toNat) = true) (a r : Bytes) :
    split (a ++ x :: r) = split a ++ split r := by
  simp only [split, Utf8.pieces_append_ascii hx, Utf8.pieces_cons_ascii hx]
  exact splitPieces_append (by simpa using hs) _ _ _

/-- The fields of two texts with a blank between them. -/
theorem split_append_blank (a r : Bytes) : split (a ++ utf8 " " ++ r) = split a ++ split r := by
  have hblank : utf8 " " = [0x20] := by decide
  rw [hblank, List.append_assoc, List.singleton_append]
  exact split_append_space (by decide) (by decide) a r

theorem mem_close {f field : Bytes} {fields : List Bytes} (h : f ∈ close field fields) :
    f = field ∨ f ∈ fields := by
  unfold close at h
  split at h
  · exact .inr h
  · exact List.mem_cons.mp h

theorem sublist_of_mem_splitPieces {f : Bytes} {ps : List Utf8.Piece} :
    ∀ {field : Bytes}, f ∈ splitPieces field ps →
      f.Sublist (field ++ ps.flatMap Utf8.Piece.bytes) := by
  induction ps with
  | nil =>
    intro field h
    obtain rfl : f = field := by simpa using mem_close h
    exact List.sublist_append_left _ _
  | cons p ps ih =>
    intro field h
    rw [splitPieces] at h
    rw [List.flatMap_cons]
    split at h
    · rcases mem_close h with rfl | h
      · exact List.sublist_append_left _ _
      · exact (ih h).trans ((List.sublist_append_right _ _).trans (List.sublist_append_right _ _))
    · rw [← List.append_assoc]
      exact ih h

/-- The bytes of a field stand in the text in the same order. -/
theorem sublist_of_mem_split {f b : Bytes} (h : f ∈ split b) : f.Sublist b := by
  have := sublist_of_mem_splitPieces h
  rwa [Utf8.flatMap_bytes_pieces, List.nil_append] at this

theorem splitPieces_of_spaceless {ps : List Utf8.Piece}
    (h : ∀ p ∈ ps, (p.valid && isSpace p.char) = false) (field : Bytes) :
    splitPieces field ps = close (field ++ ps.flatMap Utf8.Piece.bytes) [] := by
  induction ps generalizing field with
  | nil => simp [splitPieces]
  | cons p ps ih =>
    simp only [splitPieces, h p List.mem_cons_self, Bool.false_eq_true, if_false]
    rw [ih fun q hq => h q (List.mem_cons_of_mem _ hq)]
    simp

/-- A text without white space is one field, or none if it is empty. -/
theorem split_of_spaceless {b : Bytes} (h : Spaceless b) : split b = close b [] := by
  rw [split, splitPieces_of_spaceless h, Utf8.flatMap_bytes_pieces, List.nil_append]

/-- A nonempty text without white space is one field. -/
theorem split_eq_singleton {b : Bytes} (h : Spaceless b) (hne : b ≠ []) : split b = [b] := by
  rw [split_of_spaceless h, close, if_neg hne]

end Fields

end ThreeAddress
