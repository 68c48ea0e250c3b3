import ThreeAddress.Proofs.Text.Fields

/-!
# Reading an encoded text back

The encoding of a list of characters is read as these very characters, one piece for each, and what
is read as a character is its encoding.

## Main results

* `Utf8.pieces_utf8Chars`, `Utf8.chars_utf8Chars` : an encoded text is read back.
* `Utf8.take_of_encoding?` : the bytes read as a character encode it.
-/

namespace ThreeAddress

namespace Utf8

/-! ### Reading an encoding -/

theorem between_ofNat {lo hi : UInt8} {k : Nat} (hk : k < UInt8.size) :
    between lo hi (UInt8.ofNat k) = (decide (lo.toNat ≤ k) && decide (k ≤ hi.toNat)) := by
  simp only [between, UInt8.le_iff_toNat_le, UInt8.toNat_ofNat_of_lt' hk]

theorem payload_ofNat {k : Nat} (hk : k < UInt8.size) : payload (UInt8.ofNat k) = k % 64 := by
  rw [payload, UInt8.toNat_ofNat_of_lt' hk]

theorem ofNat_lt_ascii {k : Nat} (hk : k < UInt8.size) : UInt8.ofNat k < 0x80 ↔ k < 128 := by
  rw [UInt8.lt_iff_toNat_lt, UInt8.toNat_ofNat_of_lt' hk]
  rfl

theorem ofNat_beq {k : Nat} (hk : k < UInt8.size) (x : UInt8) :
    (UInt8.ofNat k == x) = decide (k = x.toNat) := by
  rw [Bool.eq_iff_iff, beq_iff_eq, decide_eq_true_iff, ← UInt8.toNat_inj,
    UInt8.toNat_ofNat_of_lt' hk]

theorem encoding?_one {a : Nat} (ha : a < 0x80) (r : Bytes) :
    encoding? (UInt8.ofNat a :: r) = some (Char.ofNat a, 1) := by
  have hsize : a < UInt8.size := Nat.lt_trans ha (by decide)
  have hascii : UInt8.ofNat a < 0x80 := (ofNat_lt_ascii hsize).mpr ha
  simp only [encoding?, hascii, if_true, UInt8.toNat_ofNat_of_lt' hsize]

theorem encoding?_two {a b : Nat} (ha : 0xC2 ≤ a) (ha' : a ≤ 0xDF) (hb : 0x80 ≤ b)
    (hb' : b ≤ 0xBF) (r : Bytes) :
    encoding? (UInt8.ofNat a :: UInt8.ofNat b :: r) =
      some (Char.ofNat (a % 32 * 64 + b % 64), 2) := by
  have hsize : UInt8.size = 256 := rfl
  have hascii : ¬ UInt8.ofNat a < 0x80 := by
    rw [ofNat_lt_ascii (by omega)]
    omega
  simp (disch := omega) only [encoding?, hascii, if_false, between_ofNat, payload_ofNat,
    UInt8.toNat_ofNat_of_lt']
  simp [ha, ha', hb, hb']

/-- The second byte lies in the range that the first one leaves for it. -/
theorem second_mem_range {a b x y : Nat} (l h : UInt8) (hb : 0x80 ≤ b) (hb' : b ≤ 0xBF)
    (hlo : a = x → l.toNat ≤ b) (hhi : a = y → b ≤ h.toNat) :
    (if a = x then l else 0x80 : UInt8).toNat ≤ b ∧
      b ≤ (if a = y then h else 0xBF : UInt8).toNat := by
  constructor
  · split
    · exact hlo ‹_›
    · exact hb
  · split
    · exact hhi ‹_›
    · exact hb'

theorem encoding?_three {a b d : Nat} (ha : 0xE0 ≤ a) (ha' : a ≤ 0xEF)
    (hb : 0x80 ≤ b) (hb' : b ≤ 0xBF) (hlo : a = 0xE0 → 0xA0 ≤ b) (hhi : a = 0xED → b ≤ 0x9F)
    (hd : 0x80 ≤ d) (hd' : d ≤ 0xBF) (r : Bytes) :
    encoding? (UInt8.ofNat a :: UInt8.ofNat b :: UInt8.ofNat d :: r) =
      some (Char.ofNat (a % 16 * 4096 + b % 64 * 64 + d % 64), 3) := by
  have hsize : UInt8.size = 256 := rfl
  have hascii : ¬ UInt8.ofNat a < 0x80 := by
    rw [ofNat_lt_ascii (by omega)]
    omega
  have htwo : ¬ a ≤ 0xDF := by omega
  have hbound := second_mem_range 0xA0 0x9F hb hb' hlo hhi
  simp (disch := omega) only [encoding?, hascii, if_false, between_ofNat, payload_ofNat,
    UInt8.toNat_ofNat_of_lt', ofNat_beq]
  simp [ha, ha', hd, hd', htwo, hbound]

theorem encoding?_four {a b d e : Nat} (ha : 0xF0 ≤ a) (ha' : a ≤ 0xF4)
    (hb : 0x80 ≤ b) (hb' : b ≤ 0xBF) (hlo : a = 0xF0 → 0x90 ≤ b) (hhi : a = 0xF4 → b ≤ 0x8F)
    (hd : 0x80 ≤ d) (hd' : d ≤ 0xBF) (he : 0x80 ≤ e) (he' : e ≤ 0xBF) (r : Bytes) :
    encoding? (UInt8.ofNat a :: UInt8.ofNat b :: UInt8.ofNat d :: UInt8.ofNat e :: r) =
      some (Char.ofNat (a % 8 * 262144 + b % 64 * 4096 + d % 64 * 64 + e % 64), 4) := by
  have hsize : UInt8.size = 256 := rfl
  have hascii : ¬ UInt8.ofNat a < 0x80 := by
    rw [ofNat_lt_ascii (by omega)]
    omega
  have htwo : ¬ a ≤ 0xDF := by omega
  have hthree : ¬ a ≤ 0xEF := by omega
  have hbound := second_mem_range 0x90 0x8F hb hb' hlo hhi
  simp (disch := omega) only [encoding?, hascii, if_false, between_ofNat, payload_ofNat,
    UInt8.toNat_ofNat_of_lt', ofNat_beq]
  simp [ha, ha', hd, hd', he, he', htwo, hthree, hbound]

/-- The encoding of a character is read as that character. -/
theorem encoding?_utf8EncodeChar (c : Char) (r : Bytes) :
    encoding? (String.utf8EncodeChar c ++ r) = some (c, (String.utf8EncodeChar c).length) := by
  have hvalid : c.toNat < 0xD800 ∨ 0xDFFF < c.toNat ∧ c.toNat < 0x110000 := c.valid
  have hchar {m : Nat} (h : m = c.toNat) : Char.ofNat m = c := by rw [h, Char.ofNat_toNat]
  have hval : c.val.toNat = c.toNat := rfl
  have hsize : UInt8.size = 256 := rfl
  generalize c.toNat = n at hvalid hchar hval
  -- one case for each number of bytes
  unfold String.utf8EncodeChar
  dsimp only
  rw [hval]
  split
  · rw [List.singleton_append, encoding?_one (by omega), hchar rfl]
    rfl
  · split
    · rw [List.cons_append, List.singleton_append, encoding?_two (by omega) (by omega) (by omega)
        (by omega), hchar (by omega)]
      rfl
    · split
      · rw [List.cons_append, List.cons_append, List.singleton_append,
          encoding?_three (by omega) (by omega) (by omega) (by omega) (by omega) (by omega)
            (by omega) (by omega), hchar (by omega)]
        rfl
      · rw [List.cons_append, List.cons_append, List.cons_append, List.singleton_append,
          encoding?_four (by omega) (by omega) (by omega) (by omega) (by omega) (by omega)
            (by omega) (by omega) (by omega) (by omega), hchar (by omega)]
        rfl

/-- The encoding of a character is one piece. -/
theorem pieces_utf8EncodeChar_append (c : Char) (r : Bytes) :
    pieces (String.utf8EncodeChar c ++ r) =
      ⟨c, String.utf8EncodeChar c, true⟩ :: pieces r := by
  have hskip (a : Bytes) : ∀ k, k = a.length → piecesFrom k (a ++ r) = pieces r := by
    induction a with
    | nil => rintro k rfl; rfl
    | cons x a ih => rintro k rfl; exact ih a.length rfl
  have henc := encoding?_utf8EncodeChar c r
  cases hbs : String.utf8EncodeChar c with
  | nil => exact absurd hbs String.utf8EncodeChar_ne_nil
  | cons b bs =>
    rw [hbs, List.cons_append] at henc
    rw [List.cons_append, pieces, piecesFrom, henc]
    simp only [List.length_cons, Nat.add_sub_cancel, hskip bs bs.length rfl]
    rw [List.take_succ_cons, List.take_left]

/-- An encoded text is read as its characters. -/
theorem pieces_utf8Chars (cs : List Char) :
    pieces (utf8Chars cs) = cs.map fun c => ⟨c, String.utf8EncodeChar c, true⟩ := by
  induction cs with
  | nil => rfl
  | cons c cs ih =>
    rw [List.map_cons, ← ih]
    exact pieces_utf8EncodeChar_append c _

theorem chars_utf8Chars (cs : List Char) : chars (utf8Chars cs) = cs := by
  rw [chars, pieces_utf8Chars, List.map_map]
  exact List.map_id cs

/-! ### What is read is an encoding -/

theorem toNat_of_between {lo hi b : UInt8} (h : between lo hi b = true) :
    lo.toNat ≤ b.toNat ∧ b.toNat ≤ hi.toNat := by
  simpa [between, UInt8.le_iff_toNat_le] using h

/-- The encoding of a character given by its code point. -/
theorem utf8EncodeChar_ofNat {n : Nat} (h : n.isValidChar) :
    String.utf8EncodeChar (Char.ofNat n) =
      if n ≤ 0x7F then [UInt8.ofNat n]
      else if n ≤ 0x7FF then [UInt8.ofNat (n / 64 % 32 + 0xC0), UInt8.ofNat (n % 64 + 0x80)]
      else if n ≤ 0xFFFF then
        [UInt8.ofNat (n / 4096 % 16 + 0xE0), UInt8.ofNat (n / 64 % 64 + 0x80),
          UInt8.ofNat (n % 64 + 0x80)]
      else
        [UInt8.ofNat (n / 262144 % 8 + 0xF0), UInt8.ofNat (n / 4096 % 64 + 0x80),
          UInt8.ofNat (n / 64 % 64 + 0x80), UInt8.ofNat (n % 64 + 0x80)] := by
  have hval : (Char.ofNat n).val.toNat = n := by
    rw [Char.ofNat, dif_pos h]
    rfl
  unfold String.utf8EncodeChar
  dsimp only
  rw [hval]

theorem ofNat_eq_of_toNat {k : Nat} {b : UInt8} (h : k = b.toNat) : UInt8.ofNat k = b := by
  rw [h, UInt8.ofNat_toNat]

theorem toNat_of_between_ite {a b x y lo lo' hi hi' : UInt8}
    (h : between (if a == x then lo' else lo) (if a == y then hi' else hi) b = true) :
    (a.toNat = x.toNat ∧ lo'.toNat ≤ b.toNat ∨ a.toNat ≠ x.toNat ∧ lo.toNat ≤ b.toNat) ∧
      (a.toNat = y.toNat ∧ b.toNat ≤ hi'.toNat ∨ a.toNat ≠ y.toNat ∧ b.toNat ≤ hi.toNat) := by
  obtain ⟨hlo, hhi⟩ := toNat_of_between h
  simp only [beq_iff_eq, ← UInt8.toNat_inj] at hlo hhi
  constructor
  · split at hlo
    · exact .inl ⟨‹_›, hlo⟩
    · exact .inr ⟨‹_›, hlo⟩
  · split at hhi
    · exact .inl ⟨‹_›, hhi⟩
    · exact .inr ⟨‹_›, hhi⟩

theorem utf8EncodeChar_two {b0 b1 : UInt8} (h0 : between 0xC2 0xDF b0 = true)
    (h1 : between 0x80 0xBF b1 = true) :
    String.utf8EncodeChar (Char.ofNat (b0.toNat % 32 * 64 + payload b1)) = [b0, b1] := by
  have h0 := toNat_of_between h0
  have h1 := toNat_of_between h1
  simp only [UInt8.reduceToNat, payload] at h0 h1 ⊢
  rw [utf8EncodeChar_ofNat (by left; omega), if_neg (by omega), if_pos (by omega)]
  simp only [List.cons.injEq, and_true]
  exact ⟨ofNat_eq_of_toNat (by omega), ofNat_eq_of_toNat (by omega)⟩

theorem utf8EncodeChar_three {b0 b1 b2 : UInt8} (h0 : between 0xE0 0xEF b0 = true)
    (h1 : between (if b0 == 0xE0 then 0xA0 else 0x80) (if b0 == 0xED then 0x9F else 0xBF) b1 = true)
    (h2 : between 0x80 0xBF b2 = true) :
    String.utf8EncodeChar (Char.ofNat (b0.toNat % 16 * 4096 + payload b1 * 64 + payload b2)) =
      [b0, b1, b2] := by
  have h0 := toNat_of_between h0
  have h1 := toNat_of_between_ite h1
  have h2 := toNat_of_between h2
  simp only [UInt8.reduceToNat, payload] at h0 h1 h2 ⊢
  rw [utf8EncodeChar_ofNat (by unfold Nat.isValidChar; omega), if_neg (by omega),
    if_neg (by omega), if_pos (by omega)]
  simp only [List.cons.injEq, and_true]
  exact ⟨ofNat_eq_of_toNat (by omega), ofNat_eq_of_toNat (by omega),
    ofNat_eq_of_toNat (by omega)⟩

theorem utf8EncodeChar_four {b0 b1 b2 b3 : UInt8} (h0 : between 0xF0 0xF4 b0 = true)
    (h1 : between (if b0 == 0xF0 then 0x90 else 0x80) (if b0 == 0xF4 then 0x8F else 0xBF) b1 = true)
    (h2 : between 0x80 0xBF b2 = true) (h3 : between 0x80 0xBF b3 = true) :
    String.utf8EncodeChar (Char.ofNat (b0.toNat % 8 * 262144 + payload b1 * 4096
      + payload b2 * 64 + payload b3)) = [b0, b1, b2, b3] := by
  have h0 := toNat_of_between h0
  have h1 := toNat_of_between_ite h1
  have h2 := toNat_of_between h2
  have h3 := toNat_of_between h3
  simp only [UInt8.reduceToNat, payload] at h0 h1 h2 h3 ⊢
  rw [utf8EncodeChar_ofNat (by unfold Nat.isValidChar; omega), if_neg (by omega),
    if_neg (by omega), if_neg (by omega)]
  simp only [List.cons.injEq, and_true]
  exact ⟨ofNat_eq_of_toNat (by omega), ofNat_eq_of_toNat (by omega),
    ofNat_eq_of_toNat (by omega), ofNat_eq_of_toNat (by omega)⟩

/-- What is read as a character is its encoding. -/
theorem take_of_encoding? {bs : Bytes} {c : Char} {n : Nat} (h : encoding? bs = some (c, n)) :
    bs.take n = String.utf8EncodeChar c := by
  cases bs with
  | nil => cases h
  | cons b0 rest =>
    rw [encoding?.eq_def] at h
    dsimp only at h
    split at h
    · rename_i hascii
      have hlt : b0.toNat < 0x80 := UInt8.lt_iff_toNat_lt.mp hascii
      cases h
      rw [utf8EncodeChar_ofNat (by left; omega), if_pos (by omega), ofNat_eq_of_toNat rfl]
      rfl
    · split at h
      · rename_i h0
        split at h
        · obtain ⟨h1, hc⟩ := Option.ite_none_right_eq_some.mp h
          cases hc
          exact (utf8EncodeChar_two h0 h1).symm
        · cases h
      · split at h
        · rename_i h0
          split at h
          · obtain ⟨h12, hc⟩ := Option.ite_none_right_eq_some.mp h
            simp only [Bool.and_eq_true] at h12
            cases hc
            exact (utf8EncodeChar_three h0 h12.1 h12.2).symm
          · cases h
        · obtain ⟨h0, h⟩ := Option.ite_none_right_eq_some.mp h
          split at h
          · obtain ⟨h123, hc⟩ := Option.ite_none_right_eq_some.mp h
            simp only [Bool.and_eq_true] at h123
            cases hc
            exact (utf8EncodeChar_four h0 h123.1.1 h123.1.2 h123.2).symm
          · cases h

theorem length_of_encoding? {bs : Bytes} {c : Char} {n : Nat} (h : encoding? bs = some (c, n)) :
    (String.utf8EncodeChar c).length = n := by
  rw [← take_of_encoding? h, List.length_take, Nat.min_eq_left (size_le_of_encoding? h).2]

/-- An encoding is read from the bytes that it takes, whatever follows. -/
theorem encoding?_of_take_eq {as bs : Bytes} {c : Char} {n : Nat} (h : encoding? as = some (c, n))
    (htake : bs.take n = as.take n) : encoding? bs = some (c, n) := by
  rw [← List.take_append_drop n bs, htake, take_of_encoding? h, encoding?_utf8EncodeChar,
    length_of_encoding? h]

theorem encoding?_take {bs : Bytes} {c : Char} {n m : Nat} (h : encoding? bs = some (c, n))
    (hm : n ≤ m) : encoding? (bs.take m) = some (c, n) :=
  encoding?_of_take_eq h (by rw [List.take_take, Nat.min_eq_left hm])

theorem encoding?_append {bs : Bytes} {c : Char} {n : Nat} (h : encoding? bs = some (c, n))
    (r : Bytes) : encoding? (bs ++ r) = some (c, n) :=
  encoding?_of_take_eq h (List.take_append_of_le_length (size_le_of_encoding? h).2)

/-- What starts no character starts none when the bytes end earlier. -/
theorem encoding?_of_append_eq_none {bs r : Bytes} (h : encoding? (bs ++ r) = none) :
    encoding? bs = none := by
  cases hread : encoding? bs with
  | none => rfl
  | some p => rw [encoding?_append hread] at h; cases h

/-- A character of ASCII is read from its one byte. -/
theorem ascii_of_encoding? {b : UInt8} {bs : Bytes} {c : Char} {n : Nat}
    (h : encoding? (b :: bs) = some (c, n)) (hc : c.toNat < 0x80) :
    b = UInt8.ofNat c.toNat ∧ n = 1 := by
  have hone : String.utf8EncodeChar c = [UInt8.ofNat c.toNat] := by
    have hencode := utf8EncodeChar_ofNat (n := c.toNat) c.valid
    rwa [if_pos (Nat.le_of_lt_succ hc), Char.ofNat_toNat] at hencode
  have htake := take_of_encoding? h
  have hlength := length_of_encoding? h
  rw [hone, List.length_singleton] at hlength
  subst hlength
  rw [hone, List.take_succ_cons, List.take_zero] at htake
  exact ⟨(List.cons.inj htake).1, rfl⟩

/-- A character is encoded in one byte, or in bytes that all are beyond ASCII. -/
theorem utf8EncodeChar_cases (c : Char) :
    (∃ b, String.utf8EncodeChar c = [b]) ∨ ∀ x ∈ String.utf8EncodeChar c, 0x80 ≤ x := by
  have hhigh {k : Nat} (hlo : 0x80 ≤ k) (hhi : k < 0x100) :
      (0x80 : UInt8) ≤ UInt8.ofNat k := by
    rw [UInt8.le_iff_toNat_le, UInt8.toNat_ofNat_of_lt' hhi]
    exact hlo
  unfold String.utf8EncodeChar
  dsimp only
  split
  · exact .inl ⟨_, rfl⟩
  · right
    split
    · simp only [List.forall_mem_cons]
      exact ⟨hhigh (by omega) (by omega), hhigh (by omega) (by omega), by simp⟩
    · split
      · simp only [List.forall_mem_cons]
        exact ⟨hhigh (by omega) (by omega), hhigh (by omega) (by omega),
          hhigh (by omega) (by omega), by simp⟩
      · simp only [List.forall_mem_cons]
        exact ⟨hhigh (by omega) (by omega), hhigh (by omega) (by omega),
          hhigh (by omega) (by omega), hhigh (by omega) (by omega), by simp⟩

end Utf8

end ThreeAddress
