import ThreeAddress.Proofs.Code.Acceptance
import ThreeAddress.Proofs.Lexer.Lexemes
import ThreeAddress.Proofs.Text.Encoding
import ThreeAddress.Proofs.Unicode.Plain

/-!
# The texts of tokens

A name holds no white space and no quote. A number is spelled with plain characters and starts with
a digit. A char literal holds one character, or one character behind a backslash, between quotes;
that character may be a blank, and behind a backslash it may even be a newline.

## Main definitions

* `Lexer.Scan.Takes` : a scan takes a run of plain characters.
* `Lexer.Scan.TakesLiteral` : a scan takes a literal.

## Main results

* `Lexeme.IsScanned.areSolid` : names hold no white space and no quote.
* `Lexeme.IsScanned.literalText` : literals have no field that is spelled like a temporary, and a
  quote stands behind a newline in them.
-/

namespace ThreeAddress

namespace Lexer

/-! ### Names -/

theorem isSolid_of_isNamePartChar {c : Char} (h : isNamePartChar c = true) :
    Unicode.IsSolid c.toNat := by
  unfold isNamePartChar at h
  split at h
  · rename_i hascii
    have hall : ∀ n < 0x80, isNamePart (Char.ofNat n).toUInt8 = true → Unicode.IsSolid n := by
      decide
    exact hall c.toNat hascii (by rwa [Char.ofNat_toNat])
  · simp only [Bool.or_eq_true] at h
    rcases h with (h | h) | h
    · exact Unicode.isSolid_letter h
    · exact Unicode.isSolid_decimalDigit h
    · exact Unicode.isSolid_nonspacingMark h

theorem le_namePartFrom {k : Nat} {bs : Bytes} (h : k ≤ bs.length) : k ≤ namePartFrom k bs := by
  induction bs generalizing k with
  | nil => simpa [namePartFrom] using h
  | cons b bs ih =>
    cases k with
    | zero => exact Nat.zero_le _
    | succ k =>
      have := @ih k (by simpa using h)
      rw [namePartFrom]
      omega

/-- The first character of a name is read from the bytes of the name alone. -/
theorem encoding?_take_namePartFrom {b : UInt8} {bs : Bytes} {c : Char} {n : Nat}
    (h : Utf8.encoding? (b :: bs) = some (c, n)) :
    n - 1 ≤ bs.length ∧
      Utf8.encoding? (b :: bs.take (namePartFrom (n - 1) bs)) = some (c, n) := by
  have hlen : n ≤ bs.length + 1 := (Utf8.size_le_of_encoding? h).2
  have hle : n - 1 ≤ bs.length := Nat.sub_le_of_le_add hlen
  have hsize : n ≤ namePartFrom (n - 1) bs + 1 := Nat.le_add_of_sub_le (le_namePartFrom hle)
  exact ⟨hle, Utf8.encoding?_take h hsize⟩

/-- The characters of a name are name characters. -/
theorem isNamePartChar_of_mem_pieces {bs : Bytes} :
    ∀ k ≤ bs.length, ∀ p ∈ Utf8.piecesFrom k (bs.take (namePartFrom k bs)),
      isNamePartChar p.char = true := by
  induction bs with
  | nil => simp [namePartFrom, Utf8.piecesFrom]
  | cons b bs ih =>
    intro k hk
    cases k with
    | succ k =>
      rw [namePartFrom, Nat.add_comm 1, List.take_succ_cons, Utf8.piecesFrom]
      exact ih k (by simpa using hk)
    | zero =>
      rw [namePartFrom]
      split
      · rename_i c n henc
        obtain ⟨hle, htake⟩ := encoding?_take_namePartFrom henc
        split
        · rename_i hpart
          rw [Nat.add_comm, List.take_succ_cons, Utf8.piecesFrom, htake, List.forall_mem_cons]
          exact ⟨hpart, ih (n - 1) hle⟩
        · simp [Utf8.piecesFrom]
      · simp [Utf8.piecesFrom]

theorem areSolid_nameText (bs : Bytes) :
    Unicode.AreSolid (Utf8.chars (nameText (bs.take (namePartSize bs)))) := by
  have hsolid : Unicode.AreSolid (Utf8.chars (bs.take (namePartSize bs))) := by
    intro c hc
    obtain ⟨p, hp, rfl⟩ := List.mem_map.mp hc
    exact isSolid_of_isNamePartChar (isNamePartChar_of_mem_pieces 0 (Nat.zero_le _) p hp)
  unfold nameText
  split
  · exact hsolid
  · rw [Utf8.chars_utf8Chars]
    exact hsolid.nfc

theorem spaceless_of_areSolid {bs : Bytes} (h : Unicode.AreSolid (Utf8.chars bs)) :
    Spaceless bs := by
  intro p hp
  have hchar := h p.char (List.mem_map_of_mem hp)
  rw [(Unicode.isSolid_toNat.mp hchar).1, Bool.and_false]

/-! ### Numbers -/

/-- A text of plain characters. -/
def Plain (bs : Bytes) : Prop :=
  ∀ x ∈ bs, Unicode.IsPlain x.toNat

instance (bs : Bytes) : Decidable (Plain bs) :=
  List.decidableBAll _ bs

theorem Plain.append {as bs : Bytes} (ha : Plain as) (hb : Plain bs) : Plain (as ++ bs) :=
  List.forall_mem_append.mpr ⟨ha, hb⟩

theorem visible_of_isPlain {x : UInt8} (h : Unicode.IsPlain x.toNat) : 0x20 < x ∧ x < 0x7F :=
  ⟨UInt8.lt_iff_toNat_lt.mpr h.1, UInt8.lt_iff_toNat_lt.mpr h.2.1⟩

theorem isPlain_of_between {lo hi x : UInt8} (hlo : lo ≤ x) (hhi : x ≤ hi)
    (h : ∀ n ≤ hi.toNat, lo.toNat ≤ n → Unicode.IsPlain n) : Unicode.IsPlain x.toNat :=
  h _ (UInt8.le_iff_toNat_le.mp hhi) (UInt8.le_iff_toNat_le.mp hlo)

/-- A scan that is not invalid takes a plain run of `rest` behind its first `taken` bytes. -/
def Scan.Takes (s : Scan) (taken : Nat) (rest : Bytes) : Prop :=
  s.kind ≠ .invalid → ∃ part, part <+: rest ∧ Plain part ∧ s.size = taken + part.length

theorem takes_bad {size taken : Nat} {c : Complaint} {rest : Bytes} :
    (Scan.bad size c).Takes taken rest :=
  fun h => absurd rfl h

/-- What follows a plain run that is taken may be taken too. -/
theorem Scan.Takes.behind {s : Scan} {taken : Nat} {part rest : Bytes} (hpart : part <+: rest)
    (hplain : Plain part) (h : s.Takes (taken + part.length) (rest.drop part.length)) :
    s.Takes taken rest := by
  intro hkind
  obtain ⟨more, hmore, hplain', hsize⟩ := h hkind
  obtain ⟨back, rfl⟩ := hpart
  rw [List.drop_left] at hmore
  refine ⟨part ++ more, (List.prefix_append_right_inj _).mpr hmore, hplain.append hplain', ?_⟩
  rw [hsize, List.length_append, Nat.add_assoc]

theorem takes_finishNumber (kind : TokenKind) (taken : Nat) (rest : Bytes) :
    (finishNumber kind taken rest).Takes taken rest := by
  unfold finishNumber
  split
  · exact takes_bad
  · exact fun _ => ⟨[], List.nil_prefix, by simp [Plain], rfl⟩

theorem front_digitRun (digit : UInt8 → Bool) (bs : Bytes) : digitRun digit bs <+: bs := by
  unfold digitRun
  split
  · exact List.takeWhile_prefix _
  · exact List.nil_prefix

theorem plain_digitRun {digit : UInt8 → Bool}
    (hdigit : ∀ x, digit x = true → Unicode.IsPlain x.toNat) (bs : Bytes) :
    Plain (digitRun digit bs) := by
  intro x hx
  unfold digitRun at hx
  split at hx
  · rcases Bool.or_eq_true_iff.mp (List.all_eq_true.mp List.all_takeWhile x hx) with h | h
    · exact hdigit x h
    · rw [eq_of_beq h]
      decide
  · cases hx

theorem isPlain_of_isDigit {x : UInt8} (h : isDigit x = true) : Unicode.IsPlain x.toNat := by
  simp only [isDigit, Bool.and_eq_true, decide_eq_true_eq] at h
  exact isPlain_of_between h.1 h.2 (by decide)

theorem plain_decimalRun (bs : Bytes) : Plain (digitRun isDigit bs) :=
  plain_digitRun (fun _ h => isPlain_of_isDigit h) bs

theorem plain_take_signSize (bs : Bytes) :
    Plain (bs.take (signSize bs)) ∧ (bs.take (signSize bs)).length = signSize bs := by
  unfold signSize
  split
  · rename_i hsign
    obtain ⟨s, more, rfl, hs⟩ : ∃ s more, bs = s :: more ∧
        (s == '+'.toUInt8 || s == '-'.toUInt8) = true := by
      cases bs with
      | nil => cases hsign
      | cons s more => exact ⟨s, more, rfl, hsign⟩
    refine ⟨?_, rfl⟩
    intro x hx
    obtain rfl : x = s := by simpa using hx
    rcases Bool.or_eq_true_iff.mp hs with h | h <;> rw [eq_of_beq h] <;> decide
  · exact ⟨by simp [Plain], rfl⟩

theorem takes_scanExponent (kind : TokenKind) (taken : Nat) (rest : Bytes) :
    (scanExponent kind taken rest).Takes taken rest := by
  unfold scanExponent
  split
  · rename_i e more
    split
    · rename_i he
      have hletter : Plain [e] := by
        intro x hx
        obtain rfl := List.mem_singleton.mp hx
        rcases Bool.or_eq_true_iff.mp he with h | h <;> rw [eq_of_beq h] <;> decide
      obtain ⟨hsign, hsize⟩ := plain_take_signSize more
      dsimp only
      split
      · exact takes_bad
      · split
        · -- the letter, the sign and the digits, one behind the other
          refine .behind (List.prefix_append [e] more) hletter ?_
          change Scan.Takes _ (taken + 1) more
          refine .behind (List.take_prefix (signSize more) more) hsign ?_
          rw [hsize]
          refine .behind (front_digitRun isDigit _) (plain_decimalRun _) ?_
          rw [List.drop_drop]
          exact takes_finishNumber _ _ _
        · exact takes_bad
    · exact takes_finishNumber _ _ _
  · exact takes_finishNumber _ _ _

theorem takes_scanDecimal (bs : Bytes) : (scanDecimal bs).Takes 0 bs := by
  -- an exponent, or none, right behind the first digits
  have hplain : (scanExponent .integer (digitRun isDigit bs).length
      (bs.drop (digitRun isDigit bs).length)).Takes 0 bs := by
    refine .behind (front_digitRun isDigit bs) (plain_decimalRun bs) ?_
    rw [Nat.zero_add]
    exact takes_scanExponent _ _ _
  unfold scanDecimal
  dsimp only
  split
  · exact takes_bad
  · split
    · rename_i p d more hrest
      split
      · rename_i hpoint
        split
        · split
          · -- the digits, the point, the digits of the fraction
            refine .behind (front_digitRun isDigit bs) (plain_decimalRun bs) ?_
            rw [Nat.zero_add, hrest]
            refine .behind (List.prefix_append [p] (d :: more)) ?_ ?_
            · intro x hx
              obtain rfl := List.mem_singleton.mp hx
              rw [eq_of_beq hpoint]
              decide
            change Scan.Takes _ (_ + 1) (d :: more)
            refine .behind (front_digitRun isDigit _) (plain_decimalRun _) ?_
            have hdrop (n : Nat) : bs.drop ((digitRun isDigit bs).length + 1 + n) =
                (d :: more).drop n := by
              rw [Nat.add_assoc, ← List.drop_drop, hrest, Nat.add_comm, List.drop_succ_cons]
            rw [List.drop_one, List.tail_cons, hdrop]
            exact takes_scanExponent _ _ _
          · exact takes_bad
        · split
          · exact hplain
          · exact takes_bad
      · exact hplain
    · exact hplain

theorem isPlain_of_isHexDigit {x : UInt8} (h : isHexDigit x = true) :
    Unicode.IsPlain x.toNat := by
  simp only [isHexDigit, Bool.or_eq_true, Bool.and_eq_true, decide_eq_true_eq] at h
  rcases h with (h | h) | h
  · exact isPlain_of_isDigit h
  · exact isPlain_of_between h.1 h.2 (by decide)
  · exact isPlain_of_between h.1 h.2 (by decide)

/-- A base marker is a plain letter, and so are the digits that it announces. -/
theorem isPlain_of_baseDigits? {b : UInt8} {digit : UInt8 → Bool}
    (h : baseDigits? b = some digit) :
    Unicode.IsPlain b.toNat ∧ ∀ x, digit x = true → Unicode.IsPlain x.toNat := by
  have hmarker {lower upper : UInt8} (hb : (b == lower || b == upper) = true)
      (hl : Unicode.IsPlain lower.toNat) (hu : Unicode.IsPlain upper.toNat) :
      Unicode.IsPlain b.toNat := by
    rcases Bool.or_eq_true_iff.mp hb with h | h <;> rwa [eq_of_beq h]
  unfold baseDigits? at h
  split at h
  · rename_i hb
    cases h
    exact ⟨hmarker hb (by decide) (by decide), fun x hx => isPlain_of_isHexDigit hx⟩
  · split at h
    · rename_i hb
      cases h
      refine ⟨hmarker hb (by decide) (by decide), fun x hx => ?_⟩
      rcases Bool.or_eq_true_iff.mp hx with h | h <;> rw [eq_of_beq h] <;> decide
    · split at h
      · rename_i hb
        cases h
        refine ⟨hmarker hb (by decide) (by decide), fun x hx => ?_⟩
        simp only [isOctalDigit, Bool.and_eq_true, decide_eq_true_eq] at hx
        exact isPlain_of_between hx.1 hx.2 (by decide)
      · cases h

theorem takes_scanBased {digit : UInt8 → Bool}
    (hdigit : ∀ x, digit x = true → Unicode.IsPlain x.toNat) (rest : Bytes) :
    (scanBased digit rest).Takes 2 rest := by
  unfold scanBased
  dsimp only
  split
  · exact takes_bad
  · split
    · exact .behind (front_digitRun digit rest) (plain_digitRun hdigit rest)
        (takes_finishNumber _ _ _)
    · exact takes_bad

/-- A number is a run of plain characters. -/
theorem takes_scanNumber (bs : Bytes) : (scanNumber bs).Takes 0 bs := by
  unfold scanNumber
  split
  · rename_i z b rest
    split
    · rename_i hz
      split
      · rename_i digit hbase
        obtain ⟨hb, hdigit⟩ := isPlain_of_baseDigits? hbase
        refine .behind (List.prefix_append [z, b] rest) ?_ (takes_scanBased hdigit rest)
        have hzero : Unicode.IsPlain z.toNat := by
          rw [eq_of_beq hz]
          decide
        simp [Plain, hzero, hb]
      · split
        · exact takes_bad
        · exact takes_scanDecimal _
    · exact takes_scanDecimal _
  · exact takes_scanDecimal _

/-- A scan that is not invalid takes a literal from the front of `bs`. -/
def Scan.TakesLiteral (s : Scan) (bs : Bytes) : Prop :=
  s.kind ≠ .invalid → LiteralText (bs.take s.size)

theorem takesLiteral_scanNumber {b : UInt8} (hb : isDigit b = true) (rest : Bytes) :
    (scanNumber (b :: rest)).TakesLiteral (b :: rest) := by
  intro hkind
  obtain ⟨part, hpart, hplain, hsize⟩ := takes_scanNumber (b :: rest) hkind
  rw [hsize, Nat.zero_add, ← List.prefix_iff_eq_take.mp hpart]
  have hspaceless := spaceless_of_visible fun x hx => visible_of_isPlain (hplain x hx)
  refine literalText_of_spaceless hspaceless ?_
  -- a digit starts no temporary
  cases part with
  | nil => rfl
  | cons x part =>
    obtain rfl : x = b := (List.cons_prefix_cons.mp hpart).1
    have hne : ('_'.toUInt8 == x) = false := by
      rw [beq_eq_false_iff_ne]
      rintro rfl
      exact absurd hb (by decide)
    have hstrip : Bytes.strip? (utf8 "__t") (x :: part) = none := by
      rw [show utf8 "__t" = '_'.toUInt8 :: utf8 "_t" by decide, Bytes.strip?, hne]
      rfl
    rw [temporaryOf?, hstrip]
    rfl

/-! ### Char literals -/

/-- The bytes of at most one character: one byte, or bytes beyond ASCII. -/
def IsCharLike (bs : Bytes) : Prop :=
  (∃ b, bs = [b]) ∨ ∀ x ∈ bs, 0x80 ≤ x

theorem isCharLike_take_charSize (bs : Bytes) : IsCharLike (bs.take (charSize bs)) := by
  cases bs with
  | nil => exact .inr (by simp)
  | cons b rest =>
    rw [charSize, Utf8.decode?, Option.map_some, Option.getD_some]
    cases henc : Utf8.encoding? (b :: rest) with
    | none => exact .inl ⟨b, rfl⟩
    | some p =>
      obtain ⟨c, n⟩ := p
      rw [Option.getD_some, Utf8.take_of_encoding? henc]
      exact Utf8.utf8EncodeChar_cases c

theorem charSize_le_length (bs : Bytes) : charSize bs ≤ bs.length := by
  cases bs with
  | nil => exact Nat.le_refl _
  | cons b rest =>
    rw [charSize, Utf8.decode?, Option.map_some, Option.getD_some]
    cases henc : Utf8.encoding? (b :: rest) with
    | none => simp
    | some p => exact (Utf8.size_le_of_encoding? henc).2

/-- One character between quotes, perhaps behind a backslash, has no field that is spelled like a
temporary, and if the character is a newline a quote stands behind it. -/
theorem literalText_quoted {front inner : Bytes}
    (hfront : front = ['\''.toUInt8] ∨ front = ['\''.toUInt8, '\\'.toUInt8])
    (hinner : IsCharLike inner) : LiteralText (front ++ inner ++ ['\''.toUInt8]) := by
  have hcount : (front ++ inner ++ ['\''.toUInt8]).count '_'.toUInt8 ≤ 1 := by
    have hin : inner.count '_'.toUInt8 ≤ 1 := by
      rcases hinner with ⟨b, rfl⟩ | hhigh
      · exact List.count_le_length
      · rw [List.count_eq_zero_of_not_mem fun h => absurd (hhigh _ h) (by decide)]
        exact Nat.zero_le _
    have hnone : front.count '_'.toUInt8 = 0 := by
      rcases hfront with rfl | rfl <;> decide
    have hquote : ['\''.toUInt8].count '_'.toUInt8 = 0 := by decide
    rw [List.count_append, List.count_append]
    omega
  refine ⟨fun field hfield => ?_, fun hmem => ?_⟩
  · -- a temporary has two underscores
    cases htemporary : temporaryOf? field with
    | none => rfl
    | some m =>
      obtain ⟨digits, hdigits, -⟩ := Option.bind_eq_some_iff.mp htemporary
      have htwo : 2 ≤ field.count '_'.toUInt8 := by
        rw [Bytes.eq_append_of_strip? hdigits, List.count_append]
        exact Nat.le_add_right_of_le (by decide)
      have := (Fields.sublist_of_mem_split hfield).count_le '_'.toUInt8
      omega
  · have hnewline : '\n'.toUInt8 ∈ inner := by
      have hnone : '\n'.toUInt8 ∉ front := by
        rcases hfront with rfl | rfl <;> decide
      have hquote : '\n'.toUInt8 ∉ ['\''.toUInt8] := by decide
      rw [List.mem_append, List.mem_append] at hmem
      exact (hmem.resolve_right hquote).resolve_left hnone
    rcases hinner with ⟨b, rfl⟩ | hhigh
    · obtain rfl := List.mem_singleton.mp hnewline
      exact ⟨front, [], by simp⟩
    · exact absurd (hhigh _ hnewline) (by decide)

/-- Closing a literal behind the character `inner` that stands behind the quote, or behind the quote
and a backslash. -/
theorem takesLiteral_closeChar {front inner rest : Bytes} {earlier : List (Nat × Complaint)}
    (hfront : front = ['\''.toUInt8] ∨ front = ['\''.toUInt8, '\\'.toUInt8])
    (hinner : IsCharLike inner) (hrest : inner <+: rest) {taken size : Nat}
    (htaken : taken = front.length + inner.length) (hsize : size = inner.length) :
    (closeChar taken (rest.drop size) earlier).TakesLiteral (front ++ rest) := by
  obtain ⟨back, rfl⟩ := hrest
  rw [hsize, List.drop_left]
  unfold closeChar
  split
  · rename_i hquote
    obtain ⟨more, rfl⟩ := List.head?_eq_some_iff.mp hquote
    have htext : (front ++ (inner ++ '\''.toUInt8 :: more)).take (taken + 1) =
        front ++ inner ++ ['\''.toUInt8] := by
      rw [htaken, ← List.append_assoc, ← List.length_append, List.take_length_add_append]
      rfl
    intro _
    rw [htext]
    exact literalText_quoted hfront hinner
  · exact fun h => absurd rfl h

/-- A char literal is one character between quotes, perhaps behind a backslash. -/
theorem takesLiteral_scanChar (body : Bytes) :
    (scanChar body).TakesLiteral ('\''.toUInt8 :: body) := by
  have hlength (bs : Bytes) : charSize bs = (bs.take (charSize bs)).length := by
    rw [List.length_take, Nat.min_eq_left (charSize_le_length bs)]
  unfold scanChar
  split
  · exact fun h => absurd rfl h
  · rename_i b rest
    split
    · exact fun h => absurd rfl h
    · split
      · exact fun h => absurd rfl h
      · split
        · rename_i hbackslash
          rw [eq_of_beq hbackslash]
          split
          · rename_i hescape
            obtain ⟨e, more, rfl⟩ : ∃ e more, rest = e :: more := by
              cases rest with
              | nil => cases hescape
              | cons e more => exact ⟨e, more, rfl⟩
            exact takesLiteral_closeChar (.inr rfl) (.inl ⟨e, rfl⟩) (List.prefix_append [e] more)
              rfl rfl
          · exact takesLiteral_closeChar (.inr rfl) (isCharLike_take_charSize rest)
              (List.take_prefix _ _) (by rw [← hlength]; rfl) (hlength rest)
        · exact takesLiteral_closeChar (.inl rfl) (isCharLike_take_charSize (b :: rest))
            (List.take_prefix _ _) (by rw [← hlength]; rfl) (hlength (b :: rest))

end Lexer

/-! ### Tokens -/

theorem LiteralText.render {t : Token} (h : LiteralText t.text) : LiteralText t.render := by
  unfold Token.render
  split
  · have hfixed : ∀ k : TokenKind, Spaceless (k.fixedText?.getD []) ∧
        temporaryOf? (k.fixedText?.getD []) = none := by
      intro k
      cases k with
      | unassigned n => exact (by decide : Spaceless [] ∧ temporaryOf? [] = none)
      | _ => decide
    exact literalText_of_spaceless (hfixed _).1 (hfixed _).2
  · exact h

namespace Lexeme.IsScanned

variable {l : Lexeme}

/-- A name holds no white space and no quote. -/
theorem areSolid (h : l.IsScanned) (hkind : l.token.kind = .identifier) :
    Unicode.AreSolid (Utf8.chars l.token.text) := by
  obtain ⟨c, s, hs, rfl⟩ := h
  have hk : s.kind = .identifier := hkind
  have htext : (c.lexemeOf s).token.text = Lexer.nameText (c.rest.take s.size) := by
    simp only [Cursor.lexemeOf, hk, Lexer.tokenText]
  rw [htext]
  rcases Lexer.scan?_cases hs with rfl | ⟨b, rest, -, -, rfl⟩ | ⟨body, -, rfl⟩ | ⟨b, k, hb, rfl⟩ |
    hinvalid
  · rcases Lexer.scanName_cases c.rest with hk' | ⟨hsize, -⟩
    · rw [hk] at hk'
      cases hk'
    · rw [hsize]
      exact Lexer.areSolid_nameText c.rest
  · rcases Lexer.isNumberKind_scanNumber c.rest with hk' | hk' | hk' <;>
      rw [hk] at hk' <;> cases hk'
  · rcases Lexer.kind_scanChar body with hk' | hk' <;> rw [hk] at hk' <;> cases hk'
  · exact absurd hk (Lexer.kind_of_ofPunctuation? hb).2.1
  · rw [hk] at hinvalid
    cases hinvalid

theorem spaceless (h : l.IsScanned) (hkind : l.token.kind = .identifier) :
    Spaceless l.token.text :=
  Lexer.spaceless_of_areSolid (h.areSolid hkind)

/-- A literal has no field that is spelled like a temporary, and a quote stands behind a newline
in it. -/
theorem literalText (h : l.IsScanned) (hliteral : l.token.kind.isLiteral = true) :
    LiteralText l.token.render := by
  apply LiteralText.render
  obtain ⟨c, s, hs, rfl⟩ := h
  have hlit : s.kind.isLiteral = true := hliteral
  show LiteralText (Lexer.tokenText s.kind (c.rest.take s.size))
  rcases Lexer.scan?_cases hs with rfl | ⟨b, rest, hrest, hdigit, rfl⟩ | ⟨body, hbody, rfl⟩ |
    ⟨b, k, hb, rfl⟩ | hinvalid
  · rcases Lexer.scanName_cases c.rest with hk | ⟨hsize, hk⟩
    · rw [hk] at hlit
      cases hlit
    · cases hkey : TokenKind.keyword?
          (Lexer.nameText (c.rest.take (Lexer.namePartSize c.rest))) with
      | none =>
        rw [hk, hkey] at hlit
        cases hlit
      | some k =>
        rw [hk, hkey, Option.getD_some] at hlit ⊢
        rw [hsize]
        rcases Lexer.keyword?_cases hkey with ⟨-, rfl⟩ | ⟨hname, rfl⟩ | ⟨hname, rfl⟩
        · cases hlit
        · rw [Lexer.tokenText, hname]
          exact literalText_of_spaceless (by decide) (by decide)
        · rw [Lexer.tokenText, hname]
          exact literalText_of_spaceless (by decide) (by decide)
  · have hnumber := Lexer.takesLiteral_scanNumber hdigit rest
    rw [← hrest] at hnumber
    rcases Lexer.isNumberKind_scanNumber c.rest with hk | hk | hk
    · rw [hk]
      exact hnumber (by simp [hk])
    · rw [hk]
      exact hnumber (by simp [hk])
    · rw [hk] at hlit
      cases hlit
  · have hchar := Lexer.takesLiteral_scanChar body
    rw [← hbody] at hchar
    rcases Lexer.kind_scanChar body with hk | hk
    · rw [hk]
      exact hchar (by simp [hk])
    · rw [hk] at hlit
      cases hlit
  · have hmark := (Lexer.kind_of_ofPunctuation? hb).2.2
    rw [hlit] at hmark
    cases hmark
  · rw [hinvalid] at hlit
    cases hlit

end Lexeme.IsScanned

end ThreeAddress
