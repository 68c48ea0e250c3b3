import Mathlib.Data.List.Forall2
import ThreeAddress.Proofs.Lexer.TokenText

/-!
# Words with blanks between them

A scan that takes a whole text takes no more of it when a blank stands behind the text. So texts of
one token each, with blanks between them, are read token by token.

A scan looks beyond its token in two ways only: runs of digits and name characters end at the first
byte of another kind, and a point behind digits is taken for the start of a fraction. Neither makes
a difference when the byte behind is a blank, but for a point at the very end of the text, which is
no part of the token then.

## Main definitions

* `Word` : the kind and the text of a token.
* `Word.Lexes`, `Word.IsReadFrom` : a text is a token of its kind, or is read as one.
* `Lexer.Separates`, `Separated` : what stands between tokens.

## Main results

* `Lexer.scan?_append` : a scan stops in front of a blank.
* `Cursor.lexemes_separated` : texts of tokens that are separated are read token by token.
* `SourceFile.words_of_spaced` : the tokens of words with blanks between them.
-/

namespace ThreeAddress

namespace Lexer

/-! ### Scans in front of a blank -/

section Blank

variable {w : UInt8} (hw : w ≤ 0x20) (a r : Bytes)
include hw

theorem eq_false_of_visible {p : UInt8 → Bool} (hp : ∀ x, p x = true → 0x20 < x ∧ x < 0x7F) :
    p w = false := by
  refine Bool.eq_false_iff.mpr fun h => ?_
  exact absurd (UInt8.lt_of_lt_of_le (hp w h).1 hw) (UInt8.lt_irrefl _)

theorem ne_of_visible {x : UInt8} (hx : 0x20 < x) : (w == x) = false := by
  rw [beq_eq_false_iff_ne]
  rintro rfl
  exact absurd (UInt8.lt_of_lt_of_le hx hw) (UInt8.lt_irrefl _)

omit hw in
theorem takeWhile_append_cons {p : UInt8 → Bool} (hp : p w = false) :
    (a ++ w :: r).takeWhile p = a.takeWhile p := by
  induction a with
  | nil => simp [hp]
  | cons b a ih => simp [List.takeWhile_cons, ih]

omit hw in
theorem any_head?_append_cons {p : UInt8 → Bool} (hp : p w = false) :
    (a ++ w :: r).head?.any p = a.head?.any p := by
  cases a with
  | nil => simp [hp]
  | cons b a => rfl

theorem isNameStart_eq_false : isNameStart w = false := by
  refine eq_false_of_visible hw fun x h => ?_
  simp only [isNameStart, Bool.or_eq_true, Bool.and_eq_true, decide_eq_true_eq] at h
  rcases h with (h | h) | h
  · rw [eq_of_beq h]
    decide
  · exact ⟨UInt8.lt_of_lt_of_le (by decide) h.1, UInt8.lt_of_le_of_lt h.2 (by decide)⟩
  · exact ⟨UInt8.lt_of_lt_of_le (by decide) h.1, UInt8.lt_of_le_of_lt h.2 (by decide)⟩

theorem isDigit_eq_false : isDigit w = false :=
  eq_false_of_visible hw fun _ h => visible_of_isPlain (isPlain_of_isDigit h)

theorem isNamePart_eq_false : isNamePart w = false := by
  rw [isNamePart, isNameStart_eq_false hw, isDigit_eq_false hw]
  rfl

/-! #### Numbers -/

theorem nameTail_append : nameTail (a ++ w :: r) = nameTail a :=
  takeWhile_append_cons a r (isNamePart_eq_false hw)

theorem digitRun_append {digit : UInt8 → Bool}
    (hdigit : ∀ x, digit x = true → Unicode.IsPlain x.toNat) :
    digitRun digit (a ++ w :: r) = digitRun digit a := by
  have hfalse : digit w = false :=
    eq_false_of_visible hw fun x hx => visible_of_isPlain (hdigit x hx)
  have hrun : (digit w || w == '_'.toUInt8) = false := by
    rw [hfalse, ne_of_visible hw (by decide)]
    rfl
  rw [digitRun, digitRun, any_head?_append_cons a r hfalse, takeWhile_append_cons a r hrun]

theorem finishNumber_append (kind : TokenKind) (taken : Nat) :
    finishNumber kind taken (a ++ w :: r) = finishNumber kind taken a := by
  rw [finishNumber, finishNumber, any_head?_append_cons a r (isNameStart_eq_false hw),
    nameTail_append hw]

theorem badSeparator_append (taken : Nat) :
    badSeparator taken (a ++ w :: r) = badSeparator taken a := by
  rw [badSeparator, badSeparator, nameTail_append hw]

theorem signSize_append : signSize (a ++ w :: r) = signSize a := by
  have hsign : (w == '+'.toUInt8 || w == '-'.toUInt8) = false := by
    rw [ne_of_visible hw (by decide), ne_of_visible hw (by decide)]
    rfl
  rw [signSize, signSize, any_head?_append_cons a r hsign]

theorem scanBased_append {digit : UInt8 → Bool}
    (hdigit : ∀ x, digit x = true → Unicode.IsPlain x.toNat) :
    scanBased digit (a ++ w :: r) = scanBased digit a := by
  simp only [scanBased, digitRun_append hw a r hdigit,
    List.drop_append_of_le_length (front_digitRun digit a).length_le, finishNumber_append hw,
    badSeparator_append hw]

theorem scanExponent_append (kind : TokenKind) (taken : Nat) :
    scanExponent kind taken (a ++ w :: r) = scanExponent kind taken a := by
  cases a with
  | nil =>
    have hletter : (w == 'e'.toUInt8 || w == 'E'.toUInt8) = false := by
      rw [ne_of_visible hw (by decide), ne_of_visible hw (by decide)]
      rfl
    simp only [scanExponent, List.nil_append, hletter, Bool.false_eq_true, if_false]
    exact finishNumber_append hw [] r kind taken
  | cons e a =>
    have hsign : signSize a ≤ a.length :=
      (plain_take_signSize a).2 ▸ List.length_take_le' _ _
    have hrun := digitRun_append hw (a.drop (signSize a)) r fun _ h => isPlain_of_isDigit h
    have hlength : signSize a + (digitRun isDigit (a.drop (signSize a))).length ≤ a.length := by
      have := (front_digitRun isDigit (a.drop (signSize a))).length_le
      rw [List.length_drop] at this
      omega
    have htail : nameTail (e :: (a ++ w :: r)) = nameTail (e :: a) := nameTail_append hw (e :: a) r
    have hfinish := finishNumber_append hw (e :: a) r kind taken
    simp only [List.cons_append] at hfinish
    simp only [scanExponent, List.cons_append, signSize_append hw, hrun,
      List.drop_append_of_le_length hsign, List.drop_append_of_le_length hlength,
      finishNumber_append hw, badSeparator_append hw, htail, hfinish]

/-- A point at the very end is no part of the number, but it spoils one in front of a blank. -/
theorem scanDecimal_append (hpoint : a.drop (digitRun isDigit a).length ≠ ['.'.toUInt8]) :
    scanDecimal (a ++ w :: r) = scanDecimal a := by
  have hrun := digitRun_append hw a r fun _ h => isPlain_of_isDigit h
  have hfront := (front_digitRun isDigit a).length_le
  unfold scanDecimal
  simp only [hrun, List.drop_append_of_le_length hfront, badSeparator_append hw]
  cases hrest : a.drop (digitRun isDigit a).length with
  | nil =>
    have hexponent := scanExponent_append hw [] r .integer (digitRun isDigit a).length
    have hpoint : (w == '.'.toUInt8) = false := ne_of_visible hw (by decide)
    rw [List.nil_append] at hexponent
    cases r with
    | nil => simp only [List.nil_append, hexponent]
    | cons d r => simp only [List.nil_append, hpoint, Bool.false_eq_true, if_false, hexponent]
  | cons p rest =>
    have hexponent := scanExponent_append hw (p :: rest) r .integer (digitRun isDigit a).length
    rw [List.cons_append] at hexponent
    cases rest with
    | nil =>
      have hp : (p == '.'.toUInt8) = false := by
        rw [beq_eq_false_iff_ne]
        rintro rfl
        exact hpoint hrest
      simp only [List.cons_append, List.nil_append] at hexponent ⊢
      simp only [hp, Bool.false_eq_true, if_false, hexponent]
    | cons d more =>
      have hfraction := digitRun_append hw (d :: more) r fun _ h => isPlain_of_isDigit h
      have hlength : (digitRun isDigit a).length + 1 + (digitRun isDigit (d :: more)).length ≤
          a.length := by
        have hle := (front_digitRun isDigit (d :: more)).length_le
        have htotal := congrArg List.length hrest
        rw [List.length_drop, List.length_cons] at htotal
        omega
      simp only [List.cons_append] at hexponent hfraction ⊢
      simp only [List.drop_one, List.tail_cons, hfraction, List.drop_append_of_le_length hlength,
        scanExponent_append hw, badSeparator_append hw, hexponent]

theorem scanNumber_append (hpoint : a.drop (digitRun isDigit a).length ≠ ['.'.toUInt8])
    (hne : a ≠ []) : scanNumber (a ++ w :: r) = scanNumber a := by
  have hdecimal := scanDecimal_append hw a r hpoint
  have hdigits := digitRun_append hw a r fun _ h => isPlain_of_isDigit h
  rcases a with _ | ⟨z, _ | ⟨b, rest⟩⟩
  · exact absurd rfl hne
  · have hbase : baseDigits? w = none := by
      unfold baseDigits?
      simp only [ne_of_visible hw (show 0x20 < 'x'.toUInt8 by decide),
        ne_of_visible hw (show 0x20 < 'X'.toUInt8 by decide),
        ne_of_visible hw (show 0x20 < 'b'.toUInt8 by decide),
        ne_of_visible hw (show 0x20 < 'B'.toUInt8 by decide),
        ne_of_visible hw (show 0x20 < 'o'.toUInt8 by decide),
        ne_of_visible hw (show 0x20 < 'O'.toUInt8 by decide)]
      rfl
    simp only [List.cons_append, List.nil_append] at hdecimal ⊢
    simp only [scanNumber, hbase, isDigit_eq_false hw, Bool.false_eq_true, if_false, ite_self,
      hdecimal]
  · simp only [List.cons_append] at hdecimal hdigits ⊢
    unfold scanNumber
    cases hbase : baseDigits? b with
    | none => simp only [hbase, hdecimal, hdigits]
    | some digit =>
      simp only [hbase, hdecimal, scanBased_append hw rest r (isPlain_of_baseDigits? hbase).2]

omit hw in
/-- A number does not take a point at the very end. -/
theorem scanNumber_of_point {a : Bytes}
    (hpoint : a.drop (digitRun isDigit a).length = ['.'.toUInt8]) :
    (scanNumber a).kind = .invalid ∨ (scanNumber a).size ≠ a.length := by
  have hdecimal : (scanDecimal a).kind = .invalid ∨ (scanDecimal a).size ≠ a.length := by
    have hlength := congrArg List.length hpoint
    rw [List.length_drop, List.length_singleton] at hlength
    have hexponent : scanExponent .integer (digitRun isDigit a).length ['.'.toUInt8] =
        ⟨.integer, (digitRun isDigit a).length, []⟩ := rfl
    unfold scanDecimal
    simp only [hpoint, hexponent]
    split
    · exact .inl rfl
    · refine .inr fun h => ?_
      dsimp only at h
      omega
  unfold scanNumber
  split
  · rename_i z b rest
    split
    · rename_i hzero
      split
      · rename_i digit hbase
        -- a base marker is neither a digit nor a point
        have hmarker : isDigit b = false ∧ (b == '_'.toUInt8) = false ∧ b ≠ '.'.toUInt8 := by
          unfold baseDigits? at hbase
          split at hbase
          · rename_i hb
            rcases Bool.or_eq_true_iff.mp hb with hb | hb <;> rw [eq_of_beq hb] <;> decide
          · split at hbase
            · rename_i hb
              rcases Bool.or_eq_true_iff.mp hb with hb | hb <;> rw [eq_of_beq hb] <;> decide
            · split at hbase
              · rename_i hb
                rcases Bool.or_eq_true_iff.mp hb with hb | hb <;> rw [eq_of_beq hb] <;> decide
              · cases hbase
        have hrun : digitRun isDigit (z :: b :: rest) = [z] := by
          have hz : isDigit z = true := by
            rw [eq_of_beq hzero]
            decide
          simp [digitRun, hz, hmarker.1, hmarker.2.1]
        rw [hrun] at hpoint
        exact absurd (List.cons.inj hpoint).1 hmarker.2.2
      · split
        · exact .inl rfl
        · exact hdecimal
    · exact hdecimal
  · exact hdecimal

/-! #### Names and chars -/

theorem decode?_append (hne : a ≠ []) : Utf8.decode? (a ++ w :: r) = Utf8.decode? a := by
  cases a with
  | nil => exact absurd rfl hne
  | cons b a =>
    have hascii : w < 0x80 := UInt8.lt_of_le_of_lt hw (by decide)
    rw [List.cons_append, Utf8.decode?, Utf8.decode?, Utf8.encoding?_append_ascii hascii]

/-- The bytes of the name characters at the front end in front of a blank. -/
theorem namePartFrom_append {k : Nat} (hk : k ≤ a.length) :
    namePartFrom k (a ++ w :: r) = namePartFrom k a ∧ namePartFrom k a ≤ a.length := by
  have hascii : w < 0x80 := UInt8.lt_of_le_of_lt hw (by decide)
  induction a generalizing k with
  | nil =>
    obtain rfl : k = 0 := Nat.le_zero.mp hk
    have hchar : isNamePartChar (Char.ofNat w.toNat) = false := by
      have hall : ∀ n ≤ 0x20, isNamePartChar (Char.ofNat n) = false := by
        decide
      exact hall w.toNat (UInt8.le_iff_toNat_le.mp hw)
    have hencoding : Utf8.encoding? (w :: r) = some (Char.ofNat w.toNat, 1) := by
      simp [Utf8.encoding?, hascii]
    simp [namePartFrom, hencoding, hchar]
  | cons b a ih =>
    cases k with
    | succ k =>
      obtain ⟨hsame, hle⟩ := @ih k (by simpa using hk)
      simp only [List.cons_append, namePartFrom, hsame, List.length_cons, true_and]
      omega
    | zero =>
      simp only [List.cons_append, namePartFrom, Utf8.encoding?_append_ascii hascii]
      cases henc : Utf8.encoding? (b :: a) with
      | none => exact ⟨rfl, Nat.zero_le _⟩
      | some p =>
        obtain ⟨c, n⟩ := p
        obtain ⟨hpos, hlen⟩ := Utf8.size_le_of_encoding? henc
        rw [List.length_cons] at hlen
        obtain ⟨hsame, hle⟩ := @ih (n - 1) (by omega)
        dsimp only
        split
        · rw [hsame, List.length_cons]
          exact ⟨rfl, by omega⟩
        · exact ⟨rfl, Nat.zero_le _⟩

theorem scanName_append (hne : a ≠ []) : scanName (a ++ w :: r) = scanName a := by
  obtain ⟨hsame, hle⟩ := namePartFrom_append hw a r (Nat.zero_le _)
  have hsize : namePartSize (a ++ w :: r) = namePartSize a := hsame
  have htake : (a ++ w :: r).take (namePartSize a) = a.take (namePartSize a) :=
    List.take_append_of_le_length hle
  unfold scanName
  simp only [decode?_append hw a r hne, hsize, htake]

theorem charSize_append (hne : a ≠ []) : charSize (a ++ w :: r) = charSize a := by
  rw [charSize, charSize, decode?_append hw a r hne]

omit hw in
/-- A literal that is closed is closed in front of a blank as well. -/
theorem closeChar_append {taken size : Nat} {earlier : List (Nat × Complaint)}
    (h : (closeChar taken (a.drop size) earlier).kind ≠ .invalid) :
    closeChar taken ((a ++ w :: r).drop size) earlier = closeChar taken (a.drop size) earlier := by
  unfold closeChar at h ⊢
  split at h
  · rename_i hquote
    have hle : size ≤ a.length := by
      rcases Nat.le_total size a.length with hle | hle
      · exact hle
      · rw [List.drop_eq_nil_of_le hle] at hquote
        cases hquote
    have hquote' : ((a ++ w :: r).drop size).head? = some '\''.toUInt8 := by
      rw [List.drop_append_of_le_length hle, List.head?_append, hquote]
      rfl
    rw [if_pos hquote, if_pos hquote']
  · exact absurd rfl h

theorem scanChar_append (h : (scanChar a).kind ≠ .invalid) :
    scanChar (a ++ w :: r) = scanChar a := by
  cases a with
  | nil => exact absurd rfl h
  | cons b rest =>
    have hchar := charSize_append hw (b :: rest) r (List.cons_ne_nil b rest)
    have hescape : (rest ++ w :: r).head?.any isEscape = rest.head?.any isEscape := by
      refine any_head?_append_cons rest r (eq_false_of_visible hw fun x hx => ?_)
      simp only [isEscape, Bool.or_eq_true, beq_iff_eq] at hx
      rcases hx with ((((rfl | rfl) | rfl) | rfl) | rfl) | rfl <;> decide
    simp only [List.cons_append] at hchar ⊢
    simp only [scanChar] at h ⊢
    split at h
    · exact absurd rfl h
    · rename_i hnewline
      rw [if_neg hnewline, if_neg hnewline]
      split at h
      · exact absurd rfl h
      · rename_i hquote
        rw [if_neg hquote, if_neg hquote]
        split at h
        · rename_i hbackslash
          rw [if_pos hbackslash, if_pos hbackslash, hescape]
          split at h
          · rename_i hletter
            rw [if_pos hletter, if_pos hletter]
            exact closeChar_append rest r h
          · rename_i hletter
            rw [if_neg hletter, if_neg hletter]
            cases rest with
            | nil => exact absurd rfl h
            | cons c rest =>
              rw [charSize_append hw (c :: rest) r (List.cons_ne_nil c rest)]
              exact closeChar_append (c :: rest) r h
        · rename_i hbackslash
          rw [if_neg hbackslash, if_neg hbackslash, hchar]
          exact closeChar_append (b :: rest) r h

/-- A scan that takes a whole text stops in front of a blank behind the text. -/
theorem scan?_append {s : Scan} (h : scan? a = some s) (hkind : s.kind ≠ .invalid)
    (hsize : s.size = a.length) : scan? (a ++ w :: r) = some s := by
  cases a with
  | nil => cases h
  | cons b a =>
    have hne : b :: a ≠ [] := List.cons_ne_nil b a
    have hname := scanName_append hw (b :: a) r hne
    simp only [List.cons_append] at hname ⊢
    simp only [scan?] at h ⊢
    split at h
    · rename_i hstart
      rw [if_pos hstart, hname, h]
    · rename_i hstart
      rw [if_neg hstart]
      split at h
      · rename_i hdigit
        have hnumber : scanNumber (b :: a) = s := Option.some.inj h
        have hpoint : (b :: a).drop (digitRun isDigit (b :: a)).length ≠ ['.'.toUInt8] := by
          intro hpoint
          rcases scanNumber_of_point hpoint with hinvalid | hshort
          · exact hkind (hnumber ▸ hinvalid)
          · exact hshort (hnumber ▸ hsize)
        rw [if_pos hdigit, ← h]
        exact congrArg some (scanNumber_append hw (b :: a) r hpoint hne)
      · rename_i hdigit
        rw [if_neg hdigit]
        split at h
        · rename_i hquote
          rw [if_pos hquote, scanChar_append hw a r (by rwa [Option.some.inj h]), h]
        · rename_i hquote
          rw [if_neg hquote]
          exact h

end Blank

end Lexer

/-! ### Words -/

/-- The kind and the text of a token. -/
structure Word where
  /-- The kind. -/
  kind : TokenKind
  /-- The text. -/
  text : Bytes
deriving Repr, DecidableEq

/-- The kind and the text of a token. -/
def Token.word (t : Token) : Word :=
  ⟨t.kind, t.text⟩

namespace Word

open Lexer

/-- A text is a token of its kind with that text, about which there are some complaints. -/
structure Lexes (w : Word) (cs : List (Nat × Complaint)) : Prop where
  /-- It is read as a whole. -/
  scan : scan? w.text = some ⟨w.kind, w.text.length, cs⟩
  /-- It stands for itself. -/
  text : tokenText w.kind w.text = w.text
  /-- It is a proper token. -/
  valid : w.kind ≠ .invalid

instance {w : Word} {cs : List (Nat × Complaint)} : Decidable (w.Lexes cs) :=
  decidable_of_iff (scan? w.text = some ⟨w.kind, w.text.length, cs⟩ ∧
      tokenText w.kind w.text = w.text ∧ w.kind ≠ .invalid)
    ⟨fun h => ⟨h.1, h.2.1, h.2.2⟩, fun h => ⟨h.scan, h.text, h.valid⟩⟩

/-- The text of words with blanks between them. -/
def spaced (ws : List Word) : Bytes :=
  Bytes.joinWith (utf8 " ") (ws.map Word.text)

@[simp] theorem spaced_nil : spaced [] = [] := rfl

@[simp] theorem spaced_singleton (w : Word) : spaced [w] = w.text := rfl

theorem spaced_cons_cons (v w : Word) (ws : List Word) :
    spaced (v :: w :: ws) = v.text ++ 0x20 :: spaced (w :: ws) := by
  have hblank : utf8 " " = [0x20] := by decide
  simp [spaced, Bytes.joinWith, hblank]

variable {w : Word} {cs : List (Nat × Complaint)}

/-- A text is read as the token of a word, about which there are some complaints. A name need not be
spelled in the text as it is in the word. -/
structure IsReadFrom (w : Word) (bs : Bytes) (cs : List (Nat × Complaint)) : Prop where
  /-- It is read as a whole. -/
  scan : scan? bs = some ⟨w.kind, bs.length, cs⟩
  /-- It stands for the word. -/
  text : tokenText w.kind bs = w.text
  /-- The word is a proper token. -/
  valid : w.kind ≠ .invalid

theorem Lexes.isReadFrom (h : w.Lexes cs) : w.IsReadFrom w.text cs :=
  ⟨h.scan, h.text, h.valid⟩

/-- No token starts with trivia. -/
theorem IsReadFrom.triviaSize_append {bs : Bytes} (h : w.IsReadFrom bs cs) {r : Bytes}
    (hr : r.head?.all isBlank = true) : triviaSize (bs ++ r) = 0 := by
  have hscan := h.scan
  cases bs with
  | nil => cases hscan
  | cons b a =>
    have hblank : isBlank b = false := by
      refine Bool.eq_false_iff.mpr fun hb => h.valid ?_
      simp only [isBlank, Bool.or_eq_true, beq_iff_eq] at hb
      rcases hb with ((rfl | rfl) | rfl) | rfl <;>
      · exact (congrArg Scan.kind (Option.some.inj hscan)).symm
    have hcomment : (b == '/'.toUInt8 && (a ++ r).head? == some '/'.toUInt8) = false := by
      refine Bool.eq_false_iff.mpr fun hslash => ?_
      rw [Bool.and_eq_true, beq_iff_eq, beq_iff_eq] at hslash
      obtain ⟨rfl, hnext⟩ := hslash
      -- a slash is a token of one byte, and what follows it is no slash
      have hsize : 1 = ('/'.toUInt8 :: a).length := congrArg Scan.size (Option.some.inj hscan)
      rw [List.length_cons] at hsize
      rw [List.eq_nil_of_length_eq_zero (by omega : a.length = 0), List.nil_append] at hnext
      rw [hnext] at hr
      revert hr
      decide
    rw [List.cons_append, triviaSize, triviaFrom, hblank, hcomment]
    rfl

theorem IsReadFrom.unique {bs : Bytes} {ds : List (Nat × Complaint)} (h : w.IsReadFrom bs cs)
    (h' : w.IsReadFrom bs ds) : cs = ds :=
  congrArg Scan.complaints (Option.some.inj (h.scan.symm.trans h'.scan))

end Word

/-! ### Texts between tokens -/

namespace Lexer

theorem le_of_isBlank {b : UInt8} (h : isBlank b = true) : b ≤ 0x20 := by
  simp only [isBlank, Bool.or_eq_true, beq_iff_eq] at h
  rcases h with ((rfl | rfl) | rfl) | rfl <;> decide

/-- A text separates tokens: it starts with a blank and is skipped as a whole, whatever stands
behind it. -/
structure Separates (sep : Bytes) : Prop where
  /-- Its first byte is a blank. -/
  blank : sep.head?.any isBlank = true
  /-- It is skipped. -/
  skipped : ∀ r, triviaSize (sep ++ r) = sep.length + triviaSize r

theorem Separates.head_append {sep : Bytes} (h : Separates sep) (r : Bytes) :
    (sep ++ r).head?.all isBlank = true := by
  have hblank := h.blank
  cases sep with
  | nil => cases hblank
  | cons b sep => exact hblank

theorem separates_blank {b : UInt8} (h : isBlank b = true) : Separates [b] where
  blank := h
  skipped r := by
    show triviaFrom false (b :: r) = _
    rw [triviaFrom, if_pos h]
    rfl

end Lexer

/-- Texts with something between each two of them. -/
inductive Separated (sep : Bytes → Prop) : List Bytes → Bytes → Prop
  | nil : Separated sep [] []
  | single (b : Bytes) : Separated sep [b] b
  | cons {b c : Bytes} {bs : List Bytes} {s rest : Bytes} (hs : sep s)
      (h : Separated sep (c :: bs) rest) : Separated sep (b :: c :: bs) (b ++ s ++ rest)

theorem Separated.mono {sep sep' : Bytes → Prop} (himp : ∀ s, sep s → sep' s) {bs : List Bytes}
    {text : Bytes} (h : Separated sep bs text) : Separated sep' bs text := by
  induction h with
  | nil => exact .nil
  | single b => exact .single b
  | cons hs _ ih => exact .cons (himp _ hs) ih

namespace Word

open Lexer

theorem separated_spaced : ∀ ws : List Word, Separated Separates (ws.map text) (spaced ws)
  | [] => .nil
  | [w] => .single w.text
  | v :: w :: ws => by
    have hblank : v.text ++ 0x20 :: spaced (w :: ws) = v.text ++ [0x20] ++ spaced (w :: ws) := by
      rw [List.append_assoc]
      rfl
    rw [spaced_cons_cons, hblank]
    exact .cons (separates_blank (by decide)) (separated_spaced (w :: ws))

theorem isReadFrom_text {ws : List Word} (h : ∀ w ∈ ws, ∃ cs, w.Lexes cs) :
    List.Forall₂ (fun w b => ∃ cs, w.IsReadFrom b cs) ws (ws.map text) := by
  rw [List.forall₂_map_right_iff, List.forall₂_same]
  exact fun w hw => (h w hw).imp fun _ => Lexes.isReadFrom

end Word

/-! ### Words ahead of a cursor -/

namespace Cursor

open Lexer

theorem lexemes_of_none {c : Cursor} (h : scan? c.skipTrivia.rest = none) :
    c.lexemes = [c.skipTrivia.endLexeme] := by
  rw [lexemes]
  split
  · rfl
  · rename_i h'
    rw [h] at h'
    cases h'

theorem lexemes_of_some {c : Cursor} {s : Scan} (h : scan? c.skipTrivia.rest = some s) :
    c.lexemes = c.skipTrivia.lexemeOf s :: (c.skipTrivia.advance s.size).lexemes := by
  rw [lexemes]
  split
  · rename_i h'
    rw [h] at h'
    cases h'
  · rename_i s' h'
    rw [h] at h'
    cases h'
    rfl

variable {w : Word} {ws : List Word} {bs : List Bytes} {text : Bytes}
  {cs : List (Nat × Complaint)} {c : Cursor}

/-- The text of a token in front of a blank, or of nothing, is read as that token. -/
theorem lexemes_word {b : Bytes} (h : w.IsReadFrom b cs) {r : Bytes}
    (hr : r.head?.all isBlank = true) (hc : c.skipTrivia.rest = b ++ r) :
    ∃ (l : Lexeme) (c' : Cursor), c.lexemes = l :: c'.lexemes ∧ c'.rest = r ∧ l.token.word = w ∧
      (l.diagnostics = [] ↔ cs = []) := by
  have hscan : scan? (b ++ r) = some ⟨w.kind, b.length, cs⟩ := by
    cases r with
    | nil =>
      rw [List.append_nil]
      exact h.scan
    | cons x r => exact scan?_append (le_of_isBlank hr) b r h.scan h.valid rfl
  rw [← hc] at hscan
  refine ⟨_, _, lexemes_of_some hscan, ?_, ?_, ?_⟩
  · rw [rest_advance, hc]
    exact List.drop_left
  · have htake : (b ++ r).take b.length = b := List.take_left
    simp only [lexemeOf, Token.word, hc, htake, h.text]
  · exact List.map_eq_nil_iff

/-- No text of tokens starts with trivia. -/
theorem triviaSize_separated (h : List.Forall₂ (fun w b => ∃ cs, w.IsReadFrom b cs) ws bs)
    (htext : Separated Separates bs text) : triviaSize text = 0 := by
  cases htext with
  | nil => rfl
  | single b =>
    cases h with
    | cons hread _ =>
      obtain ⟨cs, hread⟩ := hread
      simpa using hread.triviaSize_append (r := []) rfl
  | cons hsep hrest =>
    cases h with
    | cons hread _ =>
      obtain ⟨cs, hread⟩ := hread
      rw [List.append_assoc]
      exact hread.triviaSize_append (hsep.head_append _)

/-- Texts of tokens with something between them that separates them are read token by token. -/
theorem lexemes_separated (h : List.Forall₂ (fun w b => ∃ cs, w.IsReadFrom b cs) ws bs)
    (htext : Separated Separates bs text) (hc : c.skipTrivia.rest = text) :
    ∃ (front : List Lexeme) (stop : Lexeme), c.lexemes = front ++ [stop] ∧
      stop.token.word = ⟨.endOfFile, []⟩ ∧
      (front.map fun l => l.token.word) = ws ∧
      List.Forall₂ (fun b l => l.diagnostics = [] ↔ l.token.word.IsReadFrom b []) bs front := by
  induction htext generalizing c ws with
  | nil =>
    cases h
    have hnone : scan? c.skipTrivia.rest = none := by
      rw [hc]
      rfl
    exact ⟨[], _, lexemes_of_none hnone, rfl, rfl, .nil⟩
  | single b =>
    cases h with
    | cons hread hnil =>
      cases hnil
      obtain ⟨cs, hread⟩ := hread
      obtain ⟨l, c', hlexemes, hc', rfl, hsilent⟩ := lexemes_word hread (r := []) rfl
        (by rw [hc, List.append_nil])
      have hnone : scan? c'.skipTrivia.rest = none := by
        rw [skipTrivia, rest_advance, hc']
        rfl
      refine ⟨[l], _, by rw [hlexemes, lexemes_of_none hnone]; rfl, rfl, rfl, .cons ?_ .nil⟩
      rw [hsilent]
      exact ⟨fun hnone => hnone ▸ hread, hread.unique⟩
  | @cons b b' bs sep rest hsep hrest ih =>
    cases h with
    | @cons w _ ws _ hread hreads =>
      obtain ⟨cs, hread⟩ := hread
      obtain ⟨l, c', hlexemes, hc', rfl, hsilent⟩ := lexemes_word hread (hsep.head_append rest)
        (by rw [hc, List.append_assoc])
      have hnext : c'.skipTrivia.rest = rest := by
        rw [skipTrivia, rest_advance, hc', hsep.skipped, triviaSize_separated hreads hrest,
          Nat.add_zero, List.drop_left]
      obtain ⟨front, stop, hfront, hstop, rfl, hall⟩ := ih hreads hnext
      refine ⟨l :: front, stop, by rw [hlexemes, hfront]; rfl, hstop, rfl, .cons ?_ hall⟩
      rw [hsilent]
      exact ⟨fun hnone => hnone ▸ hread, hread.unique⟩

/-- Words with blanks between them are read word by word. -/
theorem lexemes_spaced (h : ∀ w ∈ ws, ∃ cs, w.Lexes cs) (hc : c.skipTrivia.rest = Word.spaced ws) :
    ∃ (front : List Lexeme) (stop : Lexeme), c.lexemes = front ++ [stop] ∧
      (front.map fun l => l.token.word) = ws ∧
      ∀ l ∈ front, (l.diagnostics = [] ↔ l.token.word.Lexes []) := by
  obtain ⟨front, stop, hlexemes, -, hwords, hall⟩ :=
    lexemes_separated (Word.isReadFrom_text h) (Word.separated_spaced ws) hc
  refine ⟨front, stop, hlexemes, hwords, ?_⟩
  rw [← hwords, List.map_map, List.forall₂_map_left_iff, List.forall₂_same] at hall
  exact fun l hl => (hall l hl).trans ⟨fun hread => ⟨hread.scan, hread.text, hread.valid⟩,
    Word.Lexes.isReadFrom⟩

end Cursor

/-- The tokens of a source of words with blanks between them are those words, and lexing has
something to tell about the words with complaints. -/
theorem SourceFile.words_of_spaced {f : SourceFile} {ws : List Word}
    (hsize : f.content.length < UInt32.size) (hws : ∀ w ∈ ws, ∃ cs, w.Lexes cs)
    (hcontent : f.content = Word.spaced ws) :
    (Parse.Input.ofLexemes f.lexemes).ahead.map (fun l => l.token.word) = ws ∧
      ∀ l ∈ (Parse.Input.ofLexemes f.lexemes).ahead,
        (l.diagnostics = [] ↔ l.token.word.Lexes []) := by
  have hstart : Cursor.start? f.id f.content =
      some ⟨f.id, f.content, 0, f.content, hsize, by simp, by simp⟩ := dif_pos hsize
  have hrest : f.content.drop (Lexer.triviaSize f.content) = Word.spaced ws := by
    rw [hcontent, Cursor.triviaSize_separated (Word.isReadFrom_text hws)
      (Word.separated_spaced ws)]
    rfl
  obtain ⟨front, stop, hlexemes, hwords, hall⟩ := Cursor.lexemes_spaced hws
    (c := ⟨f.id, f.content, 0, f.content, hsize, by simp, by simp⟩) hrest
  have hsource : f.lexemes = front ++ [stop] := by
    rw [SourceFile.lexemes, hstart]
    exact hlexemes
  obtain ⟨front', stop', hsource', -, -, -, hahead⟩ := f.exists_lexemes hsize
  obtain ⟨rfl, -⟩ := List.append_inj' (hsource.symm.trans hsource') rfl
  exact ⟨hahead ▸ hwords, hahead ▸ hall⟩

end ThreeAddress
