import ThreeAddress.Proofs.Lexer.Separation
import ThreeAddress.Proofs.Unicode.Plain
import ThreeAddress.Token.Check

/-!
# Tokens and trivia tile the source

The tokens of a source stand in it one behind the other. What lies in front of the first, between
two of them and behind the last is trivia, so no byte is lost and none is read twice. The text of a
token is what stands at its span; only a name with characters beyond ASCII is spelled anew.

## Main definitions

* `IsTrivia` : blanks and comments.
* `spelling` : the text of a token over the given bytes.
* `Token.FitsIn` : a token stands in a source.
* `Tiles` : spans and trivia make up a source.

## Main results

* `isTrivia_take_triviaSize` : what is skipped is trivia.
* `tokenText_eq_spelling` : the text of a scanned token.
* `SourceFile.tiles_lexemes` : the tokens of a source tile it.
-/

namespace ThreeAddress

/-- Blanks, and comments that run to the end of their line. Only the last comment of a source may
come without a newline. -/
inductive IsTrivia (atEnd : Bool) : Bytes → Prop
  | nil : IsTrivia atEnd []
  | blank {b : UInt8} {bs : Bytes} (hb : Lexer.isBlank b = true) (h : IsTrivia atEnd bs) :
      IsTrivia atEnd (b :: bs)
  | comment {text bs : Bytes} (htext : '\n'.toUInt8 ∉ text) (h : IsTrivia atEnd bs) :
      IsTrivia atEnd (utf8 "//" ++ text ++ '\n'.toUInt8 :: bs)
  | lastComment {text : Bytes} (hend : atEnd = true) (htext : '\n'.toUInt8 ∉ text) :
      IsTrivia atEnd (utf8 "//" ++ text)

/-- The text of a token of the given kind over the given bytes: the bytes themselves, but names with
characters beyond ASCII in normalization form C. -/
def spelling (kind : TokenKind) (bs : Bytes) : Bytes :=
  if kind = .identifier ∧ ∃ b ∈ bs, 0x80 ≤ b then utf8Chars (Unicode.nfc (Utf8.chars bs)) else bs

/-- A token of a source that takes some of its bytes and tells them. -/
structure Token.FitsIn (t : Token) (file : FileId) (content : Bytes) : Prop where
  /-- It does not end the source. -/
  kind_ne : t.kind ≠ .endOfFile
  /-- It belongs to the file. -/
  file_eq : t.span.file = file
  /-- It takes a byte. -/
  nonempty : t.span.start < t.span.stop
  /-- It ends in the source. -/
  inside : t.span.stop.toNat ≤ content.length
  /-- Its text is what stands there. -/
  text_eq : t.text =
    spelling t.kind (SourceFile.slice content t.span.start.toNat t.span.stop.toNat)

/-- From an offset on, a source is made up of the given spans and trivia. -/
inductive Tiles (content : Bytes) : Nat → List Span → Prop
  | nil {n : Nat} (htrivia : IsTrivia true (content.drop n)) : Tiles content n []
  | cons {n : Nat} {s : Span} {ss : List Span} (hn : n ≤ s.start.toNat)
      (htrivia : IsTrivia false (SourceFile.slice content n s.start.toNat))
      (h : Tiles content s.stop.toNat ss) : Tiles content n (s :: ss)

/-- The token that ends a source. -/
def Token.endOf (file : FileId) (content : Bytes) : Token :=
  ⟨.endOfFile, ⟨file, UInt32.ofNat content.length, UInt32.ofNat content.length⟩, []⟩

namespace Lexer

/-! ### Trivia -/

/-- A comment ends with the first newline, or with the source. -/
theorem triviaFrom_true (bs : Bytes) :
    (∃ text rest, bs = text ++ '\n'.toUInt8 :: rest ∧ '\n'.toUInt8 ∉ text ∧
      triviaFrom true bs = text.length + 1 + triviaFrom false rest) ∨
      '\n'.toUInt8 ∉ bs ∧ triviaFrom true bs = bs.length := by
  induction bs with
  | nil => exact .inr ⟨by simp, rfl⟩
  | cons b bs ih =>
    by_cases hb : b = '\n'.toUInt8
    · subst hb
      exact .inl ⟨[], bs, rfl, by simp, by simp [triviaFrom]⟩
    · have hstep : triviaFrom true (b :: bs) = 1 + triviaFrom true bs := by
        rw [triviaFrom, bne_iff_ne.mpr hb]
      rcases ih with ⟨text, rest, rfl, htext, hsize⟩ | ⟨htext, hsize⟩
      · refine .inl ⟨b :: text, rest, rfl, ?_, ?_⟩
        · simpa [Ne.symm hb] using htext
        · rw [hstep, hsize, List.length_cons]
          omega
      · refine .inr ⟨by simpa [Ne.symm hb] using htext, ?_⟩
        rw [hstep, hsize, List.length_cons]
        omega

theorem triviaFrom_slashes (body : Bytes) :
    triviaFrom true ('/'.toUInt8 :: body) = 1 + triviaFrom true body := by
  rw [triviaFrom, bne_iff_ne.mpr (by decide)]

theorem slashes_append (bs : Bytes) : utf8 "//" ++ bs = '/'.toUInt8 :: '/'.toUInt8 :: bs := by
  rfl

/-- What is skipped is trivia; a comment without a newline takes everything. -/
theorem isTrivia_take_triviaSize (bs : Bytes) :
    IsTrivia (bs.drop (triviaSize bs)).isEmpty (bs.take (triviaSize bs)) := by
  induction h : bs.length using Nat.strongRecOn generalizing bs with
  | ind n ih =>
    cases bs with
    | nil => exact .nil
    | cons b rest =>
      unfold triviaSize triviaFrom
      split
      · rename_i hb
        have hrest := ih rest.length (by simp [← h]) rest rfl
        rw [Nat.add_comm]
        exact .blank hb hrest
      · split
        · rename_i hslash
          obtain ⟨hb, hhead⟩ := Bool.and_eq_true_iff.mp hslash
          obtain rfl := eq_of_beq hb
          obtain ⟨body, rfl⟩ : ∃ body, rest = '/'.toUInt8 :: body := by
            cases rest with
            | nil => simp at hhead
            | cons a body => exact ⟨body, by simpa using hhead⟩
          rw [triviaFrom_slashes, ← slashes_append, ← Nat.add_assoc]
          rcases triviaFrom_true body with ⟨text, rest, rfl, htext, hsize⟩ | ⟨htext, hsize⟩
          · have hrest := ih rest.length (by simp [← h]; omega) rest rfl
            have htotal : 1 + 1 + triviaFrom true (text ++ '\n'.toUInt8 :: rest) =
                (utf8 "//" ++ text ++ ['\n'.toUInt8]).length + triviaSize rest := by
              have hslashes : (utf8 "//").length = 2 := by decide
              simp only [hsize, List.length_append, List.length_singleton, hslashes, triviaSize]
              omega
            have hsource : utf8 "//" ++ (text ++ '\n'.toUInt8 :: rest) =
                (utf8 "//" ++ text ++ ['\n'.toUInt8]) ++ rest := by
              simp
            rw [htotal, hsource, List.drop_length_add_append, List.take_length_add_append,
              List.append_assoc]
            exact .comment htext hrest
          · have htotal : 1 + 1 + triviaFrom true body = (utf8 "//" ++ body).length := by
              have hslashes : (utf8 "//").length = 2 := by decide
              rw [hsize, List.length_append, hslashes]
            rw [htotal, List.drop_length, List.take_length]
            exact .lastComment rfl htext
        · exact .nil

/-! ### Text -/

/-- Bytes that are read as ASCII characters are ASCII characters. -/
theorem ascii_of_piecesFrom {bs : Bytes} :
    ∀ k, (∀ p ∈ Utf8.piecesFrom k bs, p.char.toNat < 0x80) → ∀ b ∈ bs.drop k, b < 0x80 := by
  induction bs with
  | nil => simp
  | cons b bs ih =>
    intro k h
    cases k with
    | succ k => exact ih k h
    | zero =>
      rw [Utf8.piecesFrom] at h
      split at h
      · rename_i c n henc
        obtain ⟨hc, hrest⟩ := List.forall_mem_cons.mp h
        have hascii : c.toNat < 0x80 := hc
        obtain ⟨hb, rfl⟩ := Utf8.ascii_of_encoding? henc hascii
        refine List.forall_mem_cons.mpr ⟨?_, ih 0 hrest⟩
        rw [hb, Utf8.ofNat_lt_ascii (Nat.lt_trans hascii (by decide))]
        exact hascii
      · have hreplacement : ¬Utf8.replacement.toNat < 0x80 := by decide
        exact absurd (h _ List.mem_cons_self) hreplacement

/-- A plain text is read as plain characters. -/
theorem arePlain_chars {bs : Bytes} (h : Plain bs) : Unicode.ArePlain (Utf8.chars bs) := by
  induction bs with
  | nil => simp [Utf8.chars, Utf8.pieces, Utf8.piecesFrom, Unicode.ArePlain]
  | cons b bs ih =>
    obtain ⟨hb, hbs⟩ := List.forall_mem_cons.mp h
    have hascii : b < 0x80 := UInt8.lt_trans (visible_of_isPlain hb).2 (by decide)
    rw [Utf8.chars, Utf8.pieces_cons_ascii hascii, List.map_cons, Unicode.arePlain_cons]
    exact ⟨hb.toNat_ofNat, ih hbs⟩

/-- No name is normalized to a plain text that it is not. -/
theorem nameText_of_plain {bs : Bytes} (h : Plain (nameText bs)) : nameText bs = bs := by
  unfold nameText at h ⊢
  split at h
  · rename_i hascii
    exact if_pos hascii
  · rename_i hascii
    have hplain : Unicode.ArePlain (Unicode.nfc (Utf8.chars bs)) := by
      rw [← Utf8.chars_utf8Chars (Unicode.nfc _)]
      exact arePlain_chars h
    refine absurd (List.all_eq_true.mpr fun b hb => decide_eq_true ?_) hascii
    refine ascii_of_piecesFrom 0 (fun p hp => ?_) b hb
    have := (hplain.of_nfc p.char (List.mem_map_of_mem hp)).2
    omega

/-- A keyword is spelled in ASCII: no name with other characters is normalized to one. -/
theorem nameText_of_keyword? {bs : Bytes} {k : TokenKind}
    (h : TokenKind.keyword? (nameText bs) = some k) : nameText bs = bs := by
  apply nameText_of_plain
  rcases keyword?_cases h with ⟨hname, -⟩ | ⟨hname, -⟩ | ⟨hname, -⟩ <;> rw [hname] <;> decide

theorem nameText_eq_spelling (bs : Bytes) : nameText bs = spelling .identifier bs := by
  unfold nameText spelling
  by_cases hascii : ∀ b ∈ bs, b < 0x80
  · rw [if_pos (by simpa using hascii), if_neg]
    rintro ⟨-, b, hb, hle⟩
    exact absurd (hascii b hb) (UInt8.not_lt.mpr hle)
  · rw [if_neg (by simpa using hascii), if_pos]
    simpa using hascii

theorem spelling_of_ne {k : TokenKind} (hk : k ≠ .identifier) (bs : Bytes) : spelling k bs = bs :=
  if_neg fun h => hk h.1

/-- The text of a scanned token. -/
theorem tokenText_eq_spelling {bs : Bytes} {s : Scan} (h : scan? bs = some s) :
    tokenText s.kind (bs.take s.size) = spelling s.kind (bs.take s.size) := by
  have hplain {k : TokenKind} (hk : k ≠ .identifier) {b : Bytes} (htext : tokenText k b = b) :
      tokenText k b = spelling k b := htext.trans (spelling_of_ne hk b).symm
  rcases scan?_cases h with rfl | ⟨b, rest, -, -, rfl⟩ | ⟨body, -, rfl⟩ | ⟨b, k, hk, rfl⟩ | hkind
  · rcases scanName_cases bs with hk | ⟨hsize, hk⟩
    · rw [hk]
      exact hplain (by decide) rfl
    · rw [hk, hsize]
      cases hkey : TokenKind.keyword? (nameText (bs.take (namePartSize bs))) with
      | none => exact nameText_eq_spelling _
      | some k =>
        have htext := nameText_of_keyword? hkey
        rcases keyword?_cases hkey with ⟨-, rfl⟩ | ⟨-, rfl⟩ | ⟨-, rfl⟩ <;>
          exact hplain (by decide) htext
  · rcases isNumberKind_scanNumber bs with hk | hk | hk <;> rw [hk] <;>
      exact hplain (by decide) rfl
  · rcases kind_scanChar body with hk | hk <;> rw [hk] <;> exact hplain (by decide) rfl
  · refine hplain (kind_of_ofPunctuation? hk).2.1 ?_
    unfold TokenKind.ofPunctuation? at hk
    split at hk <;> cases hk <;> rfl
  · rw [hkind]
    exact hplain (by decide) rfl

end Lexer

/-! ### Spans -/

namespace Cursor

/-- The bytes between a cursor and one further ahead. -/
theorem slice_advance (c : Cursor) (n : Nat) :
    SourceFile.slice c.content c.offset.toNat (c.advance n).offset.toNat = c.rest.take n := by
  rw [SourceFile.slice, toNat_offset_advance, List.drop_take, ← c.rest_eq, Nat.add_sub_cancel_left]
  exact List.take_eq_take_min.symm

/-- The token of a scan takes the bytes scanned. -/
theorem fitsIn_lexemeOf {c : Cursor} {s : Lexer.Scan} (h : Lexer.scan? c.rest = some s) :
    (c.lexemeOf s).token.FitsIn c.file c.content where
  kind_ne := Lexer.kind_ne_endOfFile_of_scan? h
  file_eq := rfl
  nonempty := by
    have hpos := Lexer.size_pos_of_scan? h
    have hlength := List.length_pos_iff.mpr (Lexer.ne_nil_of_scan? h)
    show c.offset < (c.advance s.size).offset
    rw [UInt32.lt_iff_toNat_lt, toNat_offset_advance]
    omega
  inside := (c.advance s.size).inside
  text_eq := by
    show Lexer.tokenText s.kind (c.rest.take s.size) =
      spelling s.kind (SourceFile.slice c.content c.offset.toNat (c.advance s.size).offset.toNat)
    rw [slice_advance, Lexer.tokenText_eq_spelling h]

/-- What marks the end of a source stands behind its last byte. -/
theorem endLexeme_of_none {c : Cursor} (h : Lexer.scan? c.skipTrivia.rest = none) :
    c.skipTrivia.endLexeme = ⟨.endOf c.file c.content, []⟩ := by
  have hoffset : c.skipTrivia.offset = UInt32.ofNat c.content.length := by
    have hrest := congrArg List.length (Lexer.scan?_eq_none.mp h)
    rw [length_rest] at hrest
    have hinside := c.skipTrivia.inside
    rw [← UInt32.toNat_inj, UInt32.toNat_ofNat_of_lt' c.fits]
    exact Nat.le_antisymm hinside (Nat.le_of_sub_eq_zero hrest)
  simp only [endLexeme, spanFrom, Token.endOf, hoffset]
  rfl

/-- The tokens ahead of a cursor tile the bytes ahead. -/
theorem exists_tiling (c : Cursor) :
    ∃ front, c.lexemes.map Lexeme.token = front ++ [Token.endOf c.file c.content] ∧
      (∀ t ∈ front, t.FitsIn c.file c.content) ∧
      Tiles c.content c.offset.toNat (front.map Token.span) ∧ front.length ≤ c.rest.length := by
  induction c using Cursor.lexemes.induct with
  | case1 c h =>
    have hempty : c.rest.drop (Lexer.triviaSize c.rest) = [] := Lexer.scan?_eq_none.mp h
    have hall : c.rest.take (Lexer.triviaSize c.rest) = c.rest :=
      List.take_of_length_le (List.drop_eq_nil_iff.mp hempty)
    have htrivia := Lexer.isTrivia_take_triviaSize c.rest
    rw [hempty, hall, c.rest_eq] at htrivia
    refine ⟨[], ?_, by simp, .nil htrivia, Nat.zero_le _⟩
    rw [lexemes_of_none h, List.map_singleton, endLexeme_of_none h, List.nil_append]
  | case2 c s h ih =>
    obtain ⟨front, htokens, hfits, htiles, hlen⟩ := ih
    refine ⟨(c.skipTrivia.lexemeOf s).token :: front, ?_, ?_, ?_, ?_⟩
    · rw [lexemes_of_some h, List.map_cons, htokens]
      rfl
    · exact List.forall_mem_cons.mpr ⟨fitsIn_lexemeOf h, hfits⟩
    · have hne : c.rest.drop (Lexer.triviaSize c.rest) ≠ [] := Lexer.ne_nil_of_scan? h
      have htrivia := Lexer.isTrivia_take_triviaSize c.rest
      rw [List.isEmpty_eq_false_iff.mpr hne, ← slice_advance] at htrivia
      refine .cons ?_ htrivia htiles
      show c.offset.toNat ≤ (c.advance (Lexer.triviaSize c.rest)).offset.toNat
      rw [toNat_offset_advance]
      exact Nat.le_add_right _ _
    · exact Nat.le_trans (Nat.succ_le_succ hlen) (length_rest_lt h)

end Cursor

/-- Tokens that tile a source pass the check. -/
theorem checkTokensFrom_of_tiles {file : FileId} {content : Bytes}
    (hsize : content.length < UInt32.size) {ts : List Token} :
    ∀ {previous : UInt32} (index : Nat), previous.toNat ≤ content.length →
      (∀ t ∈ ts, t.FitsIn file content) → Tiles content previous.toNat (ts.map Token.span) →
      checkTokensFrom file (UInt32.ofNat content.length) index previous
        (ts ++ [Token.endOf file content]) = .ok () := by
  have hlimit : (UInt32.ofNat content.length).toNat = content.length :=
    UInt32.toNat_ofNat_of_lt' hsize
  induction ts with
  | nil =>
    intro previous index hprevious _ _
    have hbehind : ¬UInt32.ofNat content.length < previous := by
      rw [UInt32.lt_iff_toNat_lt, hlimit]
      omega
    simp [checkTokensFrom, Token.endOf, hbehind]
  | cons t ts ih =>
    intro previous index _ hfits htiles
    obtain ⟨ht, hfits⟩ := List.forall_mem_cons.mp hfits
    cases htiles with
    | cons hn htrivia htiles =>
      have horder : ¬(t.span.stop < t.span.start ∨ UInt32.ofNat content.length < t.span.stop) := by
        have := UInt32.lt_iff_toNat_lt.mp ht.nonempty
        have := ht.inside
        simp only [UInt32.lt_iff_toNat_lt, hlimit]
        omega
      have hbehind : ¬t.span.start < previous := by
        rw [UInt32.lt_iff_toNat_lt]
        omega
      rw [List.cons_append, checkTokensFrom, if_neg fun h => ht.kind_ne h.1,
        if_neg (not_not_intro ht.file_eq), if_neg horder, if_neg hbehind]
      exact ih (index + 1) ht.inside hfits htiles

/-- The tokens of a source tile it and pass the check: some that stand in the source with their
text, with trivia in front of, between and behind them, and one at its end. -/
theorem SourceFile.tiles_lexemes (f : SourceFile) (h : f.content.length < UInt32.size - 1) :
    ∃ front, f.lexemes.map Lexeme.token = front ++ [Token.endOf f.id f.content] ∧
      (∀ t ∈ front, t.FitsIn f.id f.content) ∧ Tiles f.content 0 (front.map Token.span) ∧
      front.length ≤ f.content.length ∧
      checkTokens (some (f.id, UInt32.ofNat f.content.length)) (f.lexemes.map Lexeme.token) =
        .ok () := by
  have hsize : f.content.length < UInt32.size := Nat.lt_of_lt_of_le h (Nat.sub_le _ _)
  have hstart : Cursor.start? f.id f.content =
      some ⟨f.id, f.content, 0, f.content, hsize, by simp, by simp⟩ := dif_pos hsize
  obtain ⟨front, htokens, hfits, htiles, hlen⟩ :=
    Cursor.exists_tiling ⟨f.id, f.content, 0, f.content, hsize, by simp, by simp⟩
  have hlexemes : f.lexemes.map Lexeme.token = front ++ [Token.endOf f.id f.content] := by
    rw [SourceFile.lexemes, hstart]
    exact htokens
  refine ⟨front, hlexemes, hfits, htiles, hlen, ?_⟩
  have hend : ((front ++ [Token.endOf f.id f.content]).getLast?.map Token.kind) =
      some .endOfFile := by
    rw [List.getLast?_concat]
    rfl
  rw [hlexemes, checkTokens, if_pos hend]
  exact checkTokensFrom_of_tiles hsize 0 (Nat.zero_le _) hfits htiles

/-- A source whose only name is spelled with a combining accent. -/
def accentSource : SourceFile :=
  .ofContent 0 (utf8 "a.ez") (utf8 "e\u0301 // the end") 0

/-- The name is spelled with one character, and the comment behind it is trivia. -/
theorem tiles_lexemes_accentSource :
    accentSource.lexemes.map Lexeme.token =
        [⟨.identifier, ⟨0, 0, 3⟩, utf8 "\u00E9"⟩, Token.endOf 0 accentSource.content] ∧
      Tiles accentSource.content 0 [⟨0, 0, 3⟩] := by
  have htokens : accentSource.lexemes.map Lexeme.token =
      [⟨.identifier, ⟨0, 0, 3⟩, utf8 "\u00E9"⟩] ++ [Token.endOf 0 accentSource.content] := by
    decide +kernel
  obtain ⟨front, hfront, -, htiles, -⟩ := accentSource.tiles_lexemes (by decide +kernel)
  obtain rfl := (List.append_inj' (htokens.symm.trans hfront) rfl).1
  exact ⟨htokens, htiles⟩

end ThreeAddress
