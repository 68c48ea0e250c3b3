import ThreeAddress.Proofs.Lexer.NumberEnd

/-!
# What lexing complains about

A scan complains only about bytes that it takes, from the first one on, and an invalid scan
complains about all of them. So no invalid token comes without an error on the whole of it, which is
told while that token is read and at no other moment, and the diagnostics of a source come in the
order of its tokens.

## Main definitions

* `Lexer.Scan.Accounts` : the complaints of a scan account for what it takes.
* `Lexeme.Announces` : lexing tells an error on a span while it reads a token.
* `Lexeme.Accounts` : what is told about a token is told in its place.

## Main results

* `Lexer.accounts_scan?` : every scan accounts for what it takes.
* `Cursor.ordered_lexemes` : the tokens ahead of a cursor stand one behind the other.
* `SourceFile.announces_lexemes` : what is told about the tokens of a source.
-/

namespace ThreeAddress

/-- The codes of lexing, from 1000 to 1999. -/
def Code.IsLexing (c : Code) : Prop :=
  1000 ≤ c.number.toNat ∧ c.number.toNat ≤ 1999

/-- An error on a span is told while a token is read, with a code of lexing. -/
def Lexeme.Announces (l : Lexeme) (s : Span) : Prop :=
  ∃ d ∈ l.diagnostics, d.severity = .error ∧ d.code.IsLexing ∧ d.span = s

/-- What is told while a token is read is about bytes of it, from the first one on, and if it is
invalid about all of them. -/
structure Lexeme.Accounts (l : Lexeme) : Prop where
  /-- A token about which anything is told takes a byte. -/
  nonempty : l.token.kind = .invalid ∨ l.diagnostics ≠ [] → l.token.span.start < l.token.span.stop
  /-- An invalid token is told as a whole. -/
  whole : l.token.kind = .invalid → l.Announces l.token.span
  /-- Every diagnostic is about bytes of the token, from the first one on. -/
  inPlace : ∀ d ∈ l.diagnostics, d.span.file = l.token.span.file ∧
    d.span.start = l.token.span.start ∧ d.span.stop ≤ l.token.span.stop

namespace Lexer

/-- The complaints of a scan are about bytes that it takes, and one of those of an invalid scan is
about all of them. -/
structure Scan.Accounts (s : Scan) : Prop where
  /-- A complaint is about bytes that are taken. -/
  within : ∀ c ∈ s.complaints, c.1 ≤ s.size
  /-- An invalid scan has a complaint about all that it takes. -/
  whole : s.kind = .invalid → ∃ c ∈ s.complaints, c.1 = s.size

theorem accounts_clean {kind : TokenKind} {size : Nat} (h : kind ≠ .invalid) :
    Scan.Accounts ⟨kind, size, []⟩ where
  within := List.forall_mem_nil _
  whole hkind := absurd hkind h

theorem accounts_bad {size : Nat} {c : Complaint} : (Scan.bad size c).Accounts where
  within := List.forall_mem_singleton.mpr (Nat.le_refl size)
  whole _ := ⟨(size, c), List.mem_singleton_self _, rfl⟩

/-! ### Char literals -/

section CharLiterals

variable {taken : Nat} {rest : Bytes} {earlier : List (Nat × Complaint)}

theorem accounts_unterminated (h : ∀ c ∈ earlier, c.1 ≤ taken) :
    (unterminated taken rest earlier).Accounts where
  within := by
    refine List.forall_mem_append.mpr ⟨fun c hc => ?_, ?_⟩
    · exact Nat.le_trans (h c hc) (Nat.le_add_right _ _)
    · exact List.forall_mem_singleton.mpr (Nat.le_refl _)
  whole _ := ⟨_, List.mem_append_right _ (List.mem_singleton_self _), rfl⟩

theorem accounts_closeChar (h : ∀ c ∈ earlier, c.1 ≤ taken) :
    (closeChar taken rest earlier).Accounts := by
  unfold closeChar
  split
  · exact ⟨fun c hc => Nat.le_succ_of_le (h c hc), nofun⟩
  · exact accounts_unterminated h

theorem accounts_scanChar (body : Bytes) : (scanChar body).Accounts := by
  have hnone (n : Nat) : ∀ c ∈ ([] : List (Nat × Complaint)), c.1 ≤ n := List.forall_mem_nil _
  unfold scanChar
  split
  · exact accounts_unterminated (hnone _)
  · split
    · exact accounts_unterminated (hnone _)
    · split
      · exact accounts_bad
      · split
        · split
          · exact accounts_closeChar (hnone _)
          · exact accounts_closeChar (List.forall_mem_singleton.mpr (Nat.le_refl _))
        · exact accounts_closeChar (hnone _)

end CharLiterals

/-! ### Tokens -/

theorem accounts_scanName (bs : Bytes) : (scanName bs).Accounts := by
  unfold scanName
  split
  · exact accounts_bad
  · split
    · refine accounts_clean ?_
      cases hkey : TokenKind.keyword? (nameText (bs.take (namePartSize bs))) with
      | none => decide
      | some k => rcases keyword?_cases hkey with ⟨-, rfl⟩ | ⟨-, rfl⟩ | ⟨-, rfl⟩ <;> decide
    · exact accounts_bad

theorem accounts_scanNumber {bs : Bytes} (h : bs.head?.any isDigit = true) :
    (scanNumber bs).Accounts := by
  have hends := numberEnds_scanNumber h
  generalize scanNumber bs = s at hends
  cases hends with
  | number hkind => exact accounts_clean (by rcases hkind with rfl | rfl <;> decide)
  | glued => exact accounts_bad
  | malformed => exact accounts_bad

/-- Every scan accounts for the bytes that it takes. -/
theorem accounts_scan? {bs : Bytes} {s : Scan} (h : scan? bs = some s) : s.Accounts := by
  cases bs with
  | nil => cases h
  | cons b rest =>
    simp only [scan?] at h
    split at h
    · obtain rfl := Option.some.inj h
      exact accounts_scanName _
    · split at h
      · rename_i hdigit
        obtain rfl := Option.some.inj h
        exact accounts_scanNumber hdigit
      · split at h
        · obtain rfl := Option.some.inj h
          exact accounts_scanChar rest
        · split at h
          · rename_i k hk
            obtain rfl := Option.some.inj h
            refine accounts_clean ?_
            unfold TokenKind.ofPunctuation? at hk
            split at hk <;> cases hk <;> decide
          · obtain rfl := Option.some.inj h
            exact accounts_bad

end Lexer

/-! ### Lexemes -/

namespace Cursor

/-- The lexeme of a scan accounts for its token. -/
theorem accounts_lexemeOf {c : Cursor} {s : Lexer.Scan} (h : Lexer.scan? c.rest = some s) :
    (c.lexemeOf s).Accounts where
  nonempty _ := (fitsIn_lexemeOf h).nonempty
  whole hkind := by
    obtain ⟨⟨size, complaint⟩, hmem, hsize⟩ := (Lexer.accounts_scan? h).whole hkind
    obtain rfl : size = s.size := hsize
    have hscanned : (c.lexemeOf s).IsScanned := ⟨c, s, h, rfl⟩
    have hmem := List.mem_map_of_mem (f := Lexer.complain c.file c.offset) hmem
    obtain ⟨hlow, hhigh⟩ := hscanned.code hmem
    refine ⟨_, hmem, rfl, ⟨by omega, by omega⟩, ?_⟩
    rw [complain_lexemeOf c s complaint (Lexer.fits_scan? h _ ‹_›)]
    rfl
  inPlace d hd := by
    obtain ⟨complaint, hmem, rfl⟩ := List.mem_map.mp hd
    refine ⟨rfl, rfl, ?_⟩
    have htaken := (Lexer.accounts_scan? h).within complaint hmem
    have hthere := Lexer.fits_scan? h complaint hmem
    have hlength := c.length_rest
    have hinside := c.inside
    have hfits := c.fits
    show c.offset + UInt32.ofNat complaint.1 ≤ (c.advance s.size).offset
    rw [UInt32.le_iff_toNat_le, toNat_offset_advance, UInt32.toNat_add,
      UInt32.toNat_ofNat_of_lt' (by omega), Nat.mod_eq_of_lt]
    · omega
    · exact Nat.lt_of_le_of_lt (by omega) hfits

/-- The lexemes ahead of a cursor account for their tokens. -/
theorem accounts_lexemes (c : Cursor) : ∀ l ∈ c.lexemes, l.Accounts := by
  induction c using Cursor.lexemes.induct with
  | case1 c h =>
    have hkind : c.skipTrivia.endLexeme.token.kind ≠ .invalid := fun h => by cases h
    rw [lexemes_of_none h]
    refine List.forall_mem_singleton.mpr
      ⟨fun htold => ?_, fun hinvalid => absurd hinvalid hkind, List.forall_mem_nil _⟩
    exact htold.elim (fun hinvalid => absurd hinvalid hkind) fun htold => absurd rfl htold
  | case2 c s h ih =>
    rw [lexemes_of_some h]
    exact List.forall_mem_cons.mpr ⟨accounts_lexemeOf h, ih⟩

/-- The tokens ahead of a cursor stand behind it, one behind the other. -/
theorem ordered_lexemes (c : Cursor) :
    (∀ l ∈ c.lexemes, c.offset ≤ l.token.span.start) ∧
      c.lexemes.Pairwise fun l l' => l.token.span.stop ≤ l'.token.span.start := by
  have hadvance (c : Cursor) (n : Nat) : c.offset ≤ (c.advance n).offset := by
    rw [UInt32.le_iff_toNat_le, toNat_offset_advance]
    exact Nat.le_add_right _ _
  induction c using Cursor.lexemes.induct with
  | case1 c h =>
    rw [lexemes_of_none h]
    exact ⟨List.forall_mem_singleton.mpr (hadvance c _), List.pairwise_singleton _ _⟩
  | case2 c s h ih =>
    obtain ⟨hbehind, hordered⟩ := ih
    have hstart : c.offset ≤ c.skipTrivia.offset := hadvance c _
    rw [lexemes_of_some h]
    refine ⟨List.forall_mem_cons.mpr ⟨hstart, fun l hl => ?_⟩, hordered.cons hbehind⟩
    exact UInt32.le_trans hstart (UInt32.le_trans (hadvance _ s.size) (hbehind l hl))

end Cursor

/-- While a token is read nothing is told on the span of an invalid token that stands elsewhere. -/
theorem Lexeme.Accounts.not_announces {l l' : Lexeme} (h : l.Accounts) (h' : l'.Accounts)
    (hkind : l.token.kind = .invalid)
    (happart : l.token.span.stop ≤ l'.token.span.start ∨ l'.token.span.stop ≤ l.token.span.start) :
    ¬l'.Announces l.token.span := by
  rintro ⟨d, hd, -, -, hspan⟩
  obtain ⟨-, hstart, -⟩ := h'.inPlace d hd
  rw [hspan] at hstart
  have hplace := UInt32.lt_iff_toNat_lt.mp (h.nonempty (.inl hkind))
  have hplace' := UInt32.lt_iff_toNat_lt.mp (h'.nonempty (.inr (List.ne_nil_of_mem hd)))
  rw [UInt32.le_iff_toNat_le, UInt32.le_iff_toNat_le] at happart
  rw [hstart] at happart hplace
  omega

/-- For every invalid token of a source an error with a code of lexing is told on the whole of it,
while it is read and while no other token is. Every diagnostic of lexing is about bytes of the token
that is read, from its first one on; so the diagnostics of one token end before those of a later one
start, and all come in the order of the tokens. -/
theorem SourceFile.announces_lexemes (f : SourceFile)
    (hsize : f.content.length < UInt32.size - 1) :
    (∀ front l back, f.lexemes = front ++ l :: back → l.token.kind = .invalid →
      l.Announces l.token.span ∧ ∀ l' ∈ front ++ back, ¬l'.Announces l.token.span) ∧
    (∀ l ∈ f.lexemes, ∀ d ∈ l.diagnostics, d.span.file = l.token.span.file ∧
      d.span.start = l.token.span.start ∧ d.span.stop ≤ l.token.span.stop) ∧
    (f.lexemes.Pairwise fun l l' =>
      ∀ d ∈ l.diagnostics, ∀ d' ∈ l'.diagnostics, d.span.stop ≤ d'.span.start) ∧
    (f.lexemes.flatMap Lexeme.diagnostics).Pairwise fun d d' => d.span.start ≤ d'.span.start := by
  have hfits : f.content.length < UInt32.size := Nat.lt_of_lt_of_le hsize (Nat.sub_le _ _)
  have haccounts : ∀ l ∈ f.lexemes, l.Accounts := by
    rw [lexemes_eq hfits]
    exact Cursor.accounts_lexemes _
  have hordered : f.lexemes.Pairwise fun l l' => l.token.span.stop ≤ l'.token.span.start := by
    rw [lexemes_eq hfits]
    exact (Cursor.ordered_lexemes _).2
  have happart : f.lexemes.Pairwise fun l l' =>
      ∀ d ∈ l.diagnostics, ∀ d' ∈ l'.diagnostics, d.span.stop ≤ d'.span.start := by
    refine hordered.imp_of_mem fun hl hl' h d hd d' hd' => ?_
    obtain ⟨-, -, hstop⟩ := (haccounts _ hl).inPlace d hd
    obtain ⟨-, hstart, -⟩ := (haccounts _ hl').inPlace d' hd'
    exact UInt32.le_trans hstop (hstart ▸ h)
  refine ⟨fun front l back hsplit hkind => ?_, fun l hl => (haccounts l hl).inPlace, happart, ?_⟩
  · rw [hsplit] at haccounts hordered
    have hl : l.Accounts := haccounts l (List.mem_append_right _ List.mem_cons_self)
    refine ⟨hl.whole hkind, List.forall_mem_append.mpr ⟨fun l' hl' => ?_, fun l' hl' => ?_⟩⟩
    · refine hl.not_announces (haccounts l' (List.mem_append_left _ hl')) hkind (.inr ?_)
      exact (List.pairwise_append.mp hordered).2.2 l' hl' l List.mem_cons_self
    · refine hl.not_announces (haccounts l' ?_) hkind (.inl ?_)
      · exact List.mem_append_right _ (List.mem_cons_of_mem _ hl')
      · exact List.rel_of_pairwise_cons (List.pairwise_append.mp hordered).2.1 hl'
  · rw [List.pairwise_flatMap]
    refine ⟨fun l hl => ?_, ?_⟩
    · -- the diagnostics of one token start where the token does
      refine List.pairwise_of_forall_mem_list fun d hd d' hd' => ?_
      rw [((haccounts l hl).inPlace d hd).2.1, ((haccounts l hl).inPlace d' hd').2.1]
      exact UInt32.le_refl _
    · refine hordered.imp_of_mem fun hl hl' h d hd d' hd' => ?_
      have hfirst := (haccounts _ hl).nonempty (.inr (List.ne_nil_of_mem hd))
      rw [((haccounts _ hl).inPlace d hd).2.1, ((haccounts _ hl').inPlace d' hd').2.1]
      exact UInt32.le_trans (UInt32.le_of_lt hfirst) h

/-- A source with a char literal that has no such escape and no end, and a stray character. -/
def strayQuote : SourceFile :=
  .ofContent 0 (utf8 "quote.ez") (utf8 "a '\\q + ; $") 0

/-- What lexing makes of the literal: two errors, the second one on the whole of it. -/
def strayLiteral : Lexeme where
  token := ⟨.invalid, ⟨0, 2, 8⟩, utf8 "'\\q + "⟩
  diagnostics := [.ofError .unknownChar ⟨0, 2, 5⟩ Lexer.Complaint.unknownEscape.message,
    .ofError .unterminatedChar ⟨0, 2, 8⟩ Lexer.Complaint.unterminatedChar.message]

/-- The whole of the literal is told while it is read and at no other moment. The error about the
character comes behind those about the literal. -/
theorem announces_lexemes_strayQuote :
    (∃ front back, strayQuote.lexemes = front ++ strayLiteral :: back ∧
      strayLiteral.Announces ⟨0, 2, 8⟩ ∧ ∀ l ∈ front ++ back, ¬l.Announces ⟨0, 2, 8⟩) ∧
    (strayQuote.lexemes.flatMap Lexeme.diagnostics).map Diagnostic.span =
      [⟨0, 2, 5⟩, ⟨0, 2, 8⟩, ⟨0, 10, 11⟩] := by
  obtain ⟨hannounced, -, -, -⟩ := strayQuote.announces_lexemes (by decide +kernel)
  have hsplit : strayQuote.lexemes = strayQuote.lexemes.take 1 ++
      strayLiteral :: strayQuote.lexemes.drop 2 := by
    decide +kernel
  exact ⟨⟨_, _, hsplit, hannounced _ _ _ hsplit rfl⟩, by decide +kernel⟩

end ThreeAddress
