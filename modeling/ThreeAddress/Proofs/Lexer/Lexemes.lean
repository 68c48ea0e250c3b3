import ThreeAddress.Parse.Event
import ThreeAddress.Source.Load

/-!
# The lexemes of a source

Every lexeme but the last one is the outcome of a scan, and none of those marks the end of the
source; the last one does. So parsing gets all tokens in front of the end marker.

## Main definitions

* `Scan.Passes` : a scan that is invalid, or that nothing but an unknown escape is wrong with.
* `Lexeme.IsScanned` : a lexeme comes from a scan.

## Main results

* `Cursor.exists_lexemes` : the lexemes ahead of a cursor.
* `SourceFile.exists_lexemes` : the lexemes of a source, and what parsing gets of them.
-/

namespace ThreeAddress

namespace Lexer

theorem kind_finishNumber (kind : TokenKind) (taken : Nat) (rest : Bytes) :
    (finishNumber kind taken rest).kind = kind ∨
      (finishNumber kind taken rest).kind = .invalid := by
  unfold finishNumber
  split
  · exact .inr rfl
  · exact .inl rfl

/-- The kinds that a scan of a number can have. -/
def IsNumberKind (k : TokenKind) : Prop :=
  k = .integer ∨ k = .float ∨ k = .invalid

theorem isNumberKind_finishNumber {kind : TokenKind} (h : IsNumberKind kind) (taken : Nat)
    (rest : Bytes) : IsNumberKind (finishNumber kind taken rest).kind := by
  rcases kind_finishNumber kind taken rest with hk | hk
  · rwa [hk]
  · exact .inr (.inr hk)

theorem isNumberKind_scanExponent {kind : TokenKind} (h : IsNumberKind kind) (taken : Nat)
    (rest : Bytes) : IsNumberKind (scanExponent kind taken rest).kind := by
  unfold scanExponent
  split
  · split
    · dsimp only
      split
      · exact .inr (.inr rfl)
      · split
        · exact isNumberKind_finishNumber (.inr (.inl rfl)) _ _
        · exact .inr (.inr rfl)
    · exact isNumberKind_finishNumber h _ _
  · exact isNumberKind_finishNumber h _ _

theorem isNumberKind_scanDecimal (bs : Bytes) : IsNumberKind (scanDecimal bs).kind := by
  unfold scanDecimal
  dsimp only
  split
  · exact .inr (.inr rfl)
  · split
    · split
      · split
        · split
          · exact isNumberKind_scanExponent (.inr (.inl rfl)) _ _
          · exact .inr (.inr rfl)
        · split
          · exact isNumberKind_scanExponent (.inl rfl) _ _
          · exact .inr (.inr rfl)
      · exact isNumberKind_scanExponent (.inl rfl) _ _
    · exact isNumberKind_scanExponent (.inl rfl) _ _

theorem isNumberKind_scanBased (digit : UInt8 → Bool) (rest : Bytes) :
    IsNumberKind (scanBased digit rest).kind := by
  unfold scanBased
  dsimp only
  split
  · exact .inr (.inr rfl)
  · split
    · exact isNumberKind_finishNumber (.inl rfl) _ _
    · exact .inr (.inr rfl)

theorem isNumberKind_scanNumber (bs : Bytes) : IsNumberKind (scanNumber bs).kind := by
  unfold scanNumber
  split
  · split
    · split
      · exact isNumberKind_scanBased _ _
      · split
        · exact .inr (.inr rfl)
        · exact isNumberKind_scanDecimal _
    · exact isNumberKind_scanDecimal _
  · exact isNumberKind_scanDecimal _

theorem kind_closeChar (taken : Nat) (rest : Bytes) (earlier : List (Nat × Complaint)) :
    (closeChar taken rest earlier).kind = .char ∨
      (closeChar taken rest earlier).kind = .invalid := by
  unfold closeChar
  split
  · exact .inl rfl
  · exact .inr rfl

theorem kind_scanChar (body : Bytes) :
    (scanChar body).kind = .char ∨ (scanChar body).kind = .invalid := by
  unfold scanChar
  split
  · exact .inr rfl
  · split
    · exact .inr rfl
    · split
      · exact .inr rfl
      · split
        · split
          · exact kind_closeChar _ _ _
          · exact kind_closeChar _ _ _
        · exact kind_closeChar _ _ _

/-- The four kinds of scans, apart from those of a byte that starts no token. -/
theorem scan?_cases {bs : Bytes} {s : Scan} (h : scan? bs = some s) :
    s = scanName bs ∨ (∃ b rest, bs = b :: rest ∧ isDigit b = true ∧ s = scanNumber bs) ∨
      (∃ body, bs = '\''.toUInt8 :: body ∧ s = scanChar body) ∨
      (∃ b k, TokenKind.ofPunctuation? b = some k ∧ s = ⟨k, 1, []⟩) ∨ s.kind = .invalid := by
  cases bs with
  | nil => cases h
  | cons b rest =>
    simp only [scan?] at h
    split at h
    · exact .inl (Option.some.inj h).symm
    · split at h
      · rename_i hdigit
        exact .inr (.inl ⟨b, rest, rfl, hdigit, (Option.some.inj h).symm⟩)
      · split at h
        · rename_i hquote
          exact .inr (.inr (.inl ⟨rest, by rw [eq_of_beq hquote], (Option.some.inj h).symm⟩))
        · split at h
          · rename_i k hk
            exact .inr (.inr (.inr (.inl ⟨b, k, hk, (Option.some.inj h).symm⟩)))
          · obtain rfl := Option.some.inj h
            exact .inr (.inr (.inr (.inr rfl)))

/-- A scan of a name yields a name or a keyword, unless no name starts there. -/
theorem scanName_cases (bs : Bytes) :
    (scanName bs).kind = .invalid ∨ (scanName bs).size = namePartSize bs ∧ (scanName bs).kind =
      (TokenKind.keyword? (nameText (bs.take (namePartSize bs)))).getD .identifier := by
  unfold scanName
  split
  · exact .inl rfl
  · split
    · exact .inr ⟨rfl, rfl⟩
    · exact .inl rfl

/-- The keywords. -/
theorem keyword?_cases {name : Bytes} {k : TokenKind} (h : TokenKind.keyword? name = some k) :
    name = utf8 "let" ∧ k = .keywordLet ∨ name = utf8 "true" ∧ k = .keywordTrue ∨
      name = utf8 "false" ∧ k = .keywordFalse := by
  unfold TokenKind.keyword? at h
  split at h
  · exact .inl ⟨‹_›, (Option.some.inj h).symm⟩
  · split at h
    · exact .inr (.inl ⟨‹_›, (Option.some.inj h).symm⟩)
    · split at h
      · exact .inr (.inr ⟨‹_›, (Option.some.inj h).symm⟩)
      · cases h

/-- The kinds that a scan of a name can have. -/
theorem kind_scanName (bs : Bytes) :
    (scanName bs).kind = .invalid ∨ (scanName bs).kind = .identifier ∨
      (scanName bs).kind = .keywordLet ∨ (scanName bs).kind = .keywordTrue ∨
        (scanName bs).kind = .keywordFalse := by
  rcases scanName_cases bs with hkind | ⟨-, hkind⟩
  · exact .inl hkind
  · rw [hkind]
    cases hkey : TokenKind.keyword? (nameText (bs.take (namePartSize bs))) with
    | none => exact .inr (.inl rfl)
    | some k => rcases keyword?_cases hkey with ⟨-, rfl⟩ | ⟨-, rfl⟩ | ⟨-, rfl⟩ <;> simp

/-- Marks are neither names nor literals, and they do not end the source. -/
theorem kind_of_ofPunctuation? {b : UInt8} {k : TokenKind}
    (h : TokenKind.ofPunctuation? b = some k) :
    k ≠ .endOfFile ∧ k ≠ .identifier ∧ k.isLiteral = false := by
  unfold TokenKind.ofPunctuation? at h
  split at h <;> cases h <;> decide

/-- No scan yields the end marker. -/
theorem kind_ne_endOfFile_of_scan? {bs : Bytes} {s : Scan} (h : scan? bs = some s) :
    s.kind ≠ .endOfFile := by
  rcases scan?_cases h with rfl | ⟨b, rest, -, -, rfl⟩ | ⟨body, -, rfl⟩ | ⟨b, k, hk, rfl⟩ | hkind
  · rcases kind_scanName bs with hk | hk | hk | hk | hk <;> simp [hk]
  · rcases isNumberKind_scanNumber bs with hk | hk | hk <;> simp [hk]
  · rcases kind_scanChar body with hk | hk <;> simp [hk]
  · exact (kind_of_ofPunctuation? hk).1
  · simp [hkind]

/-! ### What is complained about -/

/-- A scan is invalid, or nothing is complained about but an unknown escape. -/
def Scan.Passes (s : Scan) : Prop :=
  s.kind = .invalid ∨ ∀ c ∈ s.complaints, c.2 = .unknownEscape

theorem passes_finishNumber (kind : TokenKind) (taken : Nat) (rest : Bytes) :
    (finishNumber kind taken rest).Passes := by
  unfold finishNumber
  split
  · exact .inl rfl
  · exact .inr (List.forall_mem_nil _)

theorem passes_scanExponent (kind : TokenKind) (taken : Nat) (rest : Bytes) :
    (scanExponent kind taken rest).Passes := by
  unfold scanExponent
  split
  · split
    · dsimp only
      split
      · exact .inl rfl
      · split
        · exact passes_finishNumber _ _ _
        · exact .inl rfl
    · exact passes_finishNumber _ _ _
  · exact passes_finishNumber _ _ _

theorem passes_scanDecimal (bs : Bytes) : (scanDecimal bs).Passes := by
  unfold scanDecimal
  dsimp only
  split
  · exact .inl rfl
  · split
    · split
      · split
        · split
          · exact passes_scanExponent _ _ _
          · exact .inl rfl
        · split
          · exact passes_scanExponent _ _ _
          · exact .inl rfl
      · exact passes_scanExponent _ _ _
    · exact passes_scanExponent _ _ _

theorem passes_scanNumber (bs : Bytes) : (scanNumber bs).Passes := by
  have hbased (digit : UInt8 → Bool) (rest : Bytes) : (scanBased digit rest).Passes := by
    unfold scanBased
    dsimp only
    split
    · exact .inl rfl
    · split
      · exact passes_finishNumber _ _ _
      · exact .inl rfl
  unfold scanNumber
  split
  · split
    · split
      · exact hbased _ _
      · split
        · exact .inl rfl
        · exact passes_scanDecimal _
    · exact passes_scanDecimal _
  · exact passes_scanDecimal _

theorem passes_closeChar (taken : Nat) (rest : Bytes) {earlier : List (Nat × Complaint)}
    (h : ∀ c ∈ earlier, c.2 = .unknownEscape) : (closeChar taken rest earlier).Passes := by
  unfold closeChar
  split
  · exact .inr h
  · exact .inl rfl

theorem passes_scanChar (body : Bytes) : (scanChar body).Passes := by
  unfold scanChar
  split
  · exact .inl rfl
  · split
    · exact .inl rfl
    · split
      · exact .inl rfl
      · split
        · split
          · exact passes_closeChar _ _ (List.forall_mem_nil _)
          · exact passes_closeChar _ _ (List.forall_mem_singleton.mpr rfl)
        · exact passes_closeChar _ _ (List.forall_mem_nil _)

theorem passes_scanName (bs : Bytes) : (scanName bs).Passes := by
  unfold scanName
  split
  · exact .inl rfl
  · split
    · exact .inr (List.forall_mem_nil _)
    · exact .inl rfl

/-- Apart from an unknown escape, what lexing complains about makes an invalid token. -/
theorem passes_of_scan? {bs : Bytes} {s : Scan} (h : scan? bs = some s) : s.Passes := by
  rcases scan?_cases h with rfl | ⟨b, rest, -, -, rfl⟩ | ⟨body, -, rfl⟩ | ⟨b, k, hk, rfl⟩ | hkind
  · exact passes_scanName bs
  · exact passes_scanNumber bs
  · exact passes_scanChar body
  · exact .inr (List.forall_mem_nil _)
  · exact .inl hkind

theorem ne_nil_of_scan? {bs : Bytes} {s : Scan} (h : scan? bs = some s) : bs ≠ [] := by
  rintro rfl
  cases h

end Lexer

/-- A lexeme comes from a scan at a cursor. -/
def Lexeme.IsScanned (l : Lexeme) : Prop :=
  ∃ (c : Cursor) (s : Lexer.Scan), Lexer.scan? c.rest = some s ∧ l = c.lexemeOf s

theorem Lexeme.IsScanned.kind_ne {l : Lexeme} (h : l.IsScanned) : l.token.kind ≠ .endOfFile := by
  obtain ⟨c, s, hs, rfl⟩ := h
  exact Lexer.kind_ne_endOfFile_of_scan? hs

/-- What lexing complains about is told by codes from 1001 to 1005. -/
theorem Lexeme.IsScanned.code {l : Lexeme} (h : l.IsScanned) {d : Diagnostic}
    (hd : d ∈ l.diagnostics) : 1001 ≤ d.code.number.toNat ∧ d.code.number.toNat ≤ 1005 := by
  obtain ⟨c, s, -, rfl⟩ := h
  obtain ⟨⟨size, complaint⟩, -, rfl⟩ := List.mem_map.mp hd
  show 1001 ≤ complaint.code.number.toNat ∧ complaint.code.number.toNat ≤ 1005
  cases complaint <;> simp [Lexer.Complaint.code, Code.unknownChar, Code.badNumber,
    Code.emptyChar, Code.unterminatedChar]

/-- All that lexing has to say about a token that is not invalid is that an escape is unknown. -/
theorem Lexeme.IsScanned.message {l : Lexeme} (h : l.IsScanned) (hk : l.token.kind ≠ .invalid)
    {d : Diagnostic} (hd : d ∈ l.diagnostics) :
    d.message = Lexer.Complaint.unknownEscape.message := by
  obtain ⟨c, s, hs, rfl⟩ := h
  obtain ⟨⟨size, complaint⟩, hmem, rfl⟩ := List.mem_map.mp hd
  have hescape : complaint = .unknownEscape :=
    (Lexer.passes_of_scan? hs).resolve_left hk (size, complaint) hmem
  rw [hescape]
  rfl

/-- Fewer bytes are ahead behind a scan. -/
theorem Cursor.length_rest_lt {c : Cursor} {s : Lexer.Scan}
    (h : Lexer.scan? c.skipTrivia.rest = some s) :
    (c.skipTrivia.advance s.size).rest.length < c.rest.length := by
  have hpos := Lexer.size_pos_of_scan? h
  have := List.length_pos_iff.mpr (Lexer.ne_nil_of_scan? h)
  simp only [skipTrivia, rest_advance, List.length_drop] at this ⊢
  omega

/-- The lexemes ahead of a cursor: outcomes of scans, at most one for each byte, and then the end
marker. -/
theorem Cursor.exists_lexemes (c : Cursor) :
    ∃ (front : List Lexeme) (stop : Lexeme), c.lexemes = front ++ [stop] ∧
      (∀ l ∈ front, l.IsScanned) ∧ stop.token.kind = .endOfFile ∧
      front.length ≤ c.rest.length := by
  induction c using Cursor.lexemes.induct with
  | case1 c h =>
    refine ⟨[], c.skipTrivia.endLexeme, ?_, by simp, rfl, by simp⟩
    rw [Cursor.lexemes]
    split
    · rfl
    · rename_i h'
      rw [h] at h'
      cases h'
  | case2 c s h ih =>
    obtain ⟨front, stop, hls, hfront, hstop, hlen⟩ := ih
    refine ⟨c.skipTrivia.lexemeOf s :: front, stop, ?_, ?_, hstop, ?_⟩
    · rw [Cursor.lexemes]
      split
      · rename_i h'
        rw [h] at h'
        cases h'
      · rename_i s' h'
        rw [h] at h'
        obtain rfl := Option.some.inj h'
        rw [hls, List.cons_append]
    · intro l hl
      rcases List.mem_cons.mp hl with rfl | hl
      · exact ⟨c.skipTrivia, s, h, rfl⟩
      · exact hfront l hl
    · exact Nat.le_trans (Nat.succ_le_succ hlen) (length_rest_lt h)

namespace SourceFile

variable {f : SourceFile}

/-- The lexemes of a source are those ahead of its start. -/
theorem lexemes_eq (h : f.content.length < UInt32.size) :
    f.lexemes = Cursor.lexemes ⟨f.id, f.content, 0, f.content, h, Nat.zero_le _, rfl⟩ := by
  rw [lexemes, Cursor.start?, dif_pos h]
  rfl

/-- A source that is too large has none. -/
theorem lexemes_eq_nil (h : ¬f.content.length < UInt32.size) : f.lexemes = [] := by
  rw [lexemes, Cursor.start?, dif_neg h]
  rfl

/-- The lexemes of a source, and the input that parsing gets of them. -/
theorem exists_lexemes (h : f.content.length < UInt32.size) :
    ∃ (front : List Lexeme) (stop : Lexeme), f.lexemes = front ++ [stop] ∧
      (∀ l ∈ front, l.IsScanned) ∧ stop.token.kind = .endOfFile ∧
      front.length ≤ f.content.length ∧
      (Parse.Input.ofLexemes f.lexemes).ahead = front := by
  obtain ⟨front, stop, hls, hfront, hstop, hlen⟩ :=
    Cursor.exists_lexemes ⟨f.id, f.content, 0, f.content, h, Nat.zero_le _, rfl⟩
  rw [← lexemes_eq h] at hls
  refine ⟨front, stop, hls, hfront, hstop, hlen, ?_⟩
  rw [hls, Parse.Input.ofLexemes]
  rw [List.takeWhile_append_of_pos (fun l hl => by simpa using (hfront l hl).kind_ne)]
  simp [hstop]

end SourceFile

end ThreeAddress
