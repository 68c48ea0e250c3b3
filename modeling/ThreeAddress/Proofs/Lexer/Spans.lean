import ThreeAddress.Proofs.Lexer.Separation

/-!
# The spans of lexemes

Every token and every complaint about it lies in its source: a scan takes no more bytes than there
are, and complains about no more.

## Main definitions

* `Span.Inside` : a span lies in a source.
* `Diagnostic.Within`, `Lexeme.Within` : all spans of a diagnostic or a lexeme meet a condition.
* `Lexer.Scan.Fits` : the complaints of a scan are about bytes that are there.

## Main results

* `Lexer.fits_scan?` : what a scan complains about.
* `SourceFile.within_lexemes` : the lexemes of a source lie in it.
-/

namespace ThreeAddress

/-- A span lies in a source. -/
structure Span.Inside (file : FileId) (content : Bytes) (s : Span) : Prop where
  /-- It belongs to the file. -/
  file_eq : s.file = file
  /-- It does not end in front of its start. -/
  ordered : s.start ≤ s.stop
  /-- It ends in the source. -/
  inside : s.stop.toNat ≤ content.length

/-- The places of a diagnostic and of its notes meet a condition. -/
def Diagnostic.Within (p : Span → Prop) (d : Diagnostic) : Prop :=
  p d.span ∧ ∀ n ∈ d.notes, p n.span

/-- The places of a token and of what is told about it meet a condition. -/
def Lexeme.Within (p : Span → Prop) (l : Lexeme) : Prop :=
  p l.token.span ∧ ∀ d ∈ l.diagnostics, d.Within p

theorem Diagnostic.Within.mono {p q : Span → Prop} {d : Diagnostic} (h : d.Within p)
    (hpq : ∀ s, p s → q s) : d.Within q :=
  ⟨hpq _ h.1, fun n hn => hpq _ (h.2 n hn)⟩

/-- An error without notes has one place. -/
theorem Diagnostic.within_ofError {p : Span → Prop} {code : Code} {span : Span} {message : Bytes}
    (h : p span) : (Diagnostic.ofError code span message).Within p :=
  ⟨h, List.forall_mem_nil _⟩

namespace Lexer

/-- The complaints of a scan are about no more than `n` bytes. -/
def Scan.Fits (s : Scan) (n : Nat) : Prop :=
  ∀ c ∈ s.complaints, c.1 ≤ n

/-! ### Numbers -/

theorem fits_clean {kind : TokenKind} {size n : Nat} : Scan.Fits ⟨kind, size, []⟩ n :=
  List.forall_mem_nil _

theorem fits_bad {size n : Nat} {c : Complaint} (h : size ≤ n) : (Scan.bad size c).Fits n := by
  intro x hx
  obtain rfl := List.mem_singleton.mp hx
  exact h

theorem length_nameTail_le (rest : Bytes) : (nameTail rest).length ≤ rest.length :=
  (List.takeWhile_prefix _).length_le

theorem fits_finishNumber {kind : TokenKind} {taken n : Nat} {rest : Bytes}
    (h : taken + rest.length ≤ n) : (finishNumber kind taken rest).Fits n := by
  unfold finishNumber
  split
  · exact fits_bad (Nat.le_trans (Nat.add_le_add_left (length_nameTail_le rest) taken) h)
  · exact fits_clean

theorem fits_badSeparator {taken n : Nat} {rest : Bytes} (h : taken + rest.length ≤ n) :
    (badSeparator taken rest).Fits n :=
  fits_bad (Nat.le_trans (Nat.add_le_add_left (length_nameTail_le rest) taken) h)

/-- The digits at the front and the bytes behind them are all bytes. -/
theorem length_digitRun_add (digit : UInt8 → Bool) (bs : Bytes) :
    (digitRun digit bs).length + (bs.drop (digitRun digit bs).length).length = bs.length := by
  have := (front_digitRun digit bs).length_le
  rw [List.length_drop]
  omega

theorem fits_scanBased (digit : UInt8 → Bool) (rest : Bytes) :
    (scanBased digit rest).Fits (2 + rest.length) := by
  have hrun := length_digitRun_add digit rest
  unfold scanBased
  dsimp only
  split
  · exact fits_bad (Nat.le_add_right _ _)
  · split
    · exact fits_finishNumber (by omega)
    · exact fits_badSeparator (by omega)

theorem signSize_le (bs : Bytes) : signSize bs ≤ bs.length := by
  unfold signSize
  split
  · rename_i h
    cases bs with
    | nil => cases h
    | cons b bs => exact Nat.le_add_left _ _
  · exact Nat.zero_le _

theorem fits_scanExponent {kind : TokenKind} {taken n : Nat} {rest : Bytes}
    (h : taken + rest.length ≤ n) : (scanExponent kind taken rest).Fits n := by
  unfold scanExponent
  split
  · rename_i e more
    rw [List.length_cons] at h
    split
    · dsimp only
      have hsign := signSize_le more
      have hrun := length_digitRun_add isDigit (more.drop (signSize more))
      simp only [List.drop_drop, List.length_drop] at hrun
      split
      · have := length_nameTail_le (e :: more)
        rw [List.length_cons] at this
        exact fits_bad (by omega)
      · split
        · exact fits_finishNumber (by rw [List.length_drop]; omega)
        · exact fits_badSeparator (by rw [List.length_drop]; omega)
    · exact fits_finishNumber (by rw [List.length_cons]; omega)
  · exact fits_finishNumber h

theorem fits_scanDecimal (bs : Bytes) : (scanDecimal bs).Fits bs.length := by
  have hrun := length_digitRun_add isDigit bs
  have hexponent : (scanExponent .integer (digitRun isDigit bs).length
      (bs.drop (digitRun isDigit bs).length)).Fits bs.length := fits_scanExponent (by omega)
  unfold scanDecimal
  dsimp only
  split
  · exact fits_badSeparator (by omega)
  · split
    · rename_i p d more hrest
      have hfraction := length_digitRun_add isDigit (d :: more)
      have hback (n : Nat) : bs.drop ((digitRun isDigit bs).length + 1 + n) =
          (d :: more).drop n := by
        rw [Nat.add_assoc, ← List.drop_drop, hrest, Nat.add_comm, List.drop_succ_cons]
      rw [hrest, List.length_cons] at hrun
      split
      · split
        · rw [hrest, List.drop_one, List.tail_cons, hback]
          split
          · exact fits_scanExponent (by omega)
          · exact fits_badSeparator (by omega)
        · split
          · exact hexponent
          · exact fits_bad (by omega)
      · exact hexponent
    · exact hexponent

theorem fits_scanNumber (bs : Bytes) : (scanNumber bs).Fits bs.length := by
  unfold scanNumber
  split
  · rename_i z b rest
    split
    · split
      · rename_i digit hbase
        have := fits_scanBased digit rest
        rwa [Nat.add_comm] at this
      · split
        · exact fits_bad (front_digitRun isDigit _).length_le
        · exact fits_scanDecimal _
    · exact fits_scanDecimal _
  · exact fits_scanDecimal _

/-! ### Char literals -/

theorem fits_unterminated {taken n : Nat} {rest : Bytes} {earlier : List (Nat × Complaint)}
    (h : taken + rest.length ≤ n) (hearlier : ∀ c ∈ earlier, c.1 ≤ n) :
    (unterminated taken rest earlier).Fits n := by
  have hline := (List.takeWhile_prefix (l := rest)
    fun b => b != '\n'.toUInt8 && b != ';'.toUInt8).length_le
  refine List.forall_mem_append.mpr ⟨hearlier, fun c hc => ?_⟩
  obtain rfl := List.mem_singleton.mp hc
  exact Nat.le_trans (Nat.add_le_add_left hline taken) h

theorem fits_closeChar {taken n : Nat} {rest : Bytes} {earlier : List (Nat × Complaint)}
    (h : taken + rest.length ≤ n) (hearlier : ∀ c ∈ earlier, c.1 ≤ n) :
    (closeChar taken rest earlier).Fits n := by
  unfold closeChar
  split
  · exact hearlier
  · exact fits_unterminated h hearlier

theorem fits_scanChar (body : Bytes) : (scanChar body).Fits (1 + body.length) := by
  unfold scanChar
  split
  · exact fits_unterminated (Nat.le_refl _) (List.forall_mem_nil _)
  · rename_i b rest
    split
    · exact fits_unterminated (Nat.le_refl _) (List.forall_mem_nil _)
    · split
      · exact fits_bad (by rw [List.length_cons]; omega)
      · split
        · split
          · rename_i hescape
            cases rest with
            | nil => cases hescape
            | cons e rest =>
              refine fits_closeChar ?_ (List.forall_mem_nil _)
              simp only [List.length_cons, List.length_drop]
              omega
          · have hsize := charSize_le_length rest
            refine fits_closeChar ?_ fun c hc => ?_
            · rw [List.length_drop, List.length_cons]
              omega
            · obtain rfl := List.mem_singleton.mp hc
              rw [List.length_cons]
              show 2 + charSize rest ≤ _
              omega
        · have hsize := charSize_le_length (b :: rest)
          refine fits_closeChar ?_ (List.forall_mem_nil _)
          rw [List.length_drop]
          omega

/-! ### Tokens -/

theorem fits_scanName (bs : Bytes) : (scanName bs).Fits bs.length := by
  have hsize := charSize_le_length bs
  unfold scanName
  unfold charSize at hsize
  split
  · exact fits_bad (Nat.zero_le _)
  · rename_i c n hchar
    rw [hchar] at hsize
    split
    · exact fits_clean
    · exact fits_bad hsize

/-- A scan complains about bytes that are there. -/
theorem fits_scan? {bs : Bytes} {s : Scan} (h : scan? bs = some s) : s.Fits bs.length := by
  cases bs with
  | nil => cases h
  | cons b rest =>
    simp only [scan?] at h
    split at h
    · obtain rfl := Option.some.inj h
      exact fits_scanName _
    · split at h
      · obtain rfl := Option.some.inj h
        exact fits_scanNumber _
      · split at h
        · obtain rfl := Option.some.inj h
          rw [List.length_cons, Nat.add_comm]
          exact fits_scanChar rest
        · split at h
          · obtain rfl := Option.some.inj h
            exact fits_clean
          · obtain rfl := Option.some.inj h
            exact fits_bad (by rw [List.length_cons]; omega)

end Lexer

/-! ### Lexemes -/

namespace Cursor

/-- The lexeme of a scan lies in the source. -/
theorem within_lexemeOf {c : Cursor} {s : Lexer.Scan} (h : Lexer.scan? c.rest = some s) :
    (c.lexemeOf s).Within (Span.Inside c.file c.content) := by
  have hlength := c.length_rest
  have hinside := c.inside
  have hfits := c.fits
  refine ⟨⟨rfl, ?_, (c.advance s.size).inside⟩, fun d hd => ?_⟩
  · show c.offset ≤ (c.advance s.size).offset
    rw [UInt32.le_iff_toNat_le, toNat_offset_advance]
    exact Nat.le_add_right _ _
  · obtain ⟨complaint, hmem, rfl⟩ := List.mem_map.mp hd
    have hsize := Lexer.fits_scan? h complaint hmem
    -- the place ends in the source, so it does not wrap around
    have hstop : (c.offset + UInt32.ofNat complaint.1).toNat = c.offset.toNat + complaint.1 := by
      rw [UInt32.toNat_add, UInt32.toNat_ofNat_of_lt' (by omega), Nat.mod_eq_of_lt]
      exact Nat.lt_of_le_of_lt (by omega) hfits
    refine Diagnostic.within_ofError ⟨rfl, ?_, ?_⟩
    · rw [UInt32.le_iff_toNat_le, hstop]
      exact Nat.le_add_right _ _
    · rw [hstop]
      omega

/-- The lexemes ahead of a cursor lie in the source. -/
theorem within_lexemes (c : Cursor) :
    ∀ l ∈ c.lexemes, l.Within (Span.Inside c.file c.content) := by
  induction c using Cursor.lexemes.induct with
  | case1 c h =>
    rw [lexemes_of_none h]
    exact List.forall_mem_singleton.mpr
      ⟨⟨rfl, UInt32.le_refl _, c.skipTrivia.inside⟩, List.forall_mem_nil _⟩
  | case2 c s h ih =>
    rw [lexemes_of_some h]
    exact List.forall_mem_cons.mpr ⟨within_lexemeOf h, ih⟩

end Cursor

/-- The lexemes of a source lie in it, with all that is told about them. -/
theorem SourceFile.within_lexemes (f : SourceFile) :
    ∀ l ∈ f.lexemes, l.Within (Span.Inside f.id f.content) := by
  by_cases h : f.content.length < UInt32.size
  · rw [lexemes_eq h]
    exact Cursor.within_lexemes _
  · rw [lexemes_eq_nil h]
    exact List.forall_mem_nil _

end ThreeAddress
