import ThreeAddress.Proofs.Lexer.Rescanning
import ThreeAddress.Proofs.Lexer.Tiling

/-!
# Laying a source out anew

The tokens of a source do not depend on what stands between them. Their texts with separators of any
kind between them, each of them a blank with any blanks and comments behind it, are split into
tokens of the same kinds with the same texts.

The bytes of a token are read as that token alone (`Lexer.scan?_take`), and in front of a blank as
well (`Lexer.scan?_append`); so they are read from both layouts.

## Main definitions

* `IsSeparator` : a blank with blanks and comments behind it.
* `SourceFile.pieces` : the bytes of the tokens of a source.

## Main results

* `Lexer.triviaSize_append_of_isTrivia` : trivia is skipped as a whole.
* `SourceFile.words_of_separated` : the tokens of a source that is laid out anew.
-/

namespace ThreeAddress

/-- A blank with blanks and whole comments behind it. -/
def IsSeparator (sep : Bytes) : Prop :=
  ∃ b trivia, Lexer.isBlank b = true ∧ IsTrivia false trivia ∧ sep = b :: trivia

/-- The bytes of the tokens of a source, in order. -/
def SourceFile.pieces (f : SourceFile) : List Bytes :=
  ((f.lexemes.map Lexeme.token).filter fun t => t.kind != .endOfFile).map fun t =>
    SourceFile.slice f.content t.span.start.toNat t.span.stop.toNat

namespace Lexer

/-- A comment is skipped with its newline. -/
theorem triviaFrom_comment {text : Bytes} (h : '\n'.toUInt8 ∉ text) (r : Bytes) :
    triviaFrom true (text ++ '\n'.toUInt8 :: r) = text.length + 1 + triviaFrom false r := by
  induction text with
  | nil => simp [triviaFrom]
  | cons b text ih =>
    rw [List.mem_cons, not_or] at h
    have hrest : triviaFrom true (b :: (text ++ '\n'.toUInt8 :: r)) =
        1 + triviaFrom true (text ++ '\n'.toUInt8 :: r) := by
      rw [triviaFrom, bne_iff_ne.mpr (Ne.symm h.1)]
    rw [List.cons_append, hrest, ih h.2, List.length_cons]
    omega

/-- Trivia that ends before the source does is skipped as a whole, whatever stands behind it. -/
theorem triviaSize_append_of_isTrivia {trivia : Bytes} (h : IsTrivia false trivia) (r : Bytes) :
    triviaSize (trivia ++ r) = trivia.length + triviaSize r := by
  induction h with
  | nil => simp
  | @blank b bs hb _ ih =>
    show triviaFrom false (b :: (bs ++ r)) = _
    rw [triviaFrom, if_pos hb, List.length_cons]
    unfold triviaSize at ih ⊢
    omega
  | @comment text bs htext _ ih =>
    have hsource : utf8 "//" ++ text ++ '\n'.toUInt8 :: bs ++ r =
        '/'.toUInt8 :: '/'.toUInt8 :: (text ++ '\n'.toUInt8 :: (bs ++ r)) := by
      rw [List.append_assoc, List.append_assoc, slashes_append]
      rfl
    have hlength : (utf8 "//" ++ text ++ '\n'.toUInt8 :: bs).length =
        2 + (text.length + 1) + bs.length := by
      have hslashes : (utf8 "//").length = 2 := by decide
      simp only [List.length_append, List.length_cons, hslashes]
      omega
    have hopen (rest : Bytes) : triviaSize ('/'.toUInt8 :: '/'.toUInt8 :: rest) =
        1 + triviaFrom true ('/'.toUInt8 :: rest) := rfl
    rw [hsource, hopen, triviaFrom_slashes, triviaFrom_comment htext, hlength]
    unfold triviaSize at ih ⊢
    omega
  | lastComment hend _ => cases hend

end Lexer

theorem IsSeparator.separates {sep : Bytes} (h : IsSeparator sep) : Lexer.Separates sep := by
  obtain ⟨b, trivia, hb, htrivia, rfl⟩ := h
  exact ⟨hb, Lexer.triviaSize_append_of_isTrivia (.blank hb htrivia)⟩

namespace Cursor

open Lexer

/-- The lexemes ahead of a cursor are read from the bytes at their spans. -/
theorem exists_pieces (c : Cursor) :
    ∃ (front : List Lexeme) (stop : Lexeme), c.lexemes = front ++ [stop] ∧
    stop.token.word = ⟨.endOfFile, []⟩ ∧ ∀ l ∈ front, l.token.kind ≠ .endOfFile ∧
      (l.token.kind ≠ .invalid → ∃ cs, l.token.word.IsReadFrom
        (SourceFile.slice c.content l.token.span.start.toNat l.token.span.stop.toNat) cs) := by
  induction c using Cursor.lexemes.induct with
  | case1 c h => exact ⟨[], _, lexemes_of_none h, rfl, by simp⟩
  | case2 c s h ih =>
    obtain ⟨front, stop, hlexemes, hstop, hall⟩ := ih
    refine ⟨c.skipTrivia.lexemeOf s :: front, stop, by rw [lexemes_of_some h, hlexemes]; rfl, hstop,
      List.forall_mem_cons.mpr ⟨⟨kind_ne_endOfFile_of_scan? h, fun hkind => ?_⟩, hall⟩⟩
    obtain ⟨hle, htake⟩ := scan?_take h hkind
    have hslice : SourceFile.slice c.content (c.skipTrivia.lexemeOf s).token.span.start.toNat
        (c.skipTrivia.lexemeOf s).token.span.stop.toNat = c.skipTrivia.rest.take s.size :=
      c.skipTrivia.slice_advance s.size
    refine ⟨s.complaints, ?_, ?_, hkind⟩
    · rw [hslice, htake, List.length_take, Nat.min_eq_left hle]
      rfl
    · rw [hslice]
      rfl

end Cursor

namespace SourceFile

variable {f f' : SourceFile}

/-- A source that is laid out anew has the same tokens, but for their places. -/
theorem words_of_separated (hsize : f.content.length < UInt32.size)
    (hvalid : ∀ l ∈ f.lexemes, l.token.kind ≠ .invalid)
    (hsize' : f'.content.length < UInt32.size)
    (h : Separated IsSeparator f.pieces f'.content) :
    (f'.lexemes.map fun l => l.token.word) = f.lexemes.map fun l => l.token.word := by
  have hseparated := h.mono fun _ => IsSeparator.separates
  unfold pieces at hseparated
  rw [lexemes_eq hsize] at hvalid hseparated ⊢
  rw [lexemes_eq hsize']
  obtain ⟨front, stop, hlexemes, hstop, hall⟩ :=
    Cursor.exists_pieces ⟨f.id, f.content, 0, f.content, hsize, by simp, by simp⟩
  rw [hlexemes] at hvalid hseparated ⊢
  have hkind : stop.token.kind = .endOfFile := congrArg Word.kind hstop
  have hfront : ((front ++ [stop]).map Lexeme.token).filter (fun t => t.kind != .endOfFile) =
      front.map Lexeme.token := by
    rw [List.map_append, List.filter_append, List.filter_eq_self.mpr]
    · simp [hkind]
    · intro t ht
      obtain ⟨l, hl, rfl⟩ := List.mem_map.mp ht
      exact bne_iff_ne.mpr (hall l hl).1
  rw [hfront, List.map_map] at hseparated
  have hreads : List.Forall₂ (fun w b => ∃ cs, w.IsReadFrom b cs)
      (front.map fun l => l.token.word) (front.map ((fun t : Token =>
        SourceFile.slice f.content t.span.start.toNat t.span.stop.toNat) ∘ Lexeme.token)) := by
    rw [List.forall₂_map_left_iff, List.forall₂_map_right_iff, List.forall₂_same]
    exact fun l hl => (hall l hl).2 (hvalid l (List.mem_append_left _ hl))
  have hstart : (Cursor.skipTrivia ⟨f'.id, f'.content, 0, f'.content, hsize', by simp,
      by simp⟩).rest = f'.content := by
    rw [Cursor.skipTrivia, Cursor.rest_advance, Cursor.triviaSize_separated hreads hseparated,
      List.drop_zero]
  obtain ⟨front', stop', hlexemes', hstop', hwords, -⟩ :=
    Cursor.lexemes_separated hreads hseparated hstart
  rw [hlexemes', List.map_append, List.map_append, hwords, List.map_singleton, List.map_singleton,
    hstop, hstop']

end SourceFile

end ThreeAddress
