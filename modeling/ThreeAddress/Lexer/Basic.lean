import ThreeAddress.Diagnostic.Basic
import ThreeAddress.Lexer.CharLiteral
import ThreeAddress.Lexer.Cursor
import ThreeAddress.Lexer.Name
import ThreeAddress.Lexer.Number
import ThreeAddress.Lexer.Trivia
import ThreeAddress.Token.Basic

/-!
# Lexing

A source is read as a list of lexemes: tokens together with the diagnostics found while reading
them. The list ends with the token that marks the end of the file.

## Main definitions

* `Lexer.scan?` : reads one token from the front of the remaining bytes.
* `Cursor.lexeme` : the next lexeme and the cursor behind it.
* `Cursor.lexemes` : all lexemes.
* `Lexer.State` : lexing on demand, with one token of lookahead.
-/

namespace ThreeAddress

namespace Lexer

/-- Reads the token at the front of the remaining bytes; none at the end. -/
def scan? : Bytes → Option Scan
  | [] => none
  | b :: rest =>
    if isNameStart b || decide (0x80 ≤ b) then some (scanName (b :: rest))
    else if isDigit b then some (scanNumber (b :: rest))
    else if b == '\''.toUInt8 then some (scanChar rest)
    else match TokenKind.ofPunctuation? b with
      | some k => some ⟨k, 1, []⟩
      | none => some (.bad 1 (.unknownChar (Char.ofNat b.toNat)))

end Lexer

/-- A token with the diagnostics found while reading it. -/
structure Lexeme where
  /-- The token. -/
  token : Token
  /-- The diagnostics, in the order they were found. -/
  diagnostics : List Diagnostic := []
deriving Repr, DecidableEq, Inhabited

namespace Lexer

/-- The text of a token of the given kind over the given bytes. -/
def tokenText (kind : TokenKind) (bs : Bytes) : Bytes :=
  match kind with
  | .identifier | .keywordLet | .keywordTrue | .keywordFalse => nameText bs
  | _ => bs

/-- The diagnostic for a complaint about the first `size` bytes of a token. -/
def complain (file : FileId) (start : UInt32) (c : Nat × Complaint) : Diagnostic :=
  .ofError c.2.code ⟨file, start, start + UInt32.ofNat c.1⟩ c.2.message

end Lexer

namespace Cursor

open Lexer

/-- Moves a cursor behind the trivia ahead. -/
def skipTrivia (c : Cursor) : Cursor :=
  c.advance (triviaSize c.rest)

/-- The lexeme of a scan at a cursor. -/
def lexemeOf (c : Cursor) (s : Scan) : Lexeme where
  token := ⟨s.kind, (c.advance s.size).spanFrom c.offset, tokenText s.kind (c.rest.take s.size)⟩
  diagnostics := s.complaints.map (complain c.file c.offset)

/-- The lexeme that marks the end of the source. -/
def endLexeme (c : Cursor) : Lexeme where
  token := ⟨.endOfFile, c.spanFrom c.offset, []⟩

/-- Reads the next lexeme. -/
def lexeme (c : Cursor) : Lexeme × Cursor :=
  let c := c.skipTrivia
  match scan? c.rest with
  | none => (c.endLexeme, c)
  | some s => (c.lexemeOf s, c.advance s.size)

end Cursor

namespace Lexer

theorem length_digitRun_pos {digit : UInt8 → Bool} {b : UInt8} {rest : Bytes} (h : digit b = true) :
    0 < (digitRun digit (b :: rest)).length := by
  simp [digitRun, h]

theorem size_finishNumber_pos {kind : TokenKind} {taken : Nat} {rest : Bytes} (h : 0 < taken) :
    0 < (finishNumber kind taken rest).size := by
  unfold finishNumber
  split <;> simp [Scan.bad] <;> omega

theorem size_badSeparator_pos {taken : Nat} {rest : Bytes} (h : 0 < taken) :
    0 < (badSeparator taken rest).size := by
  simp [badSeparator, Scan.bad]; omega

theorem size_scanBased_pos {digit : UInt8 → Bool} {rest : Bytes} :
    0 < (scanBased digit rest).size := by
  unfold scanBased
  dsimp only
  split
  · simp [Scan.bad]
  · split
    · exact size_finishNumber_pos (by omega)
    · exact size_badSeparator_pos (by omega)

theorem size_scanExponent_pos {kind : TokenKind} {taken : Nat} {rest : Bytes} (h : 0 < taken) :
    0 < (scanExponent kind taken rest).size := by
  unfold scanExponent
  split
  · split
    · dsimp only
      split
      · simp [Scan.bad]; omega
      · split
        · exact size_finishNumber_pos (by omega)
        · exact size_badSeparator_pos (by omega)
    · exact size_finishNumber_pos h
  · exact size_finishNumber_pos h

theorem size_scanDecimal_pos {b : UInt8} {rest : Bytes} (h : isDigit b = true) :
    0 < (scanDecimal (b :: rest)).size := by
  have hrun : 0 < (digitRun isDigit (b :: rest)).length := length_digitRun_pos h
  unfold scanDecimal
  dsimp only
  split
  · exact size_badSeparator_pos hrun
  · split
    · split
      · split
        · split
          · exact size_scanExponent_pos (by omega)
          · exact size_badSeparator_pos (by omega)
        · split
          · exact size_scanExponent_pos hrun
          · simp [Scan.bad]
      · exact size_scanExponent_pos hrun
    · exact size_scanExponent_pos hrun

theorem size_scanNumber_pos {b : UInt8} {rest : Bytes} (h : isDigit b = true) :
    0 < (scanNumber (b :: rest)).size := by
  unfold scanNumber
  split
  · rename_i z b' rest' heq
    cases heq
    split
    · split
      · exact size_scanBased_pos
      · split
        · exact length_digitRun_pos h
        · exact size_scanDecimal_pos h
    · exact size_scanDecimal_pos h
  · exact size_scanDecimal_pos h

theorem size_unterminated_pos {taken : Nat} {rest : Bytes} {earlier : List (Nat × Complaint)}
    (h : 0 < taken) : 0 < (unterminated taken rest earlier).size := by
  simp [unterminated]; omega

theorem size_closeChar_pos {taken : Nat} {rest : Bytes} {earlier : List (Nat × Complaint)}
    (h : 0 < taken) : 0 < (closeChar taken rest earlier).size := by
  unfold closeChar
  split
  · simp
  · exact size_unterminated_pos h

theorem size_scanChar_pos {body : Bytes} : 0 < (scanChar body).size := by
  unfold scanChar
  split
  · exact size_unterminated_pos (by omega)
  · split
    · exact size_unterminated_pos (by omega)
    · split
      · simp [Scan.bad]
      · split
        · split
          · exact size_closeChar_pos (by omega)
          · exact size_closeChar_pos (by omega)
        · exact size_closeChar_pos (by omega)

theorem encoding?_size_pos {bs : Bytes} {c : Char} {n : Nat} (h : Utf8.encoding? bs = some (c, n)) :
    0 < n := by
  unfold Utf8.encoding? at h
  grind

theorem decode?_size_pos {bs : Bytes} {c : Char} {n : Nat} (h : Utf8.decode? bs = some (c, n)) :
    0 < n := by
  cases bs with
  | nil => simp [Utf8.decode?] at h
  | cons b rest =>
    simp only [Utf8.decode?, Option.some.injEq] at h
    cases he : Utf8.encoding? (b :: rest) with
    | none =>
      rw [he] at h
      simp only [Option.getD_none, Prod.mk.injEq] at h
      omega
    | some p =>
      obtain ⟨c', n'⟩ := p
      rw [he] at h
      simp only [Option.getD_some, Prod.mk.injEq] at h
      have := encoding?_size_pos he
      omega

/-- A character that starts a name also continues one. -/
theorem isNamePartChar_of_start {c : Char} (h : isNameStartChar c = true) :
    isNamePartChar c = true := by
  unfold isNameStartChar at h
  unfold isNamePartChar
  split
  · rename_i hc
    simp only [hc, if_true] at h
    simp [isNamePart, h]
  · rename_i hc
    simp only [hc, if_false] at h
    simp [h]

theorem isNameStartChar_replacement : isNameStartChar Utf8.replacement = false := by
  decide +kernel

theorem size_scanName_pos {b : UInt8} {rest : Bytes} : 0 < (scanName (b :: rest)).size := by
  unfold scanName
  split
  · rename_i h
    simp [Utf8.decode?] at h
  · rename_i c n h
    split
    · rename_i hs
      simp only [namePartSize, namePartFrom]
      cases he : Utf8.encoding? (b :: rest) with
      | none =>
        simp only [Utf8.decode?, he, Option.getD_none, Option.some.injEq, Prod.mk.injEq] at h
        rw [← h.1, isNameStartChar_replacement] at hs
        exact absurd hs (by decide)
      | some p =>
        simp only [Utf8.decode?, he, Option.getD_some, Option.some.injEq] at h
        subst h
        simp only [isNamePartChar_of_start hs, if_true]
        omega
    · simpa [Scan.bad] using decode?_size_pos h

/-- Every token takes at least one byte. -/
theorem size_pos_of_scan? {bs : Bytes} {s : Scan} (h : scan? bs = some s) : 0 < s.size := by
  cases bs with
  | nil => simp [scan?] at h
  | cons b rest =>
    simp only [scan?] at h
    split at h
    · cases h
      exact size_scanName_pos
    · split at h
      · rename_i hd
        cases h
        exact size_scanNumber_pos hd
      · split at h
        · cases h
          exact size_scanChar_pos
        · split at h
          · cases h
            simp
          · cases h
            simp [Scan.bad]

theorem scan?_eq_none {bs : Bytes} : scan? bs = none ↔ bs = [] := by
  cases bs with
  | nil => simp [scan?]
  | cons b rest =>
    simp only [scan?, reduceCtorEq, iff_false]
    split
    · simp
    · split
      · simp
      · split
        · simp
        · split <;> simp

end Lexer

namespace Cursor

open Lexer

/-- Reads all lexemes ahead, the end marker included. -/
def lexemes (c : Cursor) : List Lexeme :=
  match _h : scan? c.skipTrivia.rest with
  | none => [c.skipTrivia.endLexeme]
  | some s => c.skipTrivia.lexemeOf s :: (c.skipTrivia.advance s.size).lexemes
termination_by c.rest.length
decreasing_by
  have hpos := size_pos_of_scan? _h
  have hne : c.skipTrivia.rest ≠ [] := by
    intro hnil
    rw [hnil] at _h
    simp [scan?] at _h
  have hlen : 0 < c.skipTrivia.rest.length := List.length_pos_iff.mpr hne
  simp only [skipTrivia, rest_advance, List.length_drop] at hlen ⊢
  omega

end Cursor

namespace Lexer

/-- Lexing on demand: a cursor and the lexeme that was looked at but not taken yet. -/
structure State where
  /-- The cursor behind the last lexeme read. -/
  cursor : Cursor
  /-- The lexeme looked at. -/
  look : Option Lexeme := none

namespace State

/-- The state in front of a source. -/
def start? (file : FileId) (content : Bytes) : Option State :=
  (Cursor.start? file content).map fun c => ⟨c, none⟩

/-- Takes the next token. The diagnostics are those found by this very call. After the end marker
the end marker comes again. -/
def next (s : State) : Token × List Diagnostic × State :=
  match s.look with
  | some l => (l.token, [], ⟨s.cursor, none⟩)
  | none =>
    let (l, c) := s.cursor.lexeme
    (l.token, l.diagnostics, ⟨c, none⟩)

/-- Looks at the next token without taking it. -/
def peek (s : State) : Token × List Diagnostic × State :=
  match s.look with
  | some l => (l.token, [], s)
  | none =>
    let (l, c) := s.cursor.lexeme
    (l.token, l.diagnostics, ⟨c, some l⟩)

/-- The lexemes still to come, the end marker included. One that was looked at comes without its
diagnostics, which have been delivered. -/
def remaining (s : State) : List Lexeme :=
  match s.look with
  | some l =>
    if l.token.kind = .endOfFile then [⟨l.token, []⟩] else ⟨l.token, []⟩ :: s.cursor.lexemes
  | none => s.cursor.lexemes

/-- The state after every token has been taken. -/
def exhausted (s : State) : State :=
  ⟨s.cursor.advance s.cursor.rest.length, none⟩

end State

end Lexer

end ThreeAddress
