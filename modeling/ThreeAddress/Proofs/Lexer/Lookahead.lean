import Mathlib.Data.List.GetD
import ThreeAddress.Proofs.Lexer.Tiling

/-!
# Looking ahead

A lexer is called for its tokens one at a time, to take the next one or to look at it. A look reads
the token as a take does, tells what is found about it, and keeps it for the calls that follow.
However looks and takes are mixed, the takes yield the tokens of the source and then its end marker
for ever, a look shows what is taken next, and what is found about a token is told once, when the
token is read.

The calls are compared with a reference that knows the tokens of the source by their numbers: all
that it keeps is how many were taken, and whether the next one was looked at (`Lexer.transcript`).

## Main definitions

* `Lexer.Call`, `Lexer.Answer`, `Lexer.State.answers` : calls on a lexer, and what they yield.
* `SourceFile.tokenAt` : the tokens of a source by their numbers, with no last one.
* `Lexer.State.Stands` : how many tokens a lexer has yielded, and whether it has looked further.
* `Lexer.Answers` : what answers to calls have to be.

## Main results

* `Lexer.State.Stands.answers_eq` : a lexer answers as the reference does.
* `SourceFile.answers_start` : the answers of a lexer in front of a source.
-/

namespace ThreeAddress

/-- The token of a number in a source. Behind the last one its end marker comes again. -/
def SourceFile.tokenAt (f : SourceFile) (i : Nat) : Token :=
  (f.lexemes.map Lexeme.token).getD i (.endOf f.id f.content)

namespace Cursor

open Lexer

/-- The lexeme of a number ahead of a cursor. Behind the last one the end marker comes again. -/
def lexemeAt (c : Cursor) (i : Nat) : Lexeme :=
  c.lexemes.getD i ⟨.endOf c.file c.content, []⟩

/-- The state behind the trivia in front of the end has nothing but the end marker ahead. -/
theorem lexemes_skipTrivia_of_none {c : Cursor} (h : scan? c.skipTrivia.rest = none) :
    c.skipTrivia.lexemes = [⟨.endOf c.file c.content, []⟩] := by
  have hrest : c.skipTrivia.rest = [] := scan?_eq_none.mp h
  have hagain : scan? c.skipTrivia.skipTrivia.rest = none := by
    rw [skipTrivia, rest_advance, hrest, List.drop_nil]
    rfl
  rw [lexemes_of_none hagain, endLexeme_of_none hagain]
  rfl

/-- What is read next is the first lexeme ahead. -/
theorem fst_lexeme (c : Cursor) : c.lexeme.1 = c.lexemeAt 0 := by
  unfold lexeme lexemeAt
  dsimp only
  cases h : scan? c.skipTrivia.rest with
  | none => rw [lexemes_of_none h]; rfl
  | some s => rw [lexemes_of_some h]; rfl

/-- Behind what is read next the other lexemes are ahead. -/
theorem lexemeAt_snd_lexeme (c : Cursor) (i : Nat) :
    c.lexeme.2.lexemeAt i = c.lexemeAt (i + 1) := by
  unfold lexeme lexemeAt
  dsimp only
  cases h : scan? c.skipTrivia.rest with
  | none =>
    dsimp only
    rw [lexemes_skipTrivia_of_none h, lexemes_of_none h]
    cases i <;> rfl
  | some s => rw [lexemes_of_some h]; rfl

end Cursor

namespace Lexer

/-- A call on a lexer. -/
inductive Call where
  /-- Looks at the next token. -/
  | peek
  /-- Takes the next token. -/
  | next
deriving Repr, DecidableEq

/-- What a call yields. -/
structure Answer where
  /-- The call. -/
  call : Call
  /-- The token. -/
  token : Token
  /-- The diagnostics that are told while the call is answered. -/
  diagnostics : List Diagnostic
deriving Repr, DecidableEq

namespace State

/-- Answers a call. -/
def call (s : State) : Call → Token × List Diagnostic × State
  | .peek => s.peek
  | .next => s.next

/-- Answers calls one after another. -/
def answers (s : State) : List Call → List Answer
  | [] => []
  | c :: cs =>
    let (token, diagnostics, s) := s.call c
    ⟨c, token, diagnostics⟩ :: s.answers cs

end State

/-! ### The reference -/

/-- The answers to calls by the numbers of the lexemes alone: `taken` of them were taken, and
`looked` says whether the one behind these was looked at. -/
def transcript (c : Cursor) : (taken : Nat) → (looked : Bool) → List Call → List Answer
  | _, _, [] => []
  | taken, looked, call :: cs =>
    ⟨call, (c.lexemeAt taken).token, if looked then [] else (c.lexemeAt taken).diagnostics⟩ ::
      match call with
      | .peek => transcript c taken true cs
      | .next => transcript c (taken + 1) false cs

/-- How far a lexer is that started at a cursor. -/
inductive State.Stands (c : Cursor) : (taken : Nat) → (looked : Bool) → State → Prop
  /-- All tokens that were read were taken. -/
  | fresh {taken : Nat} {cursor : Cursor}
      (h : ∀ i, cursor.lexemeAt i = c.lexemeAt (taken + i)) : Stands c taken false ⟨cursor, none⟩
  /-- The last token that was read was only looked at. -/
  | looked {taken : Nat} {cursor : Cursor}
      (h : ∀ i, cursor.lexemeAt i = c.lexemeAt (taken + 1 + i)) :
      Stands c taken true ⟨cursor, some (c.lexemeAt taken)⟩

namespace State.Stands

variable {c : Cursor} {taken : Nat} {looked : Bool} {s : State}

theorem start (c : Cursor) : Stands c 0 false ⟨c, none⟩ :=
  .fresh fun i => by rw [Nat.zero_add]

/-- Reading on from a cursor behind so many lexemes. -/
theorem behind_lexeme {cursor : Cursor} (h : ∀ i, cursor.lexemeAt i = c.lexemeAt (taken + i)) :
    cursor.lexeme.1 = c.lexemeAt taken ∧
      ∀ i, cursor.lexeme.2.lexemeAt i = c.lexemeAt (taken + 1 + i) := by
  refine ⟨by rw [Cursor.fst_lexeme, h, Nat.add_zero], fun i => ?_⟩
  rw [Cursor.lexemeAt_snd_lexeme, h, Nat.add_assoc, Nat.add_comm 1 i]

/-- A take yields the lexeme whose number is that of the takes before. What is found about it is
told, unless that was done by a look. -/
theorem next (h : Stands c taken looked s) :
    s.next.1 = (c.lexemeAt taken).token ∧
      s.next.2.1 = (if looked then [] else (c.lexemeAt taken).diagnostics) ∧
      Stands c (taken + 1) false s.next.2.2 := by
  cases h with
  | @fresh cursor hahead =>
    obtain ⟨hfirst, hrest⟩ := behind_lexeme hahead
    exact ⟨congrArg Lexeme.token hfirst, congrArg Lexeme.diagnostics hfirst, .fresh hrest⟩
  | looked hahead => exact ⟨rfl, rfl, .fresh hahead⟩

/-- A look yields the same, and takes nothing. -/
theorem peek (h : Stands c taken looked s) :
    s.peek.1 = (c.lexemeAt taken).token ∧
      s.peek.2.1 = (if looked then [] else (c.lexemeAt taken).diagnostics) ∧
      Stands c taken true s.peek.2.2 := by
  cases h with
  | @fresh cursor hahead =>
    obtain ⟨hfirst, hrest⟩ := behind_lexeme hahead
    refine ⟨congrArg Lexeme.token hfirst, congrArg Lexeme.diagnostics hfirst, ?_⟩
    show Stands c taken true ⟨cursor.lexeme.2, some cursor.lexeme.1⟩
    rw [hfirst]
    exact .looked hrest
  | looked hahead => exact ⟨rfl, rfl, .looked hahead⟩

/-- A lexer answers calls as the reference does. -/
theorem answers_eq (h : Stands c taken looked s) (cs : List Call) :
    s.answers cs = transcript c taken looked cs := by
  induction cs generalizing taken looked s with
  | nil => rfl
  | cons call cs ih =>
    cases call with
    | peek =>
      obtain ⟨htoken, htold, hstands⟩ := h.peek
      rw [answers, transcript, ← htoken, ← htold, ← ih hstands]
      rfl
    | next =>
      obtain ⟨htoken, htold, hstands⟩ := h.next
      rw [answers, transcript, ← htoken, ← htold, ← ih hstands]
      rfl

end State.Stands

/-! ### What the reference answers -/

section Transcript

variable (c : Cursor) {taken : Nat} {looked : Bool} {cs : List Call}

theorem call_transcript : (transcript c taken looked cs).map Answer.call = cs := by
  induction cs generalizing taken looked with
  | nil => rfl
  | cons call cs ih => cases call <;> simp [transcript, ih]

/-- The takes yield the lexemes one after another. -/
theorem taken_transcript :
    ((transcript c taken looked cs).filter fun a => a.call == .next).map Answer.token =
      (List.range' taken (cs.count .next)).map fun i => (c.lexemeAt i).token := by
  induction cs generalizing taken looked with
  | nil => rfl
  | cons call cs ih =>
    cases call with
    | peek => simpa [transcript] using ih
    | next => simp [transcript, ih, List.range'_succ]

/-- Every call shows the lexeme whose number is that of the takes before. -/
theorem token_of_transcript {front : List Answer} {a : Answer} {back : List Answer}
    (h : transcript c taken looked cs = front ++ a :: back) :
    a.token = (c.lexemeAt (taken + (front.map Answer.call).count .next)).token := by
  induction front generalizing taken looked cs with
  | nil =>
    cases cs with
    | nil => cases h
    | cons call cs =>
      obtain ⟨rfl, -⟩ := List.cons_eq_cons.mp h
      rfl
  | cons b front ih =>
    cases cs with
    | nil => cases h
    | cons call cs =>
      obtain ⟨rfl, hrest⟩ := List.cons_eq_cons.mp h
      cases call with
      | peek => simpa using ih hrest
      | next =>
        have htoken := ih hrest
        rw [htoken, List.map_cons, List.count_cons_self, Nat.add_assoc, Nat.add_comm 1]

/-- How many lexemes are read for calls; `looked` says whether one of them has been looked at. -/
def readFor : (looked : Bool) → List Call → Nat
  | _, [] => 0
  | looked, .peek :: cs => (if looked then 0 else 1) + readFor true cs
  | looked, .next :: cs => (if looked then 0 else 1) + readFor false cs

/-- Those that are taken are read, and one that is looked at last. -/
theorem readFor_eq (looked : Bool) (cs : List Call) :
    looked.toNat + readFor looked cs = cs.count .next +
      if cs.getLast?.getD (bif looked then .peek else .next) = .peek then 1 else 0 := by
  induction cs generalizing looked with
  | nil => cases looked <;> rfl
  | cons call cs ih =>
    have hone (n : Nat) : looked.toNat + ((if looked then 0 else 1) + n) = 1 + n := by
      cases looked <;> simp
    rw [List.getLast?_cons, Option.getD_some]
    cases call with
    | peek =>
      rw [readFor, hone, List.count_cons_of_ne (by decide)]
      exact ih true
    | next =>
      have hrest : readFor false cs = _ := (Nat.zero_add _).symm.trans (ih false)
      rw [readFor, hone, List.count_cons_self, hrest, Nat.add_left_comm, ← Nat.add_assoc]
      rfl

/-- What is found about a lexeme is told when it is read. -/
theorem told_transcript :
    (transcript c taken looked cs).flatMap Answer.diagnostics =
      (List.range' (taken + looked.toNat) (readFor looked cs)).flatMap
        fun i => (c.lexemeAt i).diagnostics := by
  induction cs generalizing taken looked with
  | nil => rfl
  | cons call cs ih =>
    cases call <;> cases looked <;>
      simp [transcript, readFor, ih, Nat.add_comm 1, List.range'_succ]

end Transcript

/-! ### Lexers in front of a source -/

/-- What the answers to calls have to be. -/
structure Answers (f : SourceFile) (cs : List Call) (as : List Answer) : Prop where
  /-- Every call is answered, in order. -/
  calls : as.map Answer.call = cs
  /-- The takes yield the tokens of the source, and then its end marker for ever. -/
  taken : (as.filter fun a => a.call == .next).map Answer.token =
    (List.range (cs.count .next)).map f.tokenAt
  /-- Every call shows the token whose number is that of the takes before. -/
  numbered : ∀ front a back, as = front ++ a :: back →
    a.token = f.tokenAt ((front.map Answer.call).count .next)
  /-- A look shows what the take that follows yields. -/
  looked : ∀ front a between b back, as = front ++ a :: (between ++ b :: back) →
    a.call = .peek → (∀ x ∈ between, x.call = .peek) → b.call = .next → b.token = a.token
  /-- What is found about the tokens that were read, the last one of which may only have been
  looked at, is told once and in order. -/
  told : as.flatMap Answer.diagnostics =
    (f.lexemes.take (cs.count .next + if cs.getLast? = some .peek then 1 else 0)).flatMap
      Lexeme.diagnostics

end Lexer

/-- The diagnostics of lexemes by their numbers. -/
theorem flatMap_range_getD (ls : List Lexeme) {l : Lexeme} (hl : l.diagnostics = []) (n : Nat) :
    ((List.range n).flatMap fun i => (ls.getD i l).diagnostics) =
      (ls.take n).flatMap Lexeme.diagnostics := by
  induction n generalizing ls with
  | zero => rfl
  | succ n ih =>
    rw [List.range_succ_eq_map, List.flatMap_cons, List.flatMap_map]
    cases ls with
    | nil => simp [hl]
    | cons first ls => exact congrArg (first.diagnostics ++ ·) (ih ls)

open Lexer in
/-- However looks and takes are mixed, a lexer in front of a source yields the tokens of the source
and then its end marker for ever. A look changes nothing of that: it shows what is taken next, and
what is found about a token is told once, by the call that reads it. -/
theorem SourceFile.answers_start (f : SourceFile) (hsize : f.content.length < UInt32.size - 1) :
    ∃ s, State.start? f.id f.content = some s ∧ s.remaining = f.lexemes ∧
      ∀ cs, Answers f cs (s.answers cs) := by
  have hfits : f.content.length < UInt32.size := Nat.lt_of_lt_of_le hsize (Nat.sub_le _ _)
  let c : Cursor := ⟨f.id, f.content, 0, f.content, hfits, Nat.zero_le _, rfl⟩
  have hlexemes : f.lexemes = c.lexemes := lexemes_eq hfits
  have htoken (i : Nat) : (c.lexemeAt i).token = f.tokenAt i := by
    rw [tokenAt, hlexemes]
    exact (List.getD_map c.lexemes ⟨.endOf f.id f.content, []⟩ Lexeme.token).symm
  refine ⟨⟨c, none⟩, by rw [State.start?, Cursor.start?, dif_pos hfits]; rfl, hlexemes.symm,
    fun cs => ?_⟩
  have hnumbered (front : List Answer) (a : Answer) (back : List Answer)
      (h : State.answers ⟨c, none⟩ cs = front ++ a :: back) :
      a.token = f.tokenAt ((front.map Answer.call).count .next) := by
    rw [(State.Stands.start c).answers_eq cs] at h
    rw [token_of_transcript c h, htoken, Nat.zero_add]
  refine ⟨?_, ?_, hnumbered, ?_, ?_⟩
  · rw [(State.Stands.start c).answers_eq cs, call_transcript]
  · rw [(State.Stands.start c).answers_eq cs, taken_transcript, List.range_eq_range']
    exact List.map_congr_left fun i _ => htoken i
  · intro front a between b back h ha hbetween _
    -- no token is taken between the look and the take
    have hcount : (between.map Answer.call).count .next = 0 := by
      refine List.count_eq_zero.mpr fun hmem => ?_
      obtain ⟨x, hx, hcall⟩ := List.mem_map.mp hmem
      rw [hbetween x hx] at hcall
      cases hcall
    rw [hnumbered front a _ h, hnumbered (front ++ a :: between) b back (by simp [h]),
      List.map_append, List.map_cons, ha, List.count_append, List.count_cons_of_ne (by decide),
      hcount, Nat.add_zero]
  · have hlast : cs.getLast?.getD .next = .peek ↔ cs.getLast? = some .peek := by
      cases cs.getLast? <;> simp
    have hread := readFor_eq false cs
    simp only [Bool.toNat_false, Nat.zero_add, cond_false, hlast] at hread
    rw [(State.Stands.start c).answers_eq cs, told_transcript, hread, hlexemes,
      ← flatMap_range_getD c.lexemes (l := ⟨.endOf c.file c.content, []⟩) rfl,
      List.range_eq_range']
    rfl

/-- A source with a character that starts no token. -/
def strayMark : SourceFile :=
  .ofContent 0 (utf8 "mark.ez") (utf8 "$ 1") 0

open Lexer in
/-- Looks and takes are mixed up to the end and behind it. The complaint about the character is told
by the first look alone. -/
theorem answers_start_strayMark :
    let cs : List Call := [.peek, .peek, .next, .next, .peek, .next, .next]
    ∃ s, State.start? strayMark.id strayMark.content = some s ∧
      Answers strayMark cs (s.answers cs) ∧
      (s.answers cs).map (fun a => (a.token.kind, a.diagnostics.length)) =
        [(.invalid, 1), (.invalid, 0), (.invalid, 0), (.integer, 0), (.endOfFile, 0),
          (.endOfFile, 0), (.endOfFile, 0)] := by
  intro cs
  obtain ⟨s, hs, -, hanswers⟩ := strayMark.answers_start (by decide +kernel)
  have hall : (State.start? strayMark.id strayMark.content).map
      (fun s => (s.answers cs).map fun a => (a.token.kind, a.diagnostics.length)) =
        some [(.invalid, 1), (.invalid, 0), (.invalid, 0), (.integer, 0), (.endOfFile, 0),
          (.endOfFile, 0), (.endOfFile, 0)] := by
    decide +kernel
  rw [hs] at hall
  exact ⟨s, hs, hanswers cs, Option.some.inj hall⟩

end ThreeAddress
