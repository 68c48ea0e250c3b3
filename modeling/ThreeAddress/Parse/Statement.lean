import ThreeAddress.Parse.Expression
import ThreeAddress.Parse.TypeName

/-!
# Parsing statements

A statement is a declaration, a block or an expression with a semicolon. A statement that does not
fit the grammar is skipped through its semicolon, so that parsing always reaches the end of the
file.

## Main definitions

* `parseStmt` : reads one statement.
* `parseProgram` : the events of a whole source.

## Main results

* `Statement.progress` : a statement takes at least one token.
-/

namespace ThreeAddress.Parse

/-- Skips the rest of the statement if a step of it has failed. -/
def Step.orResync {α : Type} {i : Input} (s : Step α i) : Step Unit i :=
  match s.value with
  | some _ => ⟨s.events, some (), s.rest, s.suffix⟩
  | none => (resync s.rest).after s.events s.suffix

/-- Reads a declaration behind its keyword. The name is declared even if the semicolon is missing,
so that later statements find it. -/
def parseLet (i : Input) : Step Unit i :=
  Step.orResync <|
    (Step.expect i .identifier .expectIdentifier (utf8 "expected identifier after 'let'") []).bind
      fun name j _ =>
        (Step.expect j .colon .expectColon (utf8 "expected ':' after '" ++ name.text ++ utf8 "'")
          []).bind fun _ k _ =>
            ((parseType k).yield (fun type => .declare name type) ()).bind fun _ l _ =>
              Step.expect l .semicolon .expectSemicolon (utf8 "expected ';' after declaration") []

/-- Reads an expression and its semicolon. -/
def parseExprBody (i : Input) : Step Token i :=
  (parseExpr i).bind fun _ j _ =>
    Step.expect j .semicolon .expectSemicolon (utf8 "expected ';' after expression") []

/-- Reads an expression statement. -/
def parseExprStmt (i : Input) : Step Unit i :=
  ((parseExprBody i).yield (fun _ => .finish) ()).orResync

theorem Step.size_rest_expect_lt {i : Input} {k : TokenKind} {code : Code} {message : Bytes}
    {notes : List Note} (hk : k ≠ .endOfFile)
    (h : (Step.expect i k code message notes).value ≠ none) :
    (Step.expect i k code message notes).rest.size < i.size := by
  unfold Step.expect at h ⊢
  split at h
  · rename_i hkind
    simp only [hkind, if_true, Step.take]
    cases ha : i.ahead with
    | nil => simp [Input.kind, ha] at hkind; exact absurd hkind.symm hk
    | cons l rest => exact Input.size_tail_lt ha
  · simp [Step.complain] at h

theorem Step.size_rest_bind_lt {α β : Type} {i : Input} {s : Step α i}
    {next : α → (j : Input) → j.ahead <:+ i.ahead → Step β j}
    (hnext : ∀ a j h, (next a j h).value ≠ none → (next a j h).rest.size < j.size)
    (h : (s.bind next).value ≠ none) : (s.bind next).rest.size < i.size := by
  unfold Step.bind at h ⊢
  split at h
  · rename_i a ha
    simp only [Step.after] at h ⊢
    exact Nat.lt_of_lt_of_le (hnext a s.rest s.suffix h) s.size_le
  · simp at h

/-- Skipping takes a token, unless it stands at a closing brace or the end. -/
theorem size_rest_skipStatement_lt {i : Input} {l : Lexeme} {rest : List Lexeme}
    (h : i.ahead = l :: rest) (hk : l.token.kind ≠ .rightBrace) :
    (skipStatement i).rest.size < i.size := by
  have htail := Input.size_tail_lt h
  unfold skipStatement
  split
  · rename_i hnil
    rw [h] at hnil
    exact absurd hnil (by simp)
  · rename_i l' rest' heq
    rw [h] at heq
    obtain ⟨rfl, rfl⟩ := List.cons.inj heq
    split
    · rename_i hb
      exact absurd hb hk
    · exact htail
    · exact Nat.lt_of_le_of_lt (skipStatement i.tail).size_le htail

/-- An expression statement takes a token, unless it stands at a closing brace or the end. -/
theorem size_rest_parseExprStmt_lt {i : Input} {l : Lexeme} {rest : List Lexeme}
    (h : i.ahead = l :: rest) (hk : l.token.kind ≠ .rightBrace) :
    (parseExprStmt i).rest.size < i.size := by
  unfold parseExprStmt Step.orResync
  split
  · rename_i hsome
    simp only [Step.yield] at hsome ⊢
    split at hsome
    · rename_i t ht
      simp only []
      refine Step.size_rest_bind_lt (fun _ _ _ hv => ?_) (by
        change (parseExprBody i).value ≠ none
        rw [ht]
        simp)
      exact Step.size_rest_expect_lt (by decide) hv
    · simp at hsome
  · simp only [resync, Step.after]
    generalize (parseExprBody i).yield (fun _ => Event.finish) () = s
    by_cases hlt : s.rest.size < i.size
    · exact Nat.lt_of_le_of_lt (skipStatement s.rest).size_le hlt
    · have hle := s.size_le
      have heq : s.rest.ahead = i.ahead := s.suffix.eq_of_length (by
        simp only [Input.size] at hlt hle
        omega)
      have := size_rest_skipStatement_lt (heq.trans h) hk
      omega

/-- The outcome of reading a statement: from a nonempty input it takes at least one token. -/
structure Statement (i : Input) extends Step Unit i where
  /-- At least one token is taken. -/
  progress : i.ahead ≠ [] → rest.size < i.size

/-- The complaint about a block without an end. -/
def unclosedBlock (opening : Span) (i : Input) : Step Unit i :=
  let s : Step Token i :=
    .expect i .rightBrace .unclosedBrace (utf8 "expected '\x7d'")
      [⟨opening, utf8 "block opened here"⟩]
  ⟨s.events ++ [.closeBlock], some (), s.rest, s.suffix⟩

/-- Takes a closing brace that no block waits for. -/
def strayBrace (i : Input) : Step Unit i :=
  ⟨i.lookEvents ++ [.complain (.ofError .unexpectedToken i.complaintSpan
    (utf8 "unexpected '\x7d' without an open block"))], some (), i.tail, Input.tail_suffix i⟩

mutual

/-- Reads a statement. -/
def parseStmt (i : Input) : Statement i :=
  match _h : i.ahead with
  | [] => ⟨Step.pure (), fun hne => absurd _h hne⟩
  | l :: _ =>
    if l.token.kind = .keywordLet then
      ⟨(parseLet i.tail).behind, fun _ =>
        Nat.lt_of_le_of_lt (parseLet i.tail).size_le (Input.size_tail_lt _h)⟩
    else if l.token.kind = .leftBrace then
      let s := parseBlock l.token.span i.tail
      ⟨(s.after [.openBlock] (List.suffix_refl _)).behind, fun _ =>
        Nat.lt_of_le_of_lt s.size_le (Input.size_tail_lt _h)⟩
    else if hk : l.token.kind = .rightBrace then
      ⟨strayBrace i, fun _ => Input.size_tail_lt _h⟩
    else
      ⟨parseExprStmt i, fun _ => size_rest_parseExprStmt_lt _h hk⟩
termination_by 2 * i.size
decreasing_by
  have := Input.size_tail_lt _h
  omega

/-- Reads the statements of a block and its closing brace. -/
def parseBlock (opening : Span) (i : Input) : Step Unit i :=
  match _h : i.ahead with
  | [] => unclosedBlock opening i
  | l :: _ =>
    if l.token.kind = .rightBrace then Step.take i () [.closeBlock]
    else
      let s := parseStmt i
      (parseBlock opening s.rest).after s.events s.suffix
termination_by 2 * i.size + 1
decreasing_by
  · omega
  · exact Nat.add_lt_add_right
      (Nat.mul_lt_mul_of_pos_left (s.progress (by simp [_h])) (by decide)) 1

end

/-- The events of all statements ahead. -/
def parseProgram (i : Input) : List Event :=
  match _h : i.ahead with
  | [] => []
  | _ :: _ =>
    let s := parseStmt i
    s.events ++ parseProgram s.rest
termination_by i.size
decreasing_by exact (parseStmt i).progress (by simp [_h])

end ThreeAddress.Parse
