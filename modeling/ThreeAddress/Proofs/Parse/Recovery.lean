import ThreeAddress.Proofs.Parse.Places
import ThreeAddress.Proofs.Parse.Statements

/-!
# A broken statement ends at its semicolon

No expression, no type and no part of a declaration takes a semicolon. So a statement without a
block is over with the first semicolon in front of the next brace: if its tokens fit the grammar,
they are followed by the semicolon, and if they do not, the rest is skipped through it. Whatever is
wrong with a statement, what follows its semicolon is read as it would be read alone.

## Main definitions

* `Step.Spares` : a step takes no semicolon.
* `Step.Closes` : a step with a value takes everything through the first semicolon.
* `Step.EndsAt` : a step has come behind the first semicolon.
* `remaining` : the events of the rest of a source.

## Main results

* `endsAt_parseStmt` : a statement takes its tokens and the first semicolon.
* `Reaches.exists_remaining` : what follows wherever reading has come to.
* `erase_remaining` : the rest of a source does not depend on what was read before.
-/

namespace ThreeAddress.Parse

namespace Step

variable {α β : Type} {i j : Input}

/-- A step takes no semicolon. -/
def Spares (s : Step α i) : Prop :=
  ∃ taken, i.ahead = taken ++ s.rest.ahead ∧ ∀ l ∈ taken, l.token.kind ≠ .semicolon

namespace Spares

/-- A step that takes nothing. -/
theorem ofSame {s : Step α i} (h : s.rest.ahead = i.ahead) : s.Spares :=
  ⟨[], h.symm, List.forall_mem_nil _⟩

/-- What is read behind the next token. -/
theorem ofTail {s : Step α i} {t : Step β i.tail} (ht : t.Spares) (hk : i.kind ≠ .semicolon)
    (hrest : s.rest.ahead = t.rest.ahead) : s.Spares := by
  obtain ⟨taken, htaken, hspared⟩ := ht
  rw [Input.ahead_tail] at htaken
  cases hi : i.ahead with
  | nil =>
    rw [hi, List.tail_nil] at htaken
    obtain ⟨rfl, hnil⟩ := List.append_eq_nil_iff.mp htaken.symm
    exact ⟨[], by rw [hrest, hnil, hi]; rfl, List.forall_mem_nil _⟩
  | cons l rest =>
    rw [hi, List.tail_cons] at htaken
    refine ⟨l :: taken, by rw [hi, htaken, hrest]; rfl, List.forall_mem_cons.mpr ⟨?_, hspared⟩⟩
    rwa [Input.kind_of_ahead hi] at hk

theorem ofBehind {s : Step α i.tail} (hs : s.Spares) (hk : i.kind ≠ .semicolon) :
    s.behind.Spares :=
  hs.ofTail hk rfl

theorem ofTake (a : α) (es : List Event) (hk : i.kind ≠ .semicolon) : (Step.take i a es).Spares :=
  (ofSame (s := (Step.pure a : Step α i.tail)) rfl).ofTail hk rfl

theorem ofExpect {k : TokenKind} (hk : k ≠ .semicolon) (code : Code) (message : Bytes)
    (notes : List Note) : (Step.expect i k code message notes).Spares := by
  unfold Step.expect
  split
  · rename_i hkind
    exact ofTake _ _ (hkind ▸ hk)
  · exact ofSame rfl

theorem ofBind {s : Step α i} (hs : s.Spares)
    {next : α → (j : Input) → j.ahead <:+ i.ahead → Step β j}
    (hnext : ∀ a j h, (next a j h).Spares) : (s.bind next).Spares := by
  unfold Step.bind
  split
  · rename_i a _
    obtain ⟨taken, htaken, hspared⟩ := hs
    obtain ⟨taken', htaken', hspared'⟩ := hnext a s.rest s.suffix
    exact ⟨taken ++ taken', by rw [htaken, htaken', List.append_assoc]; rfl,
      List.forall_mem_append.mpr ⟨hspared, hspared'⟩⟩
  · exact hs

theorem ofYield {s : Step α i} (hs : s.Spares) (event : α → Event) (value : β) :
    (s.yield event value).Spares := by
  unfold Step.yield
  split <;> exact hs

end Spares

/-- A step without a value takes no semicolon, and a step with one takes everything through the
first semicolon. -/
structure Closes (s : Step α i) : Prop where
  /-- Without a value. -/
  broken (h : s.value = none) : s.Spares
  /-- With a value. -/
  closed (h : s.value ≠ none) : ∃ taken stop, i.ahead = taken ++ stop :: s.rest.ahead ∧
    (∀ l ∈ taken, l.token.kind ≠ .semicolon) ∧ stop.token.kind = .semicolon ∧
      s.rest.looked = false

namespace Closes

theorem ofExpect (code : Code) (message : Bytes) (notes : List Note) :
    (Step.expect i .semicolon code message notes).Closes := by
  unfold Step.expect
  split
  · rename_i hk
    refine ⟨fun h => absurd h (Option.some_ne_none _), fun _ => ?_⟩
    cases hi : i.ahead with
    | nil =>
      rw [Input.kind_of_nil hi] at hk
      cases hk
    | cons l rest =>
      rw [Input.kind_of_ahead hi] at hk
      refine ⟨[], l, ?_, List.forall_mem_nil _, hk, ?_⟩
      · simp [Step.take, hi]
      · simp [Step.take, Input.tail, hi]
  · exact ⟨fun _ => .ofSame rfl, fun h => absurd rfl h⟩

theorem ofBind {s : Step α i} (hs : s.Spares)
    {next : α → (j : Input) → j.ahead <:+ i.ahead → Step β j}
    (hnext : ∀ a j h, (next a j h).Closes) : (s.bind next).Closes := by
  unfold Step.bind
  split
  · rename_i a _
    obtain ⟨taken, htaken, hspared⟩ := hs
    obtain ⟨hbroken, hclosed⟩ := hnext a s.rest s.suffix
    refine ⟨fun h => ?_, fun h => ?_⟩
    · obtain ⟨taken', htaken', hspared'⟩ := hbroken h
      exact ⟨taken ++ taken', by rw [htaken, htaken', List.append_assoc]; rfl,
        List.forall_mem_append.mpr ⟨hspared, hspared'⟩⟩
    · obtain ⟨taken', stop, htaken', hspared', hrest⟩ := hclosed h
      exact ⟨taken ++ taken', stop, by rw [htaken, htaken', List.append_assoc]; rfl,
        List.forall_mem_append.mpr ⟨hspared, hspared'⟩, hrest⟩
  · exact ⟨fun _ => hs, fun h => absurd rfl h⟩

theorem ofYield {s : Step α i} (hs : s.Closes) (event : α → Event) (value : β) :
    (s.yield event value).Closes := by
  unfold Step.yield
  split
  · rename_i a ha
    exact ⟨fun h => absurd h (Option.some_ne_none _), fun _ => hs.closed (by simp [ha])⟩
  · rename_i hnone
    exact ⟨fun _ => hs.broken hnone, fun h => absurd rfl h⟩

end Closes

end Step

open Step (Spares Closes)

variable {i j : Input} {l : Lexeme} {rest : List Lexeme}

/-! ### Nothing in a statement takes a semicolon -/

/-- No part of an expression takes a semicolon. -/
theorem kept_spares : Step.Kept @Spares where
  look _ _ := .ofSame rfl
  invalid _ _ := .ofSame rfl
  skip _ hk hs := hs.ofBehind (by simp [hk])
  take a hk := .ofTake a _ (by rintro h; rw [h] at hk; cases hk)
  literal _ hk := .ofTake () _ (by rintro h; rw [h] at hk; cases hk)
  name _ hs := hs
  complain _ _ _ := .ofSame rfl
  behind hk hs := hs.ofBehind (by rintro h; rw [h] at hk; cases hk)
  bind hs hnext := hs.ofBind hnext
  yield event _ value hs := hs.ofYield event value

theorem spares_parseExpr (i : Input) : (parseExpr i).Spares :=
  kept_spares.expression i

theorem spares_parseType (i : Input) : (parseType i).Spares :=
  kept_spares.type (fun _ => .ofSame rfl) (fun _ => .ofSame rfl) i

/-- An expression statement with a value takes everything through the first semicolon. -/
theorem closes_parseExprBody (i : Input) : (parseExprBody i).Closes :=
  .ofBind (spares_parseExpr i) fun _ _ _ => .ofExpect _ _ _

/-! ### Where a statement ends -/

variable {g cont : List Lexeme} {stop : Lexeme}

/-- A step has come through the first semicolon, and has not looked any further. -/
structure Step.EndsAt {α : Type} (s : Step α i) (cont : List Lexeme) : Prop where
  /-- The tokens behind the semicolon are left. -/
  ahead : s.rest.ahead = cont
  /-- None of them has been looked at. -/
  looked : s.rest.looked = false

/-- The first semicolon is one place. -/
theorem eq_of_first_semicolon {taken : List Lexeme} {stop' : Lexeme} {cont' : List Lexeme}
    (h : g ++ stop :: cont = taken ++ stop' :: cont') (hg : ∀ l ∈ g, l.token.kind ≠ .semicolon)
    (hstop : stop.token.kind = .semicolon) (htaken : ∀ l ∈ taken, l.token.kind ≠ .semicolon)
    (hstop' : stop'.token.kind = .semicolon) : cont = cont' := by
  induction g generalizing taken with
  | nil =>
    cases taken with
    | nil => exact (List.cons.inj h).2
    | cons l taken =>
      obtain ⟨rfl, -⟩ := List.cons.inj h
      exact absurd hstop (htaken _ List.mem_cons_self)
  | cons l g ih =>
    cases taken with
    | nil =>
      obtain ⟨rfl, -⟩ := List.cons.inj h
      exact absurd hstop' (hg _ List.mem_cons_self)
    | cons l' taken =>
      exact ih (List.cons.inj h).2 (fun x hx => hg x (List.mem_cons_of_mem _ hx))
        fun x hx => htaken x (List.mem_cons_of_mem _ hx)

/-- What is left when no semicolon has been taken still runs up to the first one. -/
theorem exists_of_spared {taken left : List Lexeme} (h : g ++ stop :: cont = taken ++ left)
    (hstop : stop.token.kind = .semicolon) (htaken : ∀ l ∈ taken, l.token.kind ≠ .semicolon) :
    ∃ g', left = g' ++ stop :: cont ∧ g' ⊆ g := by
  rcases List.append_eq_append_iff.mp h with ⟨more, rfl, hmore⟩ | ⟨g', rfl, rfl⟩
  · cases more with
    | nil => exact ⟨[], hmore.symm, List.nil_subset _⟩
    | cons l more =>
      obtain ⟨rfl, -⟩ := List.cons.inj hmore
      exact absurd hstop (htaken _ (by simp))
  · exact ⟨g', rfl, List.subset_append_right _ _⟩

/-- Skipping ends behind the first semicolon in front of the next closing brace. -/
theorem endsAt_skipStatement (hahead : i.ahead = g ++ stop :: cont)
    (hg : ∀ l ∈ g, l.token.kind ≠ .semicolon ∧ l.token.kind ≠ .rightBrace)
    (hstop : stop.token.kind = .semicolon) : (skipStatement i).EndsAt cont := by
  induction g generalizing i with
  | nil =>
    rw [skipStatement_semicolon hahead hstop]
    exact ⟨by simp [Step.take, hahead], by simp [Step.take, Input.tail, hahead]⟩
  | cons l g ih =>
    obtain ⟨hl, hg⟩ := List.forall_mem_cons.mp hg
    rw [skipStatement_more hahead hl.1 hl.2]
    have htail : i.tail.ahead = g ++ stop :: cont := by rw [Input.ahead_tail, hahead]; rfl
    obtain ⟨hrest, hlooked⟩ := ih htail hg
    exact ⟨hrest, hlooked⟩

/-- Whether a statement is closed or given up, it ends behind the first semicolon. -/
theorem endsAt_orResync {α : Type} {s : Step α i} (hs : s.Closes)
    (hahead : i.ahead = g ++ stop :: cont)
    (hg : ∀ l ∈ g, l.token.kind ≠ .semicolon ∧ l.token.kind ≠ .rightBrace)
    (hstop : stop.token.kind = .semicolon) : s.orResync.EndsAt cont := by
  unfold Step.orResync
  split
  · rename_i a ha
    obtain ⟨taken, stop', htaken, hspared, hstop', hlooked⟩ := hs.closed (by simp [ha])
    refine ⟨Eq.symm ?_, hlooked⟩
    exact eq_of_first_semicolon (hahead.symm.trans htaken) (fun l hl => (hg l hl).1) hstop hspared
      hstop'
  · rename_i hnone
    obtain ⟨taken, htaken, hspared⟩ := hs.broken hnone
    obtain ⟨g', hleft, hsub⟩ := exists_of_spared (hahead.symm.trans htaken) hstop hspared
    obtain ⟨hrest, hlooked⟩ := endsAt_skipStatement hleft (fun l hl => hg l (hsub hl)) hstop
    exact ⟨hrest, hlooked⟩

theorem endsAt_parseExprStmt (hahead : i.ahead = g ++ stop :: cont)
    (hg : ∀ l ∈ g, l.token.kind ≠ .semicolon ∧ l.token.kind ≠ .rightBrace)
    (hstop : stop.token.kind = .semicolon) : (parseExprStmt i).EndsAt cont :=
  endsAt_orResync ((closes_parseExprBody i).ofYield _ _) hahead hg hstop

theorem endsAt_parseLet (hahead : i.ahead = g ++ stop :: cont)
    (hg : ∀ l ∈ g, l.token.kind ≠ .semicolon ∧ l.token.kind ≠ .rightBrace)
    (hstop : stop.token.kind = .semicolon) : (parseLet i).EndsAt cont := by
  refine endsAt_orResync ?_ hahead hg hstop
  refine Closes.ofBind (.ofExpect (by decide) _ _ _) fun name j _ => ?_
  refine Closes.ofBind (.ofExpect (by decide) _ _ _) fun _ k _ => ?_
  exact Closes.ofBind ((spares_parseType k).ofYield _ _) fun _ _ _ => .ofExpect _ _ _

/-- A list of tokens in which there is neither a semicolon nor a brace. -/
def Unbroken (g : List Lexeme) : Prop :=
  ∀ l ∈ g, l.token.kind ≠ .semicolon ∧ l.token.kind ≠ .leftBrace ∧ l.token.kind ≠ .rightBrace

/-- A statement that does not start with `let` is an expression, or broken. -/
theorem parseStmt_of_not_let (hahead : i.ahead = g ++ stop :: cont) (hg : Unbroken g)
    (hstop : stop.token.kind = .semicolon) (hlet : ∀ l ∈ g.head?, l.token.kind ≠ .keywordLet) :
    (parseStmt i).toStep = parseExprStmt i := by
  cases g with
  | nil => exact parseStmt_expr hahead (by rw [hstop]; rfl)
  | cons l g =>
    obtain ⟨-, hopen, hclose⟩ := hg l List.mem_cons_self
    have hk := hlet l rfl
    exact parseStmt_expr hahead (by simp [startsStatement, hk, hopen, hclose])

/-- A statement whose tokens are neither semicolons nor braces takes exactly them and the semicolon
behind them, whatever is wrong with it. -/
theorem endsAt_parseStmt (hahead : i.ahead = g ++ stop :: cont) (hg : Unbroken g)
    (hstop : stop.token.kind = .semicolon) : (parseStmt i).EndsAt cont := by
  have hplain {g : List Lexeme} (hg : Unbroken g) :
      ∀ l ∈ g, l.token.kind ≠ .semicolon ∧ l.token.kind ≠ .rightBrace :=
    fun l hl => ⟨(hg l hl).1, (hg l hl).2.2⟩
  by_cases hlet : ∀ l ∈ g.head?, l.token.kind ≠ .keywordLet
  · rw [parseStmt_of_not_let hahead hg hstop hlet]
    exact endsAt_parseExprStmt hahead (hplain hg) hstop
  · obtain ⟨l, hl, hk⟩ : ∃ l ∈ g.head?, l.token.kind = .keywordLet := by simpa using hlet
    cases g with
    | nil => cases hl
    | cons l' g =>
      obtain rfl : l' = l := Option.some.inj hl
      rw [parseStmt_let hahead hk]
      have htail : i.tail.ahead = g ++ stop :: cont := by rw [Input.ahead_tail, hahead]; rfl
      obtain ⟨hrest, hlooked⟩ :=
        endsAt_parseLet htail (hplain fun l hl => hg l (List.mem_cons_of_mem _ hl)) hstop
      exact ⟨hrest, hlooked⟩

/-! ### What is read behind a statement -/

/-- The events of the rest of a source, in blocks with the given opening braces, the innermost
first. -/
def remaining : List Span → Input → List Event
  | [], i => parseProgram i
  | opening :: outer, i =>
    (parseBlock opening i).events ++ remaining outer (parseBlock opening i).rest

/-- The first statement ahead comes first. -/
theorem remaining_next {blocks : List Span} (hne : i.ahead ≠ [])
    (hk : blocks = [] ∨ i.kind ≠ .rightBrace) :
    remaining blocks i = (parseStmt i).events ++ remaining blocks (parseStmt i).rest := by
  obtain ⟨l, rest, hahead⟩ := List.exists_cons_of_ne_nil hne
  cases blocks with
  | nil => exact parseProgram_more hahead
  | cons opening outer =>
    rw [Input.kind_of_ahead hahead] at hk
    obtain ⟨hevents, hrest⟩ := parseBlock_next opening hahead (hk.resolve_left (by simp)) rfl
    rw [remaining, hevents, hrest, List.append_assoc]
    rfl

/-- The statements of a block that opens come up behind its brace. -/
theorem remaining_enter {blocks : List Span} (hahead : i.ahead = l :: rest)
    (hk : l.token.kind = .leftBrace) :
    remaining blocks i =
      i.lookEvents ++ .openBlock :: remaining (l.token.span :: blocks) i.tail := by
  have hne : i.ahead ≠ [] := by simp [hahead]
  have hkind : i.kind ≠ .rightBrace := by simp [Input.kind_of_ahead hahead, hk]
  rw [remaining_next hne (.inr hkind), parseStmt_block hahead hk]
  simp [Step.behind, Step.after, remaining]

/-- Wherever reading has come to, the rest of the source is what remains there. -/
theorem Reaches.exists_remaining {block : Option Span} {es : List Event}
    (h : Reaches i block es j) :
    ∃ blocks : List Span, blocks.head? = block ∧ parseProgram i = es ++ remaining blocks j := by
  induction h with
  | start => exact ⟨[], rfl, rfl⟩
  | @next block es j _ hne hk ih =>
    obtain ⟨blocks, hblocks, hevents⟩ := ih
    refine ⟨blocks, hblocks, ?_⟩
    have hinner : blocks = [] ∨ j.kind ≠ .rightBrace :=
      hk.imp_left fun hnone => List.head?_eq_none_iff.mp (hblocks.trans hnone)
    rw [hevents, remaining_next hne hinner, List.append_assoc]
  | @enter block es j l rest _ hahead hk ih =>
    obtain ⟨blocks, -, hevents⟩ := ih
    exact ⟨l.token.span :: blocks, rfl, by rw [hevents, remaining_enter hahead hk]; simp⟩

/-- The rest of a source is read alike whatever was read before. -/
theorem erase_remaining (blocks : List Span) (h : i.Alike j) :
    (remaining blocks i).map Event.erase = (remaining blocks j).map Event.erase := by
  induction blocks generalizing i j with
  | nil => exact erase_parseProgram i j h
  | cons opening outer ih =>
    have hblock := alike_statements.2 opening i opening j h
    rw [remaining, remaining, List.map_append, List.map_append, hblock.events, ih hblock.rest]

end ThreeAddress.Parse
