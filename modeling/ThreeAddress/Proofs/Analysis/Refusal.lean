import ThreeAddress.Proofs.Analysis.Limits
import ThreeAddress.Proofs.Analysis.Operands
import ThreeAddress.Proofs.Parse.Statements

/-!
# Refused statements

An operand with an error is carried along without an expression, and so is everything that is made
of it. When an expression statement is finished, exactly one operand is left; if an error has been
told about a token or an operand of the statement, that one has no expression, and nothing is
emitted or counted. The one exception is the escape that is none in a char literal: lexing complains
about it and leaves the literal as it is.

## Main definitions

* `Report.Spoils` : an error that an expression statement does not survive.
* `State.Refuses` : an operand without an expression is carried along.
* `State.Decided` : nothing that spoils a statement was told, or an operand is refused.

## Main results

* `refuses_act` : an operand stays refused.
* `kept_decides` : every step with a value that tells an error refuses an operand.
* `unchanged_of_spoils` : an expression statement about which an error is told emits nothing, takes
  no number and is not counted.
-/

namespace ThreeAddress

/-- An error, other than that of an escape that is none in a char literal. -/
def Report.Spoils (r : Report) : Prop :=
  r.diagnostic.severity = .error ∧
    ¬(r.origin = .lexer ∧ r.diagnostic.message = Lexer.Complaint.unknownEscape.message)

instance {r : Report} : Decidable r.Spoils :=
  inferInstanceAs (Decidable (_ ∧ _))

namespace Analysis

open Parse (Balanced Event Input Reaches Step looks parseExprBody parseExprStmt parseInvalid
  parseProgram startsStatement)

variable {limits : Limits} {s t : State}

/-! ### Refused operands -/

/-- An operand without an expression is carried along. -/
def State.Refuses (s : State) : Prop :=
  ∃ o ∈ s.operands, o.expr = none

theorem refuses_refuse (d : Diagnostic) (span : Span) :
    ((s.report limits d).pushOperand none span).Refuses :=
  ⟨⟨none, span⟩, List.mem_cons_self, rfl⟩

/-- An operand that is refused stands below the expressions on top of the stack. -/
theorem mem_below_of_refused {o : Operand} {e : Expr} {span : Span} {below : List Operand}
    (ho : o ∈ ⟨some e, span⟩ :: below) (hnone : o.expr = none) : o ∈ below := by
  rcases List.mem_cons.mp ho with rfl | ho
  · cases hnone
  · exact ho

/-- While an expression is read, an operand that is refused stays so, or the operand made of it
is. -/
theorem refuses_act (h : s.Refuses) {e : Event} (he : e.isInner = true) :
    (act limits s e).Refuses := by
  have hmade : MakesOperands s e (act limits s e).operands := makesOperands_act e
  obtain ⟨o, ho, hnone⟩ := h
  unfold State.Refuses
  generalize (act limits s e).operands = os at hmade
  cases hmade with
  | same => exact ⟨o, ho, hnone⟩
  | cleared hclears => rcases hclears with rfl | rfl <;> cases he
  | refused span hbelow => exact ⟨⟨none, span⟩, List.mem_cons_self, rfl⟩
  | name hid => exact ⟨o, List.mem_cons_of_mem _ ho, hnone⟩
  | literal type => exact ⟨o, List.mem_cons_of_mem _ ho, hnone⟩
  | binary type span hops =>
    have hbelow := mem_below_of_refused (mem_below_of_refused (hops ▸ ho) hnone) hnone
    exact ⟨o, List.mem_cons_of_mem _ hbelow, hnone⟩
  | unary type span hops =>
    have hbelow := mem_below_of_refused (hops ▸ ho) hnone
    exact ⟨o, List.mem_cons_of_mem _ hbelow, hnone⟩
  | @group opening closing inner below hops =>
    rw [hops] at ho
    rcases List.mem_cons.mp ho with rfl | ho
    · exact ⟨⟨o.expr, opening.cover closing⟩, List.mem_cons_self, hnone⟩
    · exact ⟨o, List.mem_cons_of_mem _ ho, hnone⟩
  | index span hops =>
    have hbelow := mem_below_of_refused (mem_below_of_refused (hops ▸ ho) hnone) hnone
    exact ⟨o, List.mem_cons_of_mem _ hbelow, hnone⟩

/-- The events that tell nothing about an operand without refusing one. -/
def IsOperand (e : Event) : Prop :=
  e.isInner = true ∧ e.isLook = false ∧ ∀ d, e ≠ .complain d

theorem State.Handles.reports_or_refuses (h : s.Handles limits t) :
    t.reports = s.reports ∨ t.Refuses := by
  cases h with
  | operands os => exact .inl rfl
  | refused below d span => exact .inr (refuses_refuse d span)

/-- An event about an operand either tells nothing or refuses an operand. -/
theorem reports_act_or_refuses {e : Event} (he : IsOperand e) :
    (act limits s e).reports = s.reports ∨ (act limits s e).Refuses := by
  obtain ⟨hinner, hlook, hcomplain⟩ := he
  cases e with
  | look l => cases hlook
  | complain d => exact absurd rfl (hcomplain d)
  | openBlock | closeBlock | declare _ _ | finish | abandon => cases hinner
  | _ => exact (handles_act rfl).reports_or_refuses

/-! ### What was told -/

/-- Nothing that spoils a statement was told since there were the given reports, or an operand is
refused. -/
def State.Decided (base : List Report) (s : State) : Prop :=
  s.Refuses ∨ ∃ new, s.reports = new ++ base ∧ ∀ r ∈ new, ¬ r.Spoils

/-- The same, as long as the next token is not invalid: what is wrong with that one may have been
told already. -/
def State.Poised (base : List Report) (s : State) (i : Input) : Prop :=
  s.Decided base ∨ i.kind = .invalid

/-- Whatever is wrong with a token, it is invalid or has an escape that is none. -/
def Passing (ls : List Lexeme) : Prop :=
  ∀ l ∈ ls, l.token.kind ≠ .invalid →
    ∀ d ∈ l.diagnostics, d.message = Lexer.Complaint.unknownEscape.message

variable {base : List Report} {i : Input}

theorem State.Decided.act (h : s.Decided base) {e : Event} (he : IsOperand e) :
    (Analysis.act limits s e).Decided base := by
  rcases h with hrefuses | ⟨new, hnew, hsound⟩
  · exact .inl (refuses_act hrefuses he.1)
  · have htold : (Analysis.act limits s e).reports = s.reports ∨
        (Analysis.act limits s e).Refuses := reports_act_or_refuses he
    rcases htold with hreports | hrefuses
    · exact .inr ⟨new, hreports.trans hnew, hsound⟩
    · exact .inl hrefuses

theorem State.Poised.act (h : s.Poised base i) {e : Event} (he : IsOperand e) :
    (Analysis.act limits s e).Poised base i :=
  h.imp_left fun hdecided => hdecided.act he

theorem State.Decided.tellLexeme (h : s.Decided base) {l : Lexeme}
    (hl : ∀ d ∈ l.diagnostics, d.message = Lexer.Complaint.unknownEscape.message) :
    (s.tellLexeme l).Decided base := by
  rcases h with hrefuses | ⟨new, hnew, hsound⟩
  · exact .inl hrefuses
  · refine .inr ⟨(l.diagnostics.map fun d => ⟨.lexer, d⟩).reverse ++ new, ?_, ?_⟩
    · rw [State.tellLexeme, hnew, List.append_assoc]
    · intro r hr hspoils
      rcases List.mem_append.mp hr with hr | hr
      · obtain ⟨d, hd, rfl⟩ := List.mem_map.mp (List.mem_reverse.mp hr)
        exact hspoils.2 ⟨rfl, hl d hd⟩
      · exact hsound r hr hspoils

theorem State.Poised.lookEvents (h : s.Poised base i) (hpass : Passing i.ahead) :
    (i.lookEvents.foldl (Analysis.act limits) s).Poised base i := by
  rcases h with hdecided | hinvalid
  · by_cases hinvalid : i.kind = .invalid
    · exact .inr hinvalid
    · refine .inl ?_
      unfold Input.lookEvents
      split
      · rename_i l rest hahead
        split
        · exact hdecided
        · rw [Input.kind_of_ahead hahead] at hinvalid
          exact hdecided.tellLexeme (hpass l (by simp [hahead]) hinvalid)
      · exact hdecided
  · exact .inr hinvalid

/-- Behind a token that is not invalid. -/
theorem State.Poised.behind (h : s.Poised base i) (hpass : Passing i.ahead)
    (hk : i.kind ≠ .invalid) : (i.lookEvents.foldl (Analysis.act limits) s).Decided base :=
  (h.lookEvents hpass).resolve_right hk

/-! ### Steps -/

/-- A step with a value that tells an error refuses an operand. -/
def Decides (limits : Limits) {α : Type} {i : Input} (s : Step α i) : Prop :=
  Passing i.ahead → s.value ≠ none → ∀ base (st : State), st.Poised base i →
    (s.events.foldl (act limits) st).Poised base s.rest

theorem refuses_parseInvalid (span : Span) (i : Input) (st : State) :
    ((parseInvalid span i).events.foldl (act limits) st).Refuses := by
  have hend {i : Input} (hk : i.kind ≠ .invalid) (span : Span) (st : State) :
      ((parseInvalid span i).events.foldl (act limits) st).Refuses := by
    rw [Parse.parseInvalid_end span hk, List.foldl_append]
    exact ⟨⟨none, span⟩, List.mem_cons_self, rfl⟩
  induction span, i using Parse.parseInvalid.induct generalizing st with
  | case1 span i l rest hahead hk ih =>
    rw [Parse.parseInvalid_more span hahead hk, Step.behind, Step.after, List.foldl_append]
    exact ih _
  | case2 span i l rest hahead hk =>
    exact hend (by rwa [Input.kind_of_ahead hahead]) span st
  | case3 span i hahead => exact hend (by simp [Input.kind_of_nil hahead]) span st

theorem isOperand_of_isCombining {e : Event} (h : e.isCombining = true) : IsOperand e := by
  cases e with
  | binary | unary | group | index => exact ⟨rfl, rfl, by simp⟩
  | _ => cases h

/-- Every step with a value that tells an error refuses an operand. -/
theorem kept_decides (limits : Limits) : Step.Kept (Decides limits) where
  look _ _ hpass _ base st h := h.lookEvents hpass
  invalid span _ _ _ base st _ := by
    rw [List.foldl_append]
    exact .inl (.inl ⟨⟨none, span⟩, List.mem_cons_self, rfl⟩)
  skip span _ _ _ _ base st _ := by
    rw [Step.behind, Step.after, List.foldl_append]
    exact .inl (.inl (refuses_parseInvalid span _ _))
  take _ hk hpass _ base st h := by
    rw [Step.take, List.append_nil]
    exact .inl (h.behind hpass (Parse.ne_invalid_of_isExpressionKind hk))
  literal t hk hpass _ base st h := by
    rw [Step.take, List.foldl_append]
    refine .inl (State.Decided.act (e := .literal t) ?_ ⟨rfl, rfl, by simp⟩)
    exact h.behind hpass (Parse.ne_invalid_of_isExpressionKind hk)
  name t hs hpass hvalue base st h := hs hpass hvalue base _ (h.act ⟨rfl, rfl, by simp⟩)
  complain _ _ _ _ hvalue := absurd rfl hvalue
  behind hk hs hpass hvalue base st h := by
    rw [Step.behind, Step.after, List.foldl_append]
    exact hs (fun l hl => hpass l ((Input.tail_suffix _).subset hl)) hvalue base _
      (.inl (h.behind hpass (Parse.ne_invalid_of_isExpressionKind hk)))
  bind {_ _ _ s next} hs hnext hpass hvalue base st h := by
    obtain ⟨b, hb⟩ := Option.ne_none_iff_exists'.mp hvalue
    unfold Step.bind at hvalue ⊢
    split at hvalue
    · rename_i a ha
      simp only [Step.after, List.foldl_append]
      exact hnext a _ s.suffix (fun l hl => hpass l (s.suffix.subset hl)) hvalue base _
        (hs hpass (by simp [ha]) base st h)
    · exact absurd rfl hvalue
  yield {_ _ _ s} event hevent value hs hpass hvalue base st h := by
    unfold Step.yield at hvalue ⊢
    split at hvalue
    · rename_i a ha
      simp only [List.foldl_append]
      exact (hs hpass (by simp [ha]) base st h).act (isOperand_of_isCombining (hevent a))
    · exact absurd rfl hvalue

/-- Behind an expression and its semicolon nothing that spoils the statement was told, or its
operand is refused. -/
theorem decided_parseExprBody (hpass : Passing i.ahead) {semicolon : Token}
    (hvalue : (parseExprBody i).value = some semicolon) (s : State) :
    ((parseExprBody i).events.foldl (act limits) s).Decided s.reports := by
  have hstart : s.Poised s.reports i := .inl (.inr ⟨[], rfl, by simp⟩)
  obtain ⟨u, hu, hclosed, -⟩ := Step.exists_of_bind hvalue
  obtain ⟨-, hsemicolon⟩ := Parse.kind_of_expect hclosed
  have hexpr := (kept_decides limits).expression i hpass (by simp [hu]) s.reports s hstart
  rw [parseExprBody, Step.bind_of_some hu, Step.expect, if_pos hsemicolon, Step.after, Step.take,
    List.append_nil, List.foldl_append]
  -- the semicolon is not invalid, so nothing more than what was decided can have been told
  exact hexpr.behind (fun l hl => hpass l ((Parse.parseExpr i).suffix.subset hl))
    (by simp [hsemicolon])

/-! ### After a failure -/

/-- An analysis that has failed emits and counts nothing. -/
theorem rests_step (limits : Limits) (h : s.phase ≠ .running) (e : Event) :
    (step limits s e).phase ≠ .running ∧ s.reports <:+ (step limits s e).reports ∧
      (step limits s e).generator = s.generator ∧ (step limits s e).counts = s.counts := by
  unfold step
  split
  · rename_i hphase
    exact absurd hphase h
  · rename_i failure hphase
    split
    · split
      · exact ⟨h, List.suffix_append _ _, rfl, rfl⟩
      · exact ⟨by simp, List.suffix_append _ _, rfl, rfl⟩
    · exact ⟨h, List.suffix_refl _, rfl, rfl⟩
    · exact ⟨by simp, List.suffix_refl _, rfl, rfl⟩
  · exact ⟨h, List.suffix_refl _, rfl, rfl⟩

theorem rests_foldl (limits : Limits) (h : s.phase ≠ .running) (es : List Event) :
    (es.foldl (step limits) s).phase ≠ .running ∧
      s.reports <:+ (es.foldl (step limits) s).reports ∧
      (es.foldl (step limits) s).generator = s.generator ∧
      (es.foldl (step limits) s).counts = s.counts := by
  induction es generalizing s with
  | nil => exact ⟨h, List.suffix_refl _, rfl, rfl⟩
  | cons e es ih =>
    obtain ⟨hphase, hreports, hgenerator, hcounts⟩ := rests_step limits h e
    obtain ⟨hend, hreports', hgenerator', hcounts'⟩ := ih hphase
    exact ⟨hend, hreports.trans hreports', hgenerator'.trans hgenerator, hcounts'.trans hcounts⟩

/-- As long as nothing has failed, the operands are as many as the events make. -/
theorem length_operands_step {es : List Event} {m n : Nat} (hes : Balanced es m n)
    (h : s.operands.length = m) (hrunning : (es.foldl (step limits) s).phase = .running) :
    (es.foldl (step limits) s).operands.length = n := by
  induction hes generalizing s with
  | nil => exact h
  | @cons e es m k n he _ ih =>
    by_cases hphase : s.phase = .running
    · have hstep : step limits s e = act limits s e := by simp only [step, hphase]
      rw [List.foldl_cons, hstep] at hrunning ⊢
      exact ih (length_operands_act he h) hrunning
    · exact absurd hrunning (rests_foldl limits hphase (e :: es)).1

/-! ### Statements -/

/-- The state behind events of a source. -/
def reached (limits : Limits) (g : Generator) (es : List Event) : State :=
  es.foldl (step limits) (.start limits g)

/-- What is left of the last operand is lowered, unless it is refused. -/
theorem finish_of_refuses (h : s.Refuses) (hone : s.operands.length = 1) :
    s.finish = { s with operands := [] } := by
  obtain ⟨o, ho⟩ := List.length_eq_one_iff.mp hone
  obtain ⟨o', ho', hnone⟩ := h
  rw [ho, List.mem_singleton] at ho'
  obtain ⟨x, span⟩ := o
  obtain rfl : x = none := by rw [← hnone, ho']
  rw [State.finish, ho]

/-- What belongs to an expression changes no scope. -/
theorem changesScopes_of_isInner {e : Event} (h : e.isInner = true) : changesScopes e = false := by
  cases e <;> first | rfl | cases h

/-- Events of an expression, and giving it up, change neither the generator nor the counts. -/
theorem keeps_foldl {es : List Event} (hes : ∀ e ∈ es, e.isInner = true ∨ e = .abandon) :
    s.Keeps (es.foldl (act limits) s) := by
  induction es generalizing s with
  | nil => exact ⟨rfl, rfl, rfl⟩
  | cons e es ih =>
    have hstep : s.Keeps (act limits s e) := by
      rcases hes e List.mem_cons_self with hinner | rfl
      · exact keeps_act (changesScopes_of_isInner hinner) (by rintro rfl; cases hinner)
      · exact keeps_act rfl (by simp)
    have hrest : (act limits s e).Keeps (es.foldl (act limits) (act limits s e)) :=
      ih fun e' he' => hes e' (List.mem_cons_of_mem _ he')
    exact ⟨hrest.env.trans hstep.env, hrest.generator.trans hstep.generator,
      hrest.counts.trans hstep.counts⟩

theorem phase_foldl {es : List Event} (hes : .finish ∉ es) :
    (es.foldl (act limits) s).phase = s.phase := by
  induction es generalizing s with
  | nil => rfl
  | cons e es ih =>
    obtain ⟨he, hrest⟩ := not_or.mp (fun h => hes (List.mem_cons.mpr h))
    exact (ih hrest).trans (phase_act (Ne.symm he))

/-- An expression statement about which an error is told is neither lowered nor counted. -/
theorem exists_told_parseExprStmt (hpass : Passing i.ahead) (hops : s.operands.length = 0)
    (hrunning : s.phase = .running) :
    ∃ new, ((parseExprStmt i).events.foldl (step limits) s).reports = new ++ s.reports ∧
      ((∃ r ∈ new, r.Spoils) →
        ((parseExprStmt i).events.foldl (step limits) s).generator = s.generator ∧
        ((parseExprStmt i).events.foldl (step limits) s).counts = s.counts) := by
  have hinner := Parse.inner_parseExprBody i
  cases hvalue : (parseExprBody i).value with
  | none =>
    have hes : ∀ e ∈ (parseExprStmt i).events, e.isInner = true ∨ e = .abandon := by
      rw [Parse.parseExprStmt_of_none hvalue]
      intro e he
      rcases List.mem_append.mp he with he | he
      · exact .inl (hinner e he)
      · rcases List.mem_cons.mp he with rfl | he
        · exact .inr rfl
        · exact .inl (Parse.inner_skipStatement _ e he)
    have hunfinished : .finish ∉ (parseExprStmt i).events := fun hmem => by
      rcases hes _ hmem with h | h <;> cases h
    rw [foldl_step_of_unfinished hrunning hunfinished]
    obtain ⟨new, hnew⟩ := exists_foldl limits s (parseExprStmt i).events
    have hkeeps : s.Keeps ((parseExprStmt i).events.foldl (act limits) s) := keeps_foldl hes
    exact ⟨new, congrArg State.reports (hnew s.reports), fun _ => ⟨hkeeps.generator, hkeeps.counts⟩⟩
  | some semicolon =>
    have hunfinished : .finish ∉ (parseExprBody i).events := fun hmem => by cases hinner _ hmem
    have hone : ((parseExprBody i).events.foldl (act limits) s).operands.length = 1 := by
      obtain ⟨r, hr, hr1⟩ := Parse.lifts_parseExprBody i
      rw [length_operands_foldl hr hops, hr1 (by simp [hvalue])]
    have hkeeps : s.Keeps ((parseExprBody i).events.foldl (act limits) s) :=
      keeps_foldl fun e he => .inl (hinner e he)
    have hdecided : ((parseExprBody i).events.foldl (act limits) s).Decided s.reports :=
      decided_parseExprBody hpass hvalue s
    obtain ⟨new, hnew⟩ := exists_foldl limits s (parseExprBody i).events
    replace hnew : ((parseExprBody i).events.foldl (act limits) s).reports = new ++ s.reports :=
      congrArg State.reports (hnew s.reports)
    have hphase : ((parseExprBody i).events.foldl (act limits) s).phase = .running :=
      (phase_foldl hunfinished).trans hrunning
    rw [Parse.parseExprStmt_of_some hvalue, List.foldl_append,
      foldl_step_of_unfinished hrunning hunfinished]
    generalize (parseExprBody i).events.foldl (act limits) s = t at *
    have hfinish : [Event.finish].foldl (step limits) t = t.finish := by
      simp only [List.foldl_cons, List.foldl_nil, step, hphase, act]
    rw [hfinish]
    refine ⟨new, reports_finish.trans hnew, fun hspoils => ?_⟩
    rcases hdecided with hrefuses | ⟨new', hnew', hsound⟩
    · rw [finish_of_refuses hrefuses hone]
      exact ⟨hkeeps.generator, hkeeps.counts⟩
    · -- what was told is all that was told, and none of it spoils the statement
      obtain rfl : new' = new := List.append_cancel_right (hnew'.symm.trans hnew)
      obtain ⟨r, hr, hspoil⟩ := hspoils
      exact absurd hspoil (hsound r hr)

theorem passing_input {f : SourceFile} (h : f.content.length < UInt32.size) :
    Passing f.input.ahead := by
  obtain ⟨front, stop, -, hscanned, -, -, hahead⟩ := f.exists_lexemes h
  rw [SourceFile.input, hahead]
  exact fun l hl hk d hd => (hscanned l hl).message hk hd

/-- An expression statement about whose tokens or operands an error is told, other than that of an
escape that is none, emits nothing, takes no number and is not counted. That is so for every
expression statement of every source, whatever stands in front of it, whatever the bound on errors
is and wherever the code goes. -/
theorem unchanged_of_spoils {f : SourceFile} (hsize : f.content.length < UInt32.size - 1)
    (limits : Limits) (g : Generator) {block : Option Span} {es : List Event} {j : Input}
    (hreach : Reaches f.input block es j) (hne : j.ahead ≠ [])
    (hk : startsStatement j.kind = false) :
    let before := reached limits g es
    let behind := reached limits g (es ++ (parseExprStmt j).events)
    (∃ after, parseProgram f.input = es ++ (parseExprStmt j).events ++ after) ∧
      looks es ++ j.ahead = f.input.ahead ∧
      ∃ new, behind.reports = new ++ before.reports ∧
        ((∃ r ∈ new, r.Spoils) →
          behind.generator = before.generator ∧ behind.counts = before.counts) := by
  have hfits : f.content.length < UInt32.size := Nat.lt_of_lt_of_le hsize (Nat.sub_le _ _)
  obtain ⟨l, rest, hahead⟩ := List.exists_cons_of_ne_nil hne
  have hkind : j.kind ≠ .rightBrace := by
    rintro heq
    rw [heq] at hk
    cases hk
  have hstmt : (Parse.parseStmt j).toStep = parseExprStmt j :=
    Parse.parseStmt_expr hahead (by rwa [← Input.kind_of_ahead hahead])
  intro before behind
  refine ⟨?_, hreach.looks_append rfl hne hkind, ?_⟩
  · obtain ⟨after, hafter⟩ := hreach.exists_after
    rw [Parse.eventsAhead_eq hne (.inr hkind), hstmt] at hafter
    exact ⟨_, by rw [hafter, List.append_assoc, List.append_assoc, List.append_assoc]⟩
  · have hbehind : behind = (parseExprStmt j).events.foldl (step limits) before :=
      List.foldl_append
    rw [hbehind]
    by_cases hrunning : before.phase = .running
    · have hpass : Passing j.ahead := fun l hl => passing_input hfits l (hreach.suffix.subset hl)
      exact exists_told_parseExprStmt hpass
        (length_operands_step hreach.balanced rfl hrunning) hrunning
    · obtain ⟨-, ⟨new, hnew⟩, hgenerator, hcounts⟩ := rests_foldl limits hrunning _
      exact ⟨new, hnew.symm, fun _ => ⟨hgenerator, hcounts⟩⟩

/-- A source that adds to a name that is not declared. -/
def undeclaredSource : SourceFile :=
  .ofContent 0 (utf8 "sum.ez") (utf8 "a + 1;") 0

/-- The sum is neither lowered nor counted. -/
theorem unchanged_undeclaredSource :
    let behind := reached {} {} (parseExprStmt undeclaredSource.input).events
    (∃ r ∈ behind.reports, r.Spoils) ∧ behind.generator = {} ∧ behind.counts = {} := by
  intro behind
  have hreports : behind.reports =
      [⟨.parser, .ofError .undeclared ⟨0, 0, 1⟩ (utf8 "undeclared identifier 'a'")⟩] := by
    decide +kernel
  have htold : ∃ r ∈ behind.reports, r.Spoils := ⟨_, hreports ▸ List.mem_cons_self, by decide⟩
  obtain ⟨-, -, new, hnew, hunchanged⟩ := unchanged_of_spoils (f := undeclaredSource)
    (by decide +kernel) {} {} .start (by decide +kernel) (by decide +kernel)
  have hall : behind.reports = new := hnew.trans (List.append_nil new)
  exact ⟨htold, hunchanged (hall ▸ htold)⟩

/-- A source that adds to a char literal with an escape that is none. -/
def escapeSource : SourceFile :=
  .ofContent 0 (utf8 "escape.ez") (utf8 "'\\q' + 1;") 0

/-- The escape is an error, and the sum is lowered and counted all the same. -/
theorem counted_escapeSource :
    let behind := reached {} {} (parseExprStmt escapeSource.input).events
    (∃ r ∈ behind.reports, r.diagnostic.severity = .error) ∧ behind.counts.statements = 1 ∧
      behind.generator.sink.text = utf8 "\tadd __t0 '\\q' 1\n" := by
  decide +kernel

end Analysis

end ThreeAddress
