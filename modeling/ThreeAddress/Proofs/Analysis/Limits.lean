import ThreeAddress.Proofs.Analysis.Checking
import ThreeAddress.Proofs.Parse.Looking

/-!
# The bound on errors

What an event does apart from reporting depends neither on the bound on errors nor on what was
reported before. Its reports are those that it has without a bound, told again one after another.
So a source about which nothing is reported under one bound is analysed in the same way under every
other one.

## Main definitions

* `State.blank` : a state that has reported nothing.
* `State.tellAll` : tells reports again under a bound.
* `lexed` : what lexing has found about tokens.

## Main results

* `act_eq` : an event under a bound, from the same event without one.
* `run_of_silent` : the bound does not matter for a source about which nothing is reported.
* `foldl_lexed` : looking at tokens adds what lexing has found to the reports and does nothing else.
-/

namespace ThreeAddress.Analysis

open Parse (looks Event parseProgram significant)

variable {limits : Limits} {s t u : State}

namespace State

/-- A state with the reports of another one. -/
def withTold (s t : State) : State :=
  { s with reports := t.reports, errors := t.errors }

/-- A state that has reported nothing. -/
def blank (s : State) : State :=
  { s with reports := [], errors := 0 }

/-- Tells a report again. What lexing has found is told whatever the bound is. -/
def tell (limits : Limits) (s : State) (r : Report) : State :=
  match r.origin with
  | .lexer => { s with reports := r :: s.reports }
  | .parser => s.report limits r.diagnostic

/-- Tells reports again, the first one of which stands last. -/
def tellAll (limits : Limits) (s : State) (rs : List Report) : State :=
  rs.foldr (fun r s => s.tell limits r) s

/-- The second state is the third one with its reports told again by the first one. -/
def Retells (limits : Limits) (s t u : State) : Prop :=
  t = u.withTold (s.tellAll limits u.reports)

theorem retells_blank (limits : Limits) (s : State) : Retells limits s s s.blank := rfl

namespace Retells

theorem env (h : Retells limits s t u) : t.env = u.env := by
  rw [h]
  rfl

theorem operands (h : Retells limits s t u) : t.operands = u.operands := by
  rw [h]
  rfl

theorem report (h : Retells limits s t u) (d : Diagnostic) :
    Retells limits s (t.report limits d) (u.report {} d) := by
  have hreports : (u.report {} d).reports = ⟨.parser, d⟩ :: u.reports := reports_report rfl d
  have hcommute (u v : State) : (u.withTold v).report limits d =
      (u.report {} d).withTold (v.report limits d) := by
    have hother : (u.report {} d).withTold (v.report limits d) =
        u.withTold (v.report limits d) := by
      unfold State.report
      extract_lets
      split <;> rfl
    rw [hother]
    unfold State.report
    extract_lets
    rw [apply_ite u.withTold]
    rfl
  rw [Retells, hreports, h, hcommute]
  rfl

end Retells

theorem retells_operands (limits : Limits) (s : State) (os : List Operand) :
    Retells limits s { s with operands := os } { s.blank with operands := os } := rfl

theorem retells_finish (limits : Limits) (s : State) :
    Retells limits s s.finish s.blank.finish := by
  have hlower (t u : State) (h : Retells limits s t u) (e : Expr) (span : Span) :
      Retells limits s (t.lower e span) (u.lower e span) := by
    have hgenerator : t.generator = u.generator := by
      rw [h]
      rfl
    unfold lower
    dsimp only
    rw [hgenerator]
    split
    · rw [Retells, h]
      rfl
    · rw [Retells, h]
      rfl
  unfold finish
  rw [show s.blank.operands = s.operands from rfl]
  split
  · exact hlower _ _ (retells_operands limits s []) _ _
  · exact retells_operands limits s []

/-- What lexing has found is told again as it is. -/
theorem retells_look (limits : Limits) (s : State) (l : Lexeme) :
    Retells limits s (s.tellLexeme l) (s.blank.tellLexeme l) := by
  have htell (rs : List Report) (h : ∀ r ∈ rs, r.origin = .lexer) :
      s.tellAll limits rs = { s with reports := rs ++ s.reports } := by
    induction rs with
    | nil => rfl
    | cons r rs ih =>
      rw [tellAll, List.foldr_cons, ← tellAll, ih fun x hx => h x (List.mem_cons_of_mem _ hx), tell,
        h r List.mem_cons_self]
      rfl
  rw [Retells, htell _ (by simp [tellLexeme, blank])]
  simp [tellLexeme, blank, withTold]

end State

open State (Retells)

theorem coupling_retells (limits : Limits) (s : State) :
    Coupling limits {} (Retells limits s) where
  env h := h.env.symm
  operands h := h.operands.symm
  report h d := h.report d
  withOperands h os := by
    rw [Retells, h]
    rfl
  withEnv h env := by
    rw [Retells, h]
    rfl
  declared h env := by
    rw [Retells, h]
    rfl

/-- An event under a bound does what it does without one, apart from telling its reports again. -/
theorem act_eq (limits : Limits) (s : State) (e : Event) :
    Retells limits s (act limits s e) (act {} s.blank e) := by
  cases e with
  | look l => exact State.retells_look limits s l
  | finish => exact State.retells_finish limits s
  | _ => exact (coupling_retells limits s).act (State.retells_blank limits s) rfl (by simp)

/-! ### Sources about which nothing is reported -/

namespace State

theorem reports_tell_ne (h : s.reports ≠ []) (r : Report) : (s.tell limits r).reports ≠ [] := by
  unfold tell
  split
  · exact List.cons_ne_nil _ _
  · unfold report
    extract_lets
    split
    · exact h
    · exact List.cons_ne_nil _ _

/-- The first error is below every bound. -/
theorem reports_tell_of_errors (h : s.errors = 0) (r : Report) :
    (s.tell limits r).reports ≠ [] := by
  unfold tell
  split
  · exact List.cons_ne_nil _ _
  · unfold report
    extract_lets errors
    split
    · rename_i hbound
      obtain ⟨herror, hpos, hlt⟩ := hbound
      have herrors : errors = 1 := by
        simp only [errors, herror, if_true, h]
        rfl
      rw [herrors, UInt64.lt_iff_toNat_lt] at hlt
      have hzero : limits.maxErrors.toNat = 0 := Nat.lt_one_iff.mp hlt
      exact absurd (UInt64.toNat_inj.mp hzero) hpos
    · exact List.cons_ne_nil _ _

/-- Nothing is lost of what a state without errors tells. -/
theorem eq_nil_of_tellAll (herrors : s.errors = 0) {rs : List Report}
    (h : (s.tellAll limits rs).reports = []) : rs = [] := by
  rcases List.eq_nil_or_concat rs with rfl | ⟨later, first, rfl⟩
  · rfl
  · have hgrow (s : State) (hs : s.reports ≠ []) (rs : List Report) :
        (s.tellAll limits rs).reports ≠ [] := by
      induction rs with
      | nil => exact hs
      | cons r rs ih => exact reports_tell_ne ih r
    rw [List.concat_eq_append, tellAll, List.foldr_append] at h
    exact absurd h (hgrow _ (reports_tell_of_errors herrors first) later)

end State

/-- An event about which nothing is reported does the same under every bound. -/
theorem act_of_silent (limits' : Limits) (hreports : s.reports = []) (herrors : s.errors = 0)
    {e : Event} (h : (act limits s e).reports = []) :
    act limits s e = act limits' s e ∧ (act limits s e).errors = 0 := by
  have hblank : s.blank = s := by
    rw [State.blank, ← hreports, ← herrors]
  have hbounded := act_eq limits s e
  have hother := act_eq limits' s e
  rw [hblank] at hbounded hother
  have hsilent : (act {} s e).reports = [] := by
    rw [hbounded] at h
    exact State.eq_nil_of_tellAll herrors h
  rw [Retells, hsilent] at hbounded hother
  refine ⟨hbounded.trans hother.symm, ?_⟩
  rw [hbounded]
  exact herrors

theorem foldl_of_silent (limits' : Limits) (h : s.Ready) (hreports : s.reports = [])
    (herrors : s.errors = 0) {es : List Event} (hfinal : (es.foldl (act limits) s).reports = []) :
    es.foldl (act limits) s = es.foldl (act limits') s := by
  induction es generalizing s with
  | nil => rfl
  | cons e es ih =>
    have hnext : (act limits s e).reports = [] := by
      have hkept : (act limits s e).reports <:+ (es.foldl (act limits) (act limits s e)).reports :=
        suffix_foldl (ready_act h e) es
      rw [List.foldl_cons] at hfinal
      rw [hfinal] at hkept
      exact List.suffix_nil.mp hkept
    obtain ⟨hsame, hzero⟩ := act_of_silent limits' hreports herrors hnext
    rw [List.foldl_cons] at hfinal ⊢
    rw [ih (ready_act h e) hnext hzero hfinal, List.foldl_cons, hsame]

/-- A source about which nothing is reported is analysed in the same way under every bound. -/
theorem run_of_silent (limits' : Limits) (hzero : limits.currentErrors = 0)
    (hzero' : limits'.currentErrors = 0) {f : SourceFile}
    (h : (run limits {} f.lexemes).reports = []) :
    run limits {} f.lexemes = run limits' {} f.lexemes := by
  have hstart : State.start limits {} = State.start limits' {} := by
    rw [State.start, State.start, hzero, hzero']
  have hfinal : final limits {} f = final limits' {} f := by
    rw [run_eq .recorder] at h
    rw [final, final, ← hstart]
    exact foldl_of_silent limits' (State.ready_start limits .recorder) rfl hzero
      (List.reverse_eq_nil_iff.mp h)
  rw [run_eq .recorder, run_eq .recorder, hfinal]

/-! ### Reports are only added to -/

namespace State

/-- What is told again is added to the reports, whatever they are. -/
theorem exists_tellAll (limits : Limits) (s : State) (us : List Report) :
    ∃ new, ∀ rs, { s with reports := rs }.tellAll limits us =
      { s.tellAll limits us with reports := new ++ rs } := by
  induction us with
  | nil => exact ⟨[], fun rs => rfl⟩
  | cons r us ih =>
    obtain ⟨new, hnew⟩ := ih
    have htell (t : State) : ∃ new, ∀ rs, { t with reports := rs }.tell limits r =
        { t.tell limits r with reports := new ++ rs } := by
      unfold tell
      cases r.origin with
      | lexer => exact ⟨[r], fun rs => rfl⟩
      | parser =>
        by_cases hbound : r.diagnostic.severity = .error ∧ limits.maxErrors ≠ 0 ∧
            limits.maxErrors < if r.diagnostic.severity = .error then t.errors + 1 else t.errors
        · refine ⟨[], fun rs => ?_⟩
          simp only [report, if_pos hbound, List.nil_append]
        · refine ⟨[⟨.parser, r.diagnostic⟩], fun rs => ?_⟩
          simp only [report, if_neg hbound, List.singleton_append]
    obtain ⟨later, hlater⟩ := htell (s.tellAll limits us)
    refine ⟨later ++ new, fun rs => ?_⟩
    rw [tellAll, List.foldr_cons, ← tellAll, hnew rs, hlater, List.append_assoc]
    rfl

end State

/-- An event adds to the reports and does not read them. -/
theorem exists_act (limits : Limits) (s : State) (e : Event) :
    ∃ new, ∀ rs, act limits { s with reports := rs } e =
      { act limits s e with reports := new ++ rs } := by
  obtain ⟨new, hnew⟩ := s.exists_tellAll limits (act {} s.blank e).reports
  have hact := act_eq limits s e
  refine ⟨new, fun rs => ?_⟩
  have hother : act limits { s with reports := rs } e = (act {} s.blank e).withTold
      ({ s with reports := rs }.tellAll limits (act {} s.blank e).reports) :=
    act_eq limits { s with reports := rs } e
  rw [hother, hnew rs, hact]
  rfl

/-- Events add to the reports and do not read them. -/
theorem exists_foldl (limits : Limits) (s : State) (es : List Event) :
    ∃ new, ∀ rs, es.foldl (act limits) { s with reports := rs } =
      { es.foldl (act limits) s with reports := new ++ rs } := by
  induction es generalizing s with
  | nil => exact ⟨[], fun rs => rfl⟩
  | cons e es ih =>
    obtain ⟨new, hnew⟩ := exists_act limits s e
    obtain ⟨later, hlater⟩ := ih (act limits s e)
    refine ⟨later ++ new, fun rs => ?_⟩
    rw [List.foldl_cons, hnew rs, hlater, List.foldl_cons, List.append_assoc]

/-- What lexing has found about tokens, the latest first. -/
def lexed (ls : List Lexeme) : List Report :=
  (ls.flatMap fun l => l.diagnostics.map fun d => ⟨.lexer, d⟩).reverse

/-- If the other events report nothing, the first looks at tokens only add what lexing has found. -/
theorem foldl_lexed {es : List Event}
    (h : ((significant es).foldl (act limits) s).reports = s.reports) :
    es.foldl (act limits) s = { (significant es).foldl (act limits) s with
      reports := lexed (looks es) ++ s.reports } := by
  induction es generalizing s with
  | nil => rfl
  | cons e es ih =>
    cases he : e.isLook with
    | false =>
      rw [Parse.significant_cons he, List.foldl_cons] at h ⊢
      obtain ⟨new, hnew⟩ := exists_act limits s e
      obtain ⟨later, hlater⟩ := exists_foldl limits (act limits s e) (significant es)
      have hact : (act limits s e).reports = new ++ s.reports :=
        congrArg State.reports (hnew s.reports)
      have hfinal : ((significant es).foldl (act limits) (act limits s e)).reports =
          later ++ (act limits s e).reports :=
        congrArg State.reports (hlater (act limits s e).reports)
      -- the reports of `s` are not added to, so neither are those behind the event
      obtain ⟨rfl, rfl⟩ : later = [] ∧ new = [] := by
        rw [hfinal, hact, ← List.append_assoc] at h
        exact List.append_eq_nil_iff.mp (List.append_left_eq_self.mp h)
      rw [List.nil_append] at hact hfinal
      have hlooks : looks (e :: es) = looks es := by
        cases e with
        | look l => cases he
        | _ => rfl
      rw [List.foldl_cons, ih hfinal, hact, hlooks]
    | true =>
      rw [Parse.significant_cons_of_isLook he] at h ⊢
      obtain ⟨l, rfl⟩ : ∃ l, e = .look l := by
        cases e with
        | look l => exact ⟨l, rfl⟩
        | _ => cases he
      have hact : act limits s (.look l) = { s with reports := lexed [l] ++ s.reports } := by
        simp [act, State.tellLexeme, lexed]
      obtain ⟨new, hnew⟩ := exists_foldl limits s (significant es)
      -- nothing is added to the reports of `s`, so nothing is added to those behind the look either
      have hnil : new = [] := by
        have hself := congrArg State.reports (hnew s.reports)
        exact List.append_left_eq_self.mp (hself.symm.trans h)
      have hnext := hnew (lexed [l] ++ s.reports)
      rw [hnil, List.nil_append, ← hact] at hnext
      have hlooks : lexed (looks (.look l :: es)) = lexed (looks es) ++ lexed [l] := by
        simp [lexed, looks, Parse.Event.lexeme?]
      have hrest := ih (s := act limits s (.look l)) (by rw [hnext, hact])
      rw [List.foldl_cons, hrest, hnext, hact, hlooks, List.append_assoc]

end ThreeAddress.Analysis
