import ThreeAddress.Proofs.Analysis.Listening

/-!
# What the bound on errors withholds

The analysis counts its errors before it tells them, and under a bound it withholds those whose
number is above it. An analysis under a bound and one without it go in lockstep: they are in the
same state apart from their reports at every moment (`blank_step`), and the first one has reported
what the second one has, apart from the errors that came after as many as the bound leaves room for.
Warnings and what lexing has found are told by both.

## Main definitions

* `keepFirst` : leaves out the elements that pass a test, except for the first ones.
* `Analysis.Withholds` : what one state has reported under a bound, from what another one has
  reported without it.
* `Outcome.told` : what the analysis itself has reported.

## Main results

* `Analysis.Withholds.step`, `Analysis.Withholds.foldl` : an event keeps the lockstep, and so does
  a run.
* `Analysis.reports_run_of_bound` : all reports under a bound, from those without one.
* `Analysis.told_run_of_bound` : the analysis tells all warnings and the first errors.
-/

namespace ThreeAddress

/-! ### The first elements that pass a test -/

section KeepFirst

variable {α β : Type}

/-- Keeps the elements that do not pass a test, and the first `n` of those that do. -/
def keepFirst (p : α → Bool) : Nat → List α → List α
  | _, [] => []
  | n, a :: l =>
    if p a then
      match n with
      | 0 => keepFirst p 0 l
      | n + 1 => a :: keepFirst p n l
    else a :: keepFirst p n l

variable {p : α → Bool} {a : α} {n : Nat}

theorem keepFirst_cons_of_neg (ha : ¬ p a) (l : List α) :
    keepFirst p n (a :: l) = a :: keepFirst p n l := by
  cases n <;> rw [keepFirst, if_neg ha]

theorem keepFirst_zero_cons (ha : p a) (l : List α) :
    keepFirst p 0 (a :: l) = keepFirst p 0 l := by
  rw [keepFirst, if_pos ha]

theorem keepFirst_succ_cons (ha : p a) (l : List α) :
    keepFirst p (n + 1) (a :: l) = a :: keepFirst p n l := by
  rw [keepFirst, if_pos ha]

/-- What is behind a list gets the places that the list leaves. -/
theorem keepFirst_append (l l' : List α) :
    keepFirst p n (l ++ l') = keepFirst p n l ++ keepFirst p (n - l.countP p) l' := by
  induction l generalizing n with
  | nil => rfl
  | cons a l ih =>
    rw [List.cons_append]
    by_cases ha : p a
    · rw [List.countP_cons_of_pos ha]
      cases n with
      | zero =>
        rw [keepFirst_zero_cons ha, keepFirst_zero_cons ha, ih, Nat.zero_sub, Nat.zero_sub]
      | succ n =>
        rw [keepFirst_succ_cons ha, keepFirst_succ_cons ha, ih, Nat.add_sub_add_right,
          List.cons_append]
    · rw [keepFirst_cons_of_neg ha, keepFirst_cons_of_neg ha, ih, List.countP_cons_of_neg ha,
        List.cons_append]

/-- Of the elements that pass, the first ones are kept. -/
theorem filter_keepFirst (n : Nat) (l : List α) :
    (keepFirst p n l).filter p = (l.filter p).take n := by
  induction l generalizing n with
  | nil => rw [keepFirst, List.filter_nil, List.take_nil]
  | cons a l ih =>
    by_cases ha : p a
    · rw [List.filter_cons_of_pos ha]
      cases n with
      | zero => rw [keepFirst_zero_cons ha, ih, List.take_zero, List.take_zero]
      | succ n =>
        rw [keepFirst_succ_cons ha, List.filter_cons_of_pos ha, ih, List.take_succ_cons]
    · rw [keepFirst_cons_of_neg ha, List.filter_cons_of_neg ha, List.filter_cons_of_neg ha, ih]

/-- Everything that does not pass is kept. -/
theorem filter_not_keepFirst (n : Nat) (l : List α) :
    (keepFirst p n l).filter (fun a => !p a) = l.filter fun a => !p a := by
  induction l generalizing n with
  | nil => rfl
  | cons a l ih =>
    by_cases ha : p a
    · have hout (l : List α) : (a :: l).filter (fun a => !p a) = l.filter fun a => !p a :=
        List.filter_cons_of_neg (by simp [ha])
      cases n with
      | zero => rw [keepFirst_zero_cons ha, hout, ih]
      | succ n => rw [keepFirst_succ_cons ha, hout, hout, ih]
    · have hin (l : List α) : (a :: l).filter (fun a => !p a) = a :: l.filter fun a => !p a :=
        List.filter_cons_of_pos (by simp [ha])
      rw [keepFirst_cons_of_neg ha, hin, hin, ih]

/-- The first elements can be chosen after others were left out. -/
theorem filterMap_keepFirst {q : β → Bool} {f : α → Option β} (h : ∀ a, p a = (f a).any q)
    (n : Nat) (l : List α) : (keepFirst p n l).filterMap f = keepFirst q n (l.filterMap f) := by
  induction l generalizing n with
  | nil => rfl
  | cons a l ih =>
    have ha := h a
    cases hf : f a with
    | none =>
      rw [hf, Option.any_none] at ha
      rw [keepFirst_cons_of_neg (by simp [ha]), List.filterMap_cons_none hf,
        List.filterMap_cons_none hf, ih]
    | some b =>
      rw [hf, Option.any_some] at ha
      rw [List.filterMap_cons_some hf]
      by_cases hb : q b
      · rw [hb] at ha
        cases n with
        | zero => rw [keepFirst_zero_cons ha, keepFirst_zero_cons hb, ih]
        | succ n =>
          rw [keepFirst_succ_cons ha, keepFirst_succ_cons hb, List.filterMap_cons_some hf, ih]
      · have hneg : ¬ p a := by rwa [ha]
        rw [keepFirst_cons_of_neg hneg, keepFirst_cons_of_neg hb, List.filterMap_cons_some hf, ih]

end KeepFirst

/-- Whether a diagnostic is an error. -/
def Diagnostic.isError (d : Diagnostic) : Bool :=
  d.severity = .error

/-- Whether a report is an error of the analysis: these are counted, and a bound is on them. -/
def Report.isCounted (r : Report) : Bool :=
  r.origin = .parser && r.diagnostic.isError

/-- The diagnostic of a report of the analysis itself. -/
def Report.told? (r : Report) : Option Diagnostic :=
  match r.origin with
  | .lexer => none
  | .parser => some r.diagnostic

/-- What the analysis itself has reported, in order. -/
def Outcome.told (o : Outcome) : List Diagnostic :=
  ({ lexer := false } : Channel).select o.reports

namespace Analysis

open Parse (Event parseProgram)

variable {limits unlimited : Limits} {s u : State} {d : Diagnostic}

/-! ### Telling under a bound -/

namespace State

theorem report_of_not_error (hd : ¬ d.isError) :
    s.report limits d = { s with reports := ⟨.parser, d⟩ :: s.reports } := by
  have hseverity : d.severity ≠ .error := by simpa [Diagnostic.isError] using hd
  unfold report
  rw [if_neg hseverity, if_neg fun hcond => hseverity hcond.1]

/-- Every error is counted, told or not. -/
theorem errors_report (hd : d.isError) : (s.report limits d).errors = s.errors + 1 := by
  have hseverity : d.severity = .error := by simpa [Diagnostic.isError] using hd
  unfold report
  rw [if_pos hseverity]
  extract_lets errors
  split <;> rfl

/-- An error whose number is above the bound is withheld, and every other one is told. -/
theorem reports_report_of_error (hbound : limits.maxErrors ≠ 0) (hd : d.isError) :
    (s.report limits d).reports =
      if limits.maxErrors < s.errors + 1 then s.reports else ⟨.parser, d⟩ :: s.reports := by
  have hseverity : d.severity = .error := by simpa [Diagnostic.isError] using hd
  unfold report
  rw [if_pos hseverity]
  extract_lets errors
  by_cases habove : limits.maxErrors < errors
  · rw [if_pos habove, if_pos ⟨hseverity, hbound, habove⟩]
  · rw [if_neg habove, if_neg fun hcond => habove hcond.2.2]

end State

/-! ### Lockstep -/

/-- The number of errors that a bound leaves room for. -/
def Limits.room (limits : Limits) : Nat :=
  limits.maxErrors.toNat - limits.currentErrors.toNat

/-- The first state has reported under a bound what the second one has reported without it. Both
have seen the same errors; as long as their count does not wrap around, the reports of the first
state lack those for which there was no room. -/
structure Withholds (limits : Limits) (s u : State) : Prop where
  /-- Errors are counted, told or not. -/
  errors : s.errors = limits.currentErrors + .ofNat (u.reports.countP Report.isCounted)
  /-- Errors are withheld when there is no room for them. -/
  reports : limits.currentErrors.toNat + u.reports.countP Report.isCounted < UInt64.size →
    s.reports.reverse = keepFirst Report.isCounted limits.room u.reports.reverse

namespace Withholds

theorem start (limits unlimited : Limits) (g : Generator) :
    Withholds limits (.start limits g) (.start unlimited g) where
  errors := (UInt64.add_zero _).symm
  reports _ := rfl

/-- The number of the last error is its number in the source and those before it. -/
theorem toNat_errors (h : Withholds limits s u)
    (hfit : limits.currentErrors.toNat + u.reports.countP Report.isCounted < UInt64.size) :
    s.errors.toNat = limits.currentErrors.toNat + u.reports.countP Report.isCounted := by
  rw [h.errors, UInt64.toNat_add, UInt64.toNat_ofNat', Nat.add_mod_mod]
  exact Nat.mod_eq_of_lt hfit

/-- A report that is not counted is told in any case. -/
theorem cons (h : Withholds limits s u) {r : Report} (hr : ¬ r.isCounted) :
    Withholds limits { s with reports := r :: s.reports } { u with reports := r :: u.reports } where
  errors := by
    rw [List.countP_cons_of_neg hr]
    exact h.errors
  reports hfit := by
    rw [List.countP_cons_of_neg hr] at hfit
    rw [List.reverse_cons, List.reverse_cons, h.reports hfit, keepFirst_append,
      keepFirst_cons_of_neg hr]
    rfl

section

variable (hbound : limits.maxErrors ≠ 0) (hunlimited : unlimited.maxErrors = 0)

include hbound hunlimited

/-- An error is told if there is room for it. -/
theorem report_of_error (h : Withholds limits s u) (hd : d.isError) :
    Withholds limits (s.report limits d) (u.report unlimited d) := by
  have hcounted : Report.isCounted ⟨.parser, d⟩ := hd
  have hfull : (u.report unlimited d).reports = ⟨.parser, d⟩ :: u.reports :=
    State.reports_report hunlimited d
  constructor
  · rw [hfull, List.countP_cons_of_pos hcounted, State.errors_report hd, h.errors,
      UInt64.ofNat_add, UInt64.add_assoc]
    rfl
  · intro hfit
    rw [hfull, List.countP_cons_of_pos hcounted] at hfit
    have hbefore : limits.currentErrors.toNat + u.reports.countP Report.isCounted <
        UInt64.size := Nat.lt_of_succ_lt hfit
    have hnumber : (s.errors + 1).toNat =
        limits.currentErrors.toNat + u.reports.countP Report.isCounted + 1 := by
      rw [UInt64.toNat_add, h.toNat_errors hbefore]
      exact Nat.mod_eq_of_lt hfit
    -- the number of an error is above the bound when there is no room left for it
    have habove : limits.maxErrors < s.errors + 1 ↔
        limits.room - u.reports.countP Report.isCounted = 0 := by
      rw [UInt64.lt_iff_toNat_lt, hnumber, Limits.room]
      omega
    rw [State.reports_report_of_error hbound hd, hfull, List.reverse_cons, keepFirst_append,
      ← h.reports hbefore, List.countP_reverse]
    cases hroom : limits.room - u.reports.countP Report.isCounted with
    | zero => rw [if_pos (habove.mpr hroom), keepFirst_zero_cons hcounted, keepFirst,
        List.append_nil]
    | succ left =>
      have hbelow : ¬ limits.maxErrors < s.errors + 1 := by
        rw [habove, hroom]
        exact Nat.succ_ne_zero left
      rw [if_neg hbelow, List.reverse_cons, keepFirst_succ_cons hcounted, keepFirst]

theorem tell (h : Withholds limits s u) (r : Report) :
    Withholds limits (s.tell limits r) (u.tell unlimited r) := by
  obtain ⟨origin, d⟩ := r
  cases origin with
  | lexer => exact h.cons (by simp [Report.isCounted])
  | parser =>
    by_cases hd : d.isError
    · exact h.report_of_error hbound hunlimited hd
    · have hs : s.tell limits ⟨.parser, d⟩ = { s with reports := ⟨.parser, d⟩ :: s.reports } :=
        State.report_of_not_error hd
      have hu : u.tell unlimited ⟨.parser, d⟩ = { u with reports := ⟨.parser, d⟩ :: u.reports } :=
        State.report_of_not_error hd
      rw [hs, hu]
      exact h.cons hd

theorem tellAll (h : Withholds limits s u) (rs : List Report) :
    Withholds limits (s.tellAll limits rs) (u.tellAll unlimited rs) := by
  induction rs with
  | nil => exact h
  | cons r rs ih => exact ih.tell hbound hunlimited r

/-- An event keeps the lockstep of two states that differ in their reports only: it has the same
reports to tell in both. -/
theorem act (h : Withholds limits s u) (hblank : s.blank = u.blank) (e : Event) :
    Withholds limits (act limits s e) (act unlimited u e) := by
  have htold := h.tellAll hbound hunlimited (Analysis.act {} s.blank e).reports
  have hs := act_eq limits s e
  have hu := act_eq unlimited u e
  rw [← hblank] at hu
  rw [hs, hu]
  exact ⟨htold.errors, htold.reports⟩

theorem step (h : Withholds limits s u) (hblank : s.blank = u.blank) (e : Event) :
    Withholds limits (step limits s e) (step unlimited u e) := by
  have hphase : s.phase = u.phase := (congrArg State.phase hblank :)
  unfold Analysis.step
  rw [← hphase]
  cases s.phase with
  | running => exact h.act hbound hunlimited hblank e
  | stopped failure => exact h
  | failing failure =>
    cases e with
    | look l =>
      have hlook := h.act hbound hunlimited hblank (.look l)
      dsimp only
      split
      · exact hlook
      · exact ⟨hlook.errors, hlook.reports⟩
    | _ => exact ⟨h.errors, h.reports⟩

theorem foldl (h : Withholds limits s u) (hblank : s.blank = u.blank) (es : List Event) :
    Withholds limits (es.foldl (Analysis.step limits) s)
      (es.foldl (Analysis.step unlimited) u) := by
  induction es generalizing s u with
  | nil => exact h
  | cons e es ih =>
    have hnext : (Analysis.step limits s e).blank = (Analysis.step unlimited u e).blank := by
      rw [blank_step limits s, blank_step unlimited u, hblank]
    exact ih (h.step hbound hunlimited hblank e) hnext

end

end Withholds

/-! ### Runs -/

/-- All reports under a bound are those without one, apart from the errors of the analysis for
which there is no room. -/
theorem reports_run_of_bound (hbound : limits.maxErrors ≠ 0) (hunlimited : unlimited.maxErrors = 0)
    (g : Generator) (ls : List Lexeme)
    (hfit : limits.currentErrors.toNat +
      (run unlimited g ls).reports.countP Report.isCounted < UInt64.size) :
    (run limits g ls).reports =
      keepFirst Report.isCounted limits.room (run unlimited g ls).reports := by
  have hrun := (Withholds.start limits unlimited g).foldl hbound hunlimited rfl
    (parseProgram (.ofLexemes ls))
  refine hrun.reports ?_
  rw [run, State.outcome, List.countP_reverse] at hfit
  exact hfit

theorem isCounted_eq_any (r : Report) : r.isCounted = r.told?.any Diagnostic.isError := by
  obtain ⟨origin, d⟩ := r
  cases origin <;> rfl

theorem told_eq (o : Outcome) : o.told = o.reports.filterMap Report.told? := by
  have hmap (rs : List Report) :
      ({ lexer := false } : Channel).select rs = rs.filterMap Report.told? := by
    induction rs with
    | nil => rfl
    | cons r rs ih =>
      obtain ⟨origin, d⟩ := r
      cases origin with
      | lexer => exact ih
      | parser => exact congrArg (d :: ·) ih
  exact hmap o.reports

theorem countP_told (o : Outcome) :
    o.told.countP Diagnostic.isError = o.reports.countP Report.isCounted := by
  rw [told_eq, List.countP_filterMap]
  refine List.countP_congr fun r _ => ?_
  rw [isCounted_eq_any]
  cases r.told? <;> rfl

/-- Under a bound the analysis tells what it tells without one, in the same order, apart from the
errors for which there is no room: all warnings are told, and the first errors. -/
theorem told_run_of_bound (hbound : limits.maxErrors ≠ 0) (hunlimited : unlimited.maxErrors = 0)
    (g : Generator) (f : SourceFile)
    (hfit : limits.currentErrors.toNat +
      (run unlimited g f.lexemes).told.countP Diagnostic.isError < UInt64.size) :
    let all := (run unlimited g f.lexemes).told
    let shown := (run limits g f.lexemes).told
    let room := limits.maxErrors.toNat - limits.currentErrors.toNat
    shown = keepFirst Diagnostic.isError room all ∧
      shown.filter (fun d => d.isError) = (all.filter fun d => d.isError).take room ∧
      shown.filter (fun d => !d.isError) = all.filter fun d => !d.isError := by
  intro all shown room
  rw [countP_told] at hfit
  have hshown : shown = keepFirst Diagnostic.isError room all := by
    rw [show shown = _ from told_eq _, reports_run_of_bound hbound hunlimited g f.lexemes hfit,
      filterMap_keepFirst isCounted_eq_any, show all = _ from told_eq _]
    rfl
  rw [hshown]
  exact ⟨rfl, filter_keepFirst room all, filter_not_keepFirst room all⟩

/-! ### Two errors -/

/-- A source with two errors. -/
def twoNamesSource : SourceFile :=
  .ofContent 0 (utf8 "names.ez") (utf8 "a; b;") 0

/-- With one error counted before and a bound of two there is room for the first of two errors. -/
theorem told_run_of_bound_twoNames :
    let all := (run {} {} twoNamesSource.lexemes).told
    all.length = 2 ∧ all.countP Diagnostic.isError = 2 ∧
      (run ⟨2, 1⟩ {} twoNamesSource.lexemes).told = all.take 1 := by
  obtain ⟨hlength, herrors, hfirst⟩ : (run {} {} twoNamesSource.lexemes).told.length = 2 ∧
      (run {} {} twoNamesSource.lexemes).told.countP Diagnostic.isError = 2 ∧
        keepFirst Diagnostic.isError 1 (run {} {} twoNamesSource.lexemes).told =
          (run {} {} twoNamesSource.lexemes).told.take 1 := by
    decide +kernel
  have hfit : (1 : UInt64).toNat +
      (run {} {} twoNamesSource.lexemes).told.countP Diagnostic.isError < UInt64.size := by
    rw [herrors]
    decide
  have hshown := (@told_run_of_bound ⟨2, 1⟩ {} (by decide) rfl {} twoNamesSource hfit).1
  exact ⟨hlength, herrors, hshown.trans hfirst⟩

end Analysis

end ThreeAddress
