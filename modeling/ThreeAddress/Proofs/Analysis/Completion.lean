import ThreeAddress.Proofs.Analysis.Frames
import ThreeAddress.Proofs.Parse.Looking
import ThreeAddress.Proofs.Parse.Turns

/-!
# Coming to the end of a source

The analysis of a source comes to an end. The loops of parsing make at most seven turns for each
token, and each turn that goes on takes a token. If nothing fails then all tokens have been looked
at and all scopes have been closed.

## Main results

* `pop_env_reached` : closing the outermost scope of a whole run leaves no scope.
* `exists_turns_run` : the turns of an analysis, and what it has come to.
-/

namespace ThreeAddress

open Parse (Enough Event Input Nested looks meter parseProgram parseStmt readSource)

/-- Closing the only scope that is open leaves no scope, and no storage. -/
theorem Environment.pop_eq_empty {types : List DataType} {env : Environment}
    (h : Stacked [types] env.scopes env.frame.toNat) : env.pop = {} := by
  obtain ⟨scopes, frame⟩ := env
  simp only at h
  generalize frame.toNat = top at h
  cases h with
  | @cons _ _ s _ _ houter _ _ =>
    have hbase : s.base = 0 := by
      have hsum : s.base.toNat = 0 := houter.sum_eq
      exact UInt64.toNat_inj.mp hsum
    generalize s.base.toNat = base at houter
    cases houter
    show Environment.mk [] s.base = {}
    rw [hbase]

namespace Analysis

variable {f : SourceFile} {limits : Limits} {g : Generator}

/-- If all of a source is run then its blocks are closed, and closing the outermost scope leaves no
scope. -/
theorem pop_env_reached {es : List Event} (hrun : RunsUpTo limits g es [])
    (hnested : Nested es 0 0) : (reached limits g es).env.pop = {} := by
  obtain ⟨haccounts, -⟩ := accounts_reached hrun hnested (List.prefix_refl es)
  have hlength : (Environment.declaredBehind es).length = 1 :=
    Environment.Ledger.length_foldl_behind (l := [[]]) (c := 1) hnested rfl
  obtain ⟨types, htypes⟩ := List.length_eq_one_iff.mp hlength
  exact Environment.pop_eq_empty (htypes ▸ haccounts.stacked)

/-- The analysis of every source comes to an end. Its tokens are those in front of the token that
ends the file. Reading them on a budget of calls that grows with their number never uses the budget
up and is what parsing does, for a whole source as for every function that is called; the loops make
at most seven turns for each token and one more, every turn takes a token or is the last one of its
loop, and at the end of the file every turn is the last one. A statement takes a token wherever it
is read in front of one. If nothing fails then all events are run, every token has been looked at,
and closing the outermost scope leaves none. An emission that fails ends a run earlier, in the
middle of these turns. -/
theorem exists_turns_run (f : SourceFile) (limits : Limits) (g : Generator)
    (hsize : f.content.length < UInt32.size - 1) :
    (∃ stop, f.lexemes = f.input.ahead ++ [stop] ∧ stop.token.kind = .endOfFile ∧
      (∀ l ∈ f.input.ahead, l.token.kind ≠ .endOfFile) ∧ f.input.size ≤ f.content.length) ∧
    (∀ n, Enough n) ∧
    (∀ n, 8 * f.input.size + 7 < n → ∃ log,
      meter n .source f.input = some (readSource f.input, log) ∧
      log.length ≤ 7 * f.input.size + 1 ∧
      ∀ t ∈ log, t.Progresses ∧ (t.before.ahead = [] → t.behind = none)) ∧
    (∀ i : Input, i.ahead ≠ [] → (parseStmt i).rest.size < i.size) ∧
    (readSource f.input).events = parseProgram f.input ∧
    (readSource f.input).rest.ahead = [] ∧
    ((run limits g f.lexemes).failure = none →
      RunsUpTo limits g (parseProgram f.input) [] ∧
      looks (parseProgram f.input) = f.input.ahead ∧
      (reached limits g (parseProgram f.input)).env.pop = {}) := by
  have hfits : f.content.length < UInt32.size := Nat.lt_of_lt_of_le hsize (Nat.sub_le _ _)
  obtain ⟨front, stop, hlexemes, hscanned, hstop, hlength, hahead⟩ := f.exists_lexemes hfits
  obtain ⟨hevents, hrest⟩ := Parse.readSource_eq f.input
  replace hahead : f.input.ahead = front := hahead
  refine ⟨⟨stop, ?_, hstop, ?_, ?_⟩, Parse.enough, fun n hn => ?_,
    fun i => (parseStmt i).progress, hevents, hrest, fun hfailure => ?_⟩
  · rw [hahead, hlexemes]
  · rw [hahead]
    exact fun l hl => (hscanned l hl).kind_ne
  · rwa [Input.size, hahead]
  · obtain ⟨log, hmeter, hlog, hcount⟩ := Parse.exists_turns hn
    exact ⟨log, hmeter, hcount, fun t ht => ⟨hlog t ht, (hlog t ht).behind_eq_none⟩⟩
  · obtain ⟨done, ahead, hsplit, hrun⟩ := exists_runsUpTo limits g (parseProgram f.input)
    have hall : RunsUpTo limits g (parseProgram f.input) [] := by
      obtain rfl := hrun.ahead_eq_nil hsplit hfailure
      rw [List.append_nil] at hsplit
      rwa [hsplit]
    -- nothing has been looked at before parsing starts
    have hlooks : looks (parseProgram f.input) = f.input.ahead := Parse.looks_parseProgram f.input
    exact ⟨hall, hlooks, pop_env_reached hall (Parse.nested_parseProgram f.input 0)⟩

/-- A source with a block that is not closed, braces without a block and broken statements. -/
def unclosedSource : SourceFile :=
  .ofContent 0 (utf8 "unclosed.ez")
    (utf8 "\x7d \x7b a + * \x7d \x7d ( \x7b let 1 ; ^ ^ 2 ; let b") 0

/-- It is read to its end. -/
theorem pop_env_unclosedSource :
    unclosedSource.content.length < UInt32.size - 1 ∧
      (run {} {} unclosedSource.lexemes).failure = none ∧
      looks (parseProgram unclosedSource.input) = unclosedSource.input.ahead ∧
      (reached {} {} (parseProgram unclosedSource.input)).env.pop = {} := by
  have hsize : unclosedSource.content.length < UInt32.size - 1 := by decide +kernel
  have hfailure : (run {} {} unclosedSource.lexemes).failure = none := failure_run .recorder
  obtain ⟨-, -, -, -, -, -, hfinished⟩ := exists_turns_run unclosedSource {} {} hsize
  exact ⟨hsize, hfailure, (hfinished hfailure).2⟩

end Analysis

end ThreeAddress
