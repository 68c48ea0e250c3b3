import ThreeAddress.Proofs.Analysis.Checking
import ThreeAddress.Proofs.Analysis.Emission
import ThreeAddress.Proofs.Code.BoundedSink

/-!
# A sink that fails

An analysis over a sink that takes a bounded number of texts does what the analysis over a recorder
does, up to the first instruction that there is no room for. That instruction ends it: what was
emitted, counted and reported until then stays, and nothing is added to it but what lexing found
about the tokens where open blocks close.

The two analyses are run side by side. As long as there is room their states differ in the room of
the sink alone (`State.limited`); after the failure the reports of one are an end of the reports
of the other (`Halted`), both with the latest first.

## Main results

* `foldl_limited` : events under a bound on the sink.
* `run_accepting` : the outcome under a bound, by the outcome of a recorder.
-/

namespace ThreeAddress.Analysis

open Parse (Event parseProgram)

variable {limits : Limits} {s t : State} {failure : StatementFailure}

/-! ### Events that emit nothing -/

namespace State

/-- A state with another generator. -/
def withGenerator (s : State) (g : Generator) : State :=
  { s with generator := g }

@[simp] theorem operands_withGenerator (g : Generator) :
    (s.withGenerator g).operands = s.operands := rfl

theorem report_withGenerator (g : Generator) (d : Diagnostic) :
    (s.withGenerator g).report limits d = (s.report limits d).withGenerator g := by
  unfold report
  extract_lets
  rw [apply_ite fun s : State => s.withGenerator g]
  rfl

end State

theorem coupling_withGenerator (g : Generator) :
    Coupling limits limits fun s t => t = s.withGenerator g where
  env := by rintro s _ rfl; rfl
  operands := by rintro s _ rfl; rfl
  report := by
    rintro s _ rfl d
    exact State.report_withGenerator g d
  withOperands := by rintro s _ rfl os; rfl
  withEnv := by rintro s _ rfl env; rfl
  declared := by rintro s _ rfl env; rfl

/-- An event that emits nothing does the same whatever the generator is. -/
theorem act_withGenerator (g : Generator) {e : Event} (he : e ≠ .finish) :
    act limits (s.withGenerator g) e = (act limits s e).withGenerator g := by
  cases hlook : e.isLook with
  | false => exact (coupling_withGenerator g).act rfl hlook he
  | true =>
    cases e with
    | look l => rfl
    | _ => cases hlook

/-! ### The end of a statement -/

namespace State

/-- A state whose sink takes `room` texts more. -/
def limited (s : State) (room : Nat) : State :=
  s.withGenerator (s.generator.limited room)

@[simp] theorem told_limited (room : Nat) (text : Bytes) :
    (s.limited room).generator.told text = (s.generator.told text).limited room := rfl

/-- Lowering a built expression under a bound. -/
theorem lower_limited (hs : s.generator.sink.Open) {x : Expr} (hx : x.Built) (span : Span)
    (room : Nat) :
    (x.operations ≤ room →
      (s.limited room).lower x span = (s.lower x span).limited (room - x.operations)) ∧
    (room < x.operations → ∃ g', (s.limited room).lower x span =
        { s with generator := g', phase := .failing ⟨span, .sink Sink.closed⟩ } ∧
      s.generator.Refused ((x.code s.generator.ids.temps).take room) g') := by
  obtain ⟨text, htext⟩ := hx.exists_render
  obtain ⟨hfits, hfull⟩ := Generator.emits_reduce (g := s.generator.told text) hx hs room
  rw [Expr.length_code] at hfits hfull
  rw [lower_of_render htext, lower_of_render htext, told_limited]
  refine ⟨fun hroom => ?_, fun hroom => ?_⟩
  · rw [hfits hroom, Generator.run_reduce (g := s.generator.told text) hx hs]
    rfl
  · obtain ⟨g', hrun, hg'⟩ := hfull hroom
    exact ⟨g', by rw [hrun]; rfl, hg'.chunks, hg'.ids⟩

end State

/-- Acting on an event under a bound takes room for what the event emits. -/
theorem act_limited (limits : Limits) (h : s.Ready) (e : Event) {room : Nat}
    (hroom : totalOperations (s.lowering e) ≤ room) :
    act limits (s.limited room) e =
      (act limits s e).limited (room - totalOperations (s.lowering e)) := by
  by_cases he : e = .finish
  · subst he
    show (s.limited room).finish = s.finish.limited _
    rcases hops : s.operands with _ | ⟨⟨_ | x, span⟩, below⟩
    · simp only [State.finish, State.lowering, State.limited, State.operands_withGenerator, hops]
      rfl
    · simp only [State.finish, State.lowering, State.limited, State.operands_withGenerator, hops]
      rfl
    · have hx : x.Built := h.built _ (by rw [hops]; exact List.mem_cons_self) x rfl
      have hlower := (State.lower_limited (s := { s with operands := [] }) h.working hx span
        room).1
      simp only [State.lowering, hops, totalOperations, Nat.add_zero] at hroom ⊢
      simp only [State.finish, State.limited, State.operands_withGenerator, hops]
      exact hlower hroom
  · have hgenerator : (act limits s e).generator = s.generator := generator_act he
    rw [State.limited, act_withGenerator _ he, State.lowering_of_ne he, ← hgenerator]
    rfl

/-- An event that emits more than there is room for ends the analysis. -/
theorem act_overflow (limits : Limits) (h : s.Ready) {e : Event} {room : Nat}
    (hroom : room < totalOperations (s.lowering e)) :
    ∃ x span g', s.lowering e = [x] ∧ act limits (s.limited room) e =
        { s with
          operands := []
          generator := g'
          phase := .failing ⟨span, .sink Sink.closed⟩ } ∧
      s.generator.Refused ((x.code s.generator.ids.temps).take room) g' := by
  have hne : s.lowering e ≠ [] := by
    intro hnil
    rw [hnil] at hroom
    exact absurd hroom (Nat.not_lt_zero _)
  cases e with
  | finish =>
    rcases hops : s.operands with _ | ⟨⟨_ | x, span⟩, below⟩
    · simp [State.lowering, hops] at hne
    · simp [State.lowering, hops] at hne
    · have hx : x.Built := h.built _ (by rw [hops]; exact List.mem_cons_self) x rfl
      obtain ⟨g', hlower, hg'⟩ := (State.lower_limited (s := { s with operands := [] }) h.working
        hx span room).2 (by simpa [State.lowering, hops, totalOperations] using hroom)
      refine ⟨x, span, g', by simp [State.lowering, hops], ?_, hg'⟩
      show (s.limited room).finish = _
      simp only [State.finish, State.limited, State.operands_withGenerator, hops]
      exact hlower
  | _ => exact absurd rfl hne

theorem statements_declare (name : Token) (type : DataType) :
    (s.declare limits name type).counts.statements = s.counts.statements := by
  rw [State.declare_eq]
  unfold State.reserved
  split
  · rw [State.counts_report, State.counts_warned]
  · show (s.warned limits name).counts.statements = s.counts.statements
    rw [State.counts_warned]

theorem statements_finish (h : s.Ready) :
    s.finish.counts.statements = s.counts.statements + (s.lowering .finish).length := by
  unfold State.finish State.lowering
  rcases hops : s.operands with _ | ⟨⟨_ | x, span⟩, below⟩
  · rfl
  · rfl
  · have hx : x.Built := h.built _ (by rw [hops]; exact List.mem_cons_self) x rfl
    obtain ⟨text, hlower⟩ := State.lower_eq (s := { s with operands := [] }) h.working hx span
    exact congrArg (fun t : State => t.counts.statements) hlower

/-- Every expression that is lowered is counted. -/
theorem statements_act (limits : Limits) (h : s.Ready) (e : Event) :
    (act limits s e).counts.statements = s.counts.statements + (s.lowering e).length := by
  by_cases he : e = .finish
  · subst he
    exact statements_finish h
  · rw [State.lowering_of_ne he, List.length_nil, Nat.add_zero]
    cases hscope : changesScopes e with
    | false => rw [(keeps_act hscope he).counts]
    | true =>
      cases e with
      | declare name type => exact statements_declare name type
      | openBlock => rfl
      | closeBlock => rfl
      | _ => cases hscope

/-! ### After the failure -/

/-- One analysis has failed while another one goes on. What the first one has reported, the other
one has reported as well. -/
inductive Halted (failure : StatementFailure) (s t : State) : Prop where
  | failing (hphase : t.phase = .failing failure) (hreports : t.reports = s.reports)
  | stopped (hphase : t.phase = .stopped failure) (hreports : t.reports <:+ s.reports)

theorem Halted.suffix (h : Halted failure s t) : t.reports <:+ s.reports := by
  cases h with
  | failing _ hreports => exact hreports ▸ List.suffix_refl _
  | stopped _ hreports => exact hreports

theorem Halted.failure_outcome (h : Halted failure s t) : t.outcome.failure = some failure := by
  cases h with
  | failing hphase _ => simp only [State.outcome, hphase]
  | stopped hphase _ => simp only [State.outcome, hphase]

/-- An analysis that has failed emits and counts nothing, and reports only what the other one
reports at the same event. -/
theorem halted_step (limits : Limits) (h : s.Ready) (ht : Halted failure s t) (e : Event) :
    Halted failure (act limits s e) (step limits t e) ∧
      (step limits t e).generator = t.generator ∧ (step limits t e).counts = t.counts := by
  have hgrow : s.reports <:+ (act limits s e).reports := suffix_act h e
  cases ht with
  | stopped hphase hreports =>
    have hstep : step limits t e = t := by simp only [step, hphase]
    rw [hstep]
    exact ⟨.stopped hphase (hreports.trans hgrow), rfl, rfl⟩
  | failing hphase hreports =>
    have hend (hstep : step limits t e = { t with phase := .stopped failure }) :
        Halted failure (act limits s e) (step limits t e) ∧
          (step limits t e).generator = t.generator ∧ (step limits t e).counts = t.counts := by
      rw [hstep]
      exact ⟨.stopped rfl (hreports ▸ hgrow), rfl, rfl⟩
    cases e with
    | look l =>
      have htold : (t.tellLexeme l).reports = (act limits s (.look l)).reports := by
        simp only [act, State.tellLexeme, hreports]
      by_cases hbrace : l.token.kind = .rightBrace
      · have hstep : step limits t (.look l) = t.tellLexeme l := by
          simp only [step, hphase, if_pos hbrace]
        rw [hstep]
        exact ⟨.failing hphase htold, rfl, rfl⟩
      · have hstep :
            step limits t (.look l) = { t.tellLexeme l with phase := .stopped failure } := by
          simp only [step, hphase, if_neg hbrace]
        rw [hstep]
        exact ⟨.stopped rfl (htold ▸ List.suffix_refl _), rfl, rfl⟩
    | closeBlock =>
      have hstep : step limits t .closeBlock = { t with env := t.env.pop } := by
        simp only [step, hphase]
      rw [hstep]
      exact ⟨.failing hphase hreports, rfl, rfl⟩
    | _ => exact hend (by simp only [step, hphase])

theorem halted_foldl (limits : Limits) (h : s.Ready) (ht : Halted failure s t) (es : List Event) :
    Halted failure (es.foldl (act limits) s) (es.foldl (step limits) t) ∧
      (es.foldl (step limits) t).generator = t.generator ∧
      (es.foldl (step limits) t).counts = t.counts := by
  induction es generalizing s t with
  | nil => exact ⟨ht, rfl, rfl⟩
  | cons e es ih =>
    obtain ⟨hhalted, hgenerator, hcounts⟩ := halted_step limits h ht e
    obtain ⟨hend, hgenerator', hcounts'⟩ := ih (ready_act h e) hhalted
    exact ⟨hend, hgenerator'.trans hgenerator, hcounts'.trans hcounts⟩

/-! ### Whole sources -/

theorem step_limited (limits : Limits) (h : s.Ready) (room : Nat) (e : Event) :
    step limits (s.limited room) e = act limits (s.limited room) e := by
  have hphase : (s.limited room).phase = .running := h.running
  simp only [step, hphase]

/-- With enough room the bound changes nothing. -/
theorem foldl_limited (limits : Limits) (h : s.Ready) {es : List Event} {room : Nat}
    (hroom : totalOperations (loweredFrom limits s es) ≤ room) :
    es.foldl (step limits) (s.limited room) = (es.foldl (act limits) s).limited
      (room - totalOperations (loweredFrom limits s es)) := by
  induction es generalizing s room with
  | nil => rfl
  | cons e es ih =>
    rw [loweredFrom, totalOperations_append] at hroom ⊢
    rw [List.foldl_cons, List.foldl_cons, step_limited limits h, act_limited limits h e (by omega),
      ih (ready_act h e) (by omega), Nat.sub_sub]

/-- Without enough room the analysis ends in the statement that does not fit. -/
theorem foldl_overflow (limits : Limits) (h : s.Ready) {n : Nat}
    (hn : s.generator.ids.temps = UInt64.ofNat n) {es : List Event} {room : Nat}
    (hroom : room < totalOperations (loweredFrom limits s es)) :
    ∃ (done : List Expr) (x : Expr) (rest : List Expr) (span : Span),
      loweredFrom limits s es = done ++ x :: rest ∧
      totalOperations done ≤ room ∧ room < totalOperations done + x.operations ∧
      Halted ⟨span, .sink Sink.closed⟩ (es.foldl (act limits) s)
        (es.foldl (step limits) (s.limited room)) ∧
      (es.foldl (step limits) (s.limited room)).counts.statements =
        s.counts.statements + done.length ∧
      s.generator.Refused ((listing n (loweredFrom limits s es)).take room)
        (es.foldl (step limits) (s.limited room)).generator := by
  induction es generalizing s n room with
  | nil => exact absurd hroom (Nat.not_lt_zero _)
  | cons e es ih =>
    rw [loweredFrom, totalOperations_append] at hroom
    rw [List.foldl_cons, List.foldl_cons, step_limited limits h]
    by_cases hfits : totalOperations (s.lowering e) ≤ room
    · have hrest : room - totalOperations (s.lowering e) <
          totalOperations (loweredFrom limits (act limits s e) es) := by omega
      obtain ⟨done, x, rest, span, hlowered, hdone, hx, hhalted, hcounts, hrefused⟩ :=
        ih (ready_act h e) (temps_act limits h hn e) hrest
      obtain ⟨points, hg⟩ := exists_generator_act limits h hn e
      rw [act_limited limits h e hfits]
      refine ⟨s.lowering e ++ done, x, rest, span, ?_, ?_, ?_, hhalted, ?_, ?_⟩
      · rw [loweredFrom, hlowered, List.append_assoc]
      · rw [totalOperations_append]
        omega
      · rw [totalOperations_append]
        omega
      · rw [hcounts, statements_act limits h, List.length_append, Nat.add_assoc]
      · rw [loweredFrom, listing_append, List.take_append, length_listing,
          List.take_of_length_le (by rw [length_listing]; exact hfits)]
        rw [hg] at hrefused
        exact Generator.Refused.after ⟨hrefused.chunks, hrefused.ids⟩
    · obtain ⟨x, span, g', hlowering, hact, hrefused⟩ :=
        act_overflow limits h (Nat.lt_of_not_le hfits)
      have hoverflow : room < x.operations := by
        simpa [hlowering, totalOperations] using hfits
      have hfinish : e = .finish := by
        cases e with
        | finish => rfl
        | _ => simp [State.lowering] at hlowering
      subst hfinish
      have hhalted : Halted ⟨span, .sink Sink.closed⟩ (act limits s .finish)
          (act limits (s.limited room) .finish) := by
        rw [hact]
        exact .failing rfl (reports_finish (s := s)).symm
      obtain ⟨hend, hgenerator, hcounts⟩ := halted_foldl limits (ready_act h _) hhalted es
      refine ⟨[], x, loweredFrom limits (act limits s .finish) es, span, ?_, Nat.zero_le _, ?_,
        hend, ?_, ?_⟩
      · rw [loweredFrom, hlowering]
        rfl
      · simpa [totalOperations] using hoverflow
      · rw [hcounts, hact]
        rfl
      · rw [hgenerator, hact, loweredFrom, hlowering, List.singleton_append, listing,
          List.take_append_of_le_length (by rw [Expr.length_code]; exact Nat.le_of_lt hoverflow),
          ← hn]
        exact hrefused

theorem statements_foldl (limits : Limits) (h : s.Ready) (es : List Event) :
    (es.foldl (act limits) s).counts.statements =
      s.counts.statements + (loweredFrom limits s es).length := by
  induction es generalizing s with
  | nil => rfl
  | cons e es ih =>
    rw [List.foldl_cons, ih (ready_act h e), statements_act limits h, loweredFrom,
      List.length_append, Nat.add_assoc]

/-- A sink that fails cuts an analysis off at an exact place. If the sink takes all instructions
that a recorder would get, the two outcomes agree. Otherwise the sink has got the first `n` of them,
the failure of the sink is returned, one more temporary was handed out, the statements in front of
the one that did not fit were counted, and the reports begin those of the recorder. -/
theorem run_accepting (limits : Limits) {f : SourceFile}
    (hsize : f.content.length < UInt32.size - 1) (n : Nat) :
    let full := run limits {} f.lexemes
    let cut := run limits { sink := .accepting n } f.lexemes
    let statements := lowered limits {} f
    let emitted := (listing 0 statements).map Instruction.chunk
    full.generator.sink.text = emitted.flatten ∧ full.counts.statements = statements.length ∧
      full.failure = none ∧
      (emitted.length ≤ n →
        cut = { full with generator := full.generator.limited (n - emitted.length) }) ∧
      (n < emitted.length →
        cut.generator.sink.text = (emitted.take n).flatten ∧
        (∃ span, cut.failure = some ⟨span, .sink Sink.closed⟩) ∧
        cut.generator.ids.temps.toNat = n + 1 ∧
        (∃ done x rest, statements = done ++ x :: rest ∧ totalOperations done ≤ n ∧
          n < totalOperations done + x.operations ∧ cut.counts.statements = done.length) ∧
        cut.reports <+: full.reports) := by
  intro full cut statements emitted
  have hfits : f.content.length < UInt32.size := Nat.lt_of_lt_of_le hsize (Nat.sub_le _ _)
  have hready : (State.start limits {}).Ready := State.ready_start limits .recorder
  have hfull : full = (final limits {} f).outcome := run_eq .recorder
  have hlength : emitted.length = totalOperations statements := by
    rw [List.length_map, length_listing]
  have hcut : cut = ((parseProgram f.input).foldl (step limits)
      ((State.start limits {}).limited n)).outcome := rfl
  have hchunks : full.generator.sink.chunks.reverse = emitted := by
    rw [hfull]
    exact (congrArg List.reverse (chunks_foldl limits hready (n := 0) rfl _)).trans (by simp; rfl)
  refine ⟨congrArg List.flatten hchunks, ?_, failure_run .recorder, fun hn => ?_, fun hn => ?_⟩
  · rw [hfull]
    exact (statements_foldl limits hready _).trans (Nat.zero_add _)
  · rw [hcut, foldl_limited limits hready (hlength ▸ hn), hlength, hfull]
    rfl
  · rw [hlength] at hn
    obtain ⟨done, x, rest, span, hstatements, hdone, hx, hhalted, hcounts, hrefused⟩ :=
      foldl_overflow limits hready (n := 0) rfl hn
    replace hrefused : Generator.Refused {} ((listing 0 statements).take n) cut.generator :=
      hrefused
    have htaken : ((listing 0 statements).take n).length = n := by
      rw [List.length_take, length_listing]
      omega
    have hbound : totalOperations statements ≤ f.content.length :=
      totalOperations_lowered hfits limits {}
    refine ⟨?_, ⟨span, hcut ▸ hhalted.failure_outcome⟩, ?_,
      ⟨done, x, rest, hstatements, hdone, hx, ?_⟩, ?_⟩
    · rw [hrefused.text_fresh, List.map_take]
    · have hsmall : n + 1 < UInt64.size := by
        have : UInt32.size < UInt64.size := by decide
        omega
      rw [hrefused.temps_fresh, htaken, UInt64.toNat_ofNat_of_lt' hsmall]
    · rw [hcut]
      exact hcounts.trans (Nat.zero_add _)
    · rw [hcut, hfull]
      exact List.reverse_prefix.mpr hhalted.suffix

/-! ### The sample under a bound -/

/-- The sample is lowered to one expression of three instructions. -/
theorem lowered_sample : lowered {} {} sampleSource =
    [.index ⟨utf8 "a", .array .int32 2, 0⟩
      (.arithmetic .plus .int64
        (.unary .minus .int64 (.constant (sampleToken .integer 20 "1") .int32))
        (.constant (sampleToken .integer 24 "2") .int32))] := by
  rw [lowered_of_isProgram (by decide +kernel) isProgram_sample]
  decide +kernel

/-- A sink that takes three texts takes the code of the sample, and one that takes a single text
fails at the second instruction. -/
theorem run_accepting_sample :
    (run {} { sink := .accepting 3 } sampleSource.lexemes).failure = none ∧
      (run {} { sink := .accepting 1 } sampleSource.lexemes).generator.ids.temps.toNat = 2 ∧
      (run {} { sink := .accepting 1 } sampleSource.lexemes).generator.sink.text =
        utf8 "\tinv __t0 1\n" := by
  obtain ⟨-, -, hnone, hthree, -⟩ := run_accepting {} (f := sampleSource) (by decide +kernel) 3
  obtain ⟨-, -, -, -, hone⟩ := run_accepting {} (f := sampleSource) (by decide +kernel) 1
  rw [lowered_sample] at hthree hone
  obtain ⟨htext, -, htemps, -⟩ := hone (by decide +kernel)
  refine ⟨?_, htemps, ?_⟩
  · rw [hthree (by decide +kernel)]
    exact hnone
  · rw [htext]
    decide +kernel

end ThreeAddress.Analysis
