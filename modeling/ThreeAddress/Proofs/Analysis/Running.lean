import ThreeAddress.Analysis
import ThreeAddress.Proofs.Code.Listing
import ThreeAddress.Proofs.Parse.Completeness

/-!
# Running events

Over a sink that takes everything an analysis never fails: every operand that carries an expression
was built by checked construction, so lowering it succeeds. While nothing has failed, an event acts
in the same way whatever was reported before, and only adds to the reports.

## Main definitions

* `State.Ready` : nothing has failed, and nothing can.
* `State.quiet` : a state without the reports of lexing.
* `State.Handles` : what an event about operands comes to.
* `Coupling` : a relation of two states that is kept when both change in the same way.

## Main results

* `ready_foldl`, `foldl_step` : a ready analysis stays ready and acts on every event.
* `Coupling.act` : such a relation is kept by every event but a first look and the end of an
  expression statement.
* `quiet_foldl` : first looks at tokens change nothing but the reports of lexing.
* `erroneous_foldl` : a syntax error is reported if and only if there is a complaint about one.
-/

namespace ThreeAddress

theorem Expr.Built.exists_render {e : Expr} (h : e.Built) : ∃ text, e.render = .ok text := by
  induction h with
  | identifier id => exact ⟨_, rfl⟩
  | constant t type => exact ⟨_, rfl⟩
  | arithmetic _ _ he ihl ihr =>
    obtain ⟨-, s, t, type, -, -, -, rfl⟩ := Expr.newArithmetic_eq_ok.mp he
    obtain ⟨a, ha⟩ := ihl
    obtain ⟨b, hb⟩ := ihr
    exact ⟨_, by rw [Expr.render, ha, hb]; rfl⟩
  | unary _ he ih =>
    obtain ⟨-, t, type, -, -, rfl⟩ := Expr.newUnary_eq_ok.mp he
    exact ih
  | index a _ ih =>
    obtain ⟨b, hb⟩ := ih
    exact ⟨_, by rw [Expr.render, hb]; rfl⟩

/-- A generator that has told its observer about a statement. -/
def Generator.told (g : Generator) (text : Bytes) : Generator :=
  { g with points := ⟨utf8 "stmt", text⟩ :: g.points }

namespace Analysis

open Parse (Event significant Complains)

/-- Nothing has failed, the sink takes everything, and the operands can be lowered. -/
structure State.Ready (s : State) : Prop where
  /-- Nothing has failed. -/
  running : s.phase = .running
  /-- The sink takes everything. -/
  working : s.generator.sink.Open
  /-- The operands can be lowered. -/
  built : ∀ o ∈ s.operands, ∀ e, o.expr = some e → e.Built

variable {limits : Limits} {s : State}

namespace State

theorem ready_start (limits : Limits) {g : Generator} (hg : g.sink.Open) :
    (start limits g).Ready :=
  ⟨rfl, hg, by simp [start]⟩

/-! ### What a report leaves alone -/

@[simp] theorem env_report (d : Diagnostic) : (s.report limits d).env = s.env := by
  unfold report
  extract_lets
  split <;> rfl

@[simp] theorem operands_report (d : Diagnostic) :
    (s.report limits d).operands = s.operands := by
  unfold report
  extract_lets
  split <;> rfl

@[simp] theorem generator_report (d : Diagnostic) :
    (s.report limits d).generator = s.generator := by
  unfold report
  extract_lets
  split <;> rfl

@[simp] theorem counts_report (d : Diagnostic) : (s.report limits d).counts = s.counts := by
  unfold report
  extract_lets
  split <;> rfl

@[simp] theorem phase_report (d : Diagnostic) : (s.report limits d).phase = s.phase := by
  unfold report
  extract_lets
  split <;> rfl

/-- Without a bound on errors everything is told. -/
theorem reports_report (h : limits.maxErrors = 0) (d : Diagnostic) :
    (s.report limits d).reports = ⟨.parser, d⟩ :: s.reports := by
  simp [report, h]

/-! ### Lowering -/

/-- Lowering an expression is telling the observer about it and reducing it. -/
theorem lower_of_render {x : Expr} {text : Bytes} (htext : x.render = .ok text) (span : Span) :
    s.lower x span = match (Generator.reduce x).run (s.generator.told text) with
      | .ok _ g =>
        { s with
          generator := g
          counts := { s.counts with statements := s.counts.statements + 1 } }
      | .error cause g => { s with generator := g, phase := .failing ⟨span, cause⟩ } := by
  have hpoint : (Generator.point (utf8 "stmt") text).run s.generator =
      .ok () (s.generator.told text) := rfl
  unfold lower
  simp only [htext]
  exact Generator.run_bind hpoint ▸ rfl

/-- Lowering a built expression over a sink that takes everything emits its listing. -/
theorem lower_eq (hs : s.generator.sink.Open) {e : Expr} (he : e.Built) (span : Span) :
    ∃ text, s.lower e span =
      { s with
        generator := (s.generator.told text).emitted (e.code s.generator.ids.temps)
        counts := { s.counts with statements := s.counts.statements + 1 } } := by
  obtain ⟨text, htext⟩ := he.exists_render
  refine ⟨text, ?_⟩
  rw [lower_of_render htext, Generator.run_reduce (g := s.generator.told text) he hs]
  rfl

/-! ### What an event leads to -/

/-- A state after an event that is neither a first look nor a complaint: nothing has failed, and
no syntax error was added to the reports. -/
structure Follows (s t : State) : Prop where
  /-- Nothing has failed. -/
  ready : t.Ready
  /-- What was added to the reports. -/
  told : ∃ new, t.reports = new ++ s.reports ∧
    ∀ r ∈ new, r.origin = .parser ∧ ¬ r.diagnostic.code.IsSyntax

theorem Ready.follows (h : s.Ready) : s.Follows s :=
  ⟨h, [], rfl, by simp⟩

theorem Ready.report (h : s.Ready) (d : Diagnostic) : (s.report limits d).Ready :=
  ⟨by rw [phase_report, h.running], by rw [generator_report]; exact h.working,
    by rw [operands_report]; exact h.built⟩

namespace Follows

variable {t : State}

theorem suffix (h : s.Follows t) : s.reports <:+ t.reports := by
  obtain ⟨new, hnew, -⟩ := h.told
  exact ⟨new, hnew.symm⟩

theorem report (h : s.Follows t) {d : Diagnostic} (hd : ¬ d.code.IsSyntax) :
    s.Follows (t.report limits d) := by
  obtain ⟨new, hnew, hmem⟩ := h.told
  refine ⟨h.ready.report d, ?_⟩
  unfold State.report
  extract_lets
  split
  · exact ⟨new, hnew, hmem⟩
  · refine ⟨⟨.parser, d⟩ :: new, by simp [hnew], fun r hr => ?_⟩
    rcases List.mem_cons.mp hr with rfl | hr
    · exact ⟨rfl, hd⟩
    · exact hmem r hr

theorem pushOperand (h : s.Follows t) {x : Option Expr} (hx : ∀ e, x = some e → e.Built)
    (span : Span) : s.Follows (t.pushOperand x span) := by
  refine ⟨⟨h.ready.running, h.ready.working, fun o ho => ?_⟩, h.told⟩
  rcases List.mem_cons.mp ho with rfl | ho
  · exact hx
  · exact h.ready.built o ho

theorem withOperands (h : s.Follows t) {os : List Operand} (hos : ∀ o ∈ os, o ∈ t.operands) :
    s.Follows { t with operands := os } :=
  ⟨⟨h.ready.running, h.ready.working, fun o ho => h.ready.built o (hos o ho)⟩, h.told⟩

theorem pushBuilt (h : s.Follows t) (span : Span) {x : Except BuildError Expr}
    (hx : ∀ e, x = .ok e → e.Built) : s.Follows (t.pushBuilt limits span x) := by
  cases x with
  | ok e => exact h.pushOperand (by rintro _ ⟨⟩; exact hx e rfl) _
  | error e =>
    have hcode : ¬ (buildCode e).IsSyntax := by cases e <;> exact of_decide_eq_false rfl
    exact (h.report hcode).pushOperand (by simp) _

end Follows

/-- A state after the warning about a second declaration in one block, if it is one. -/
def warned (limits : Limits) (s : State) (name : Token) : State :=
  match s.env.local? name.text with
  | some previous =>
    s.report limits ⟨.warning, .redeclared, name.span,
      utf8 "'" ++ name.text ++ utf8 "' is already declared in this block as "
        ++ previous.type.render, []⟩
  | none => s

/-- A state after storage has been reserved for a name, or after the complaint about it. -/
def reserved (limits : Limits) (s : State) (name : Token) (type : DataType) : State :=
  match s.env.declare name.text type with
  | .error e => s.report limits (.ofError .frameTooLarge name.span e.message)
  | .ok (_, env) =>
    { s with
      env := env
      counts := { s.counts with
        declarations := s.counts.declarations + 1
        maxFrame := if s.counts.maxFrame ≤ env.frame then env.frame else s.counts.maxFrame } }

theorem declare_eq (name : Token) (type : DataType) :
    s.declare limits name type = (s.warned limits name).reserved limits name type := rfl

/-- The warning changes nothing but the reports. -/
theorem warned_eq (name : Token) :
    s.warned limits name = s ∨ ∃ d, s.warned limits name = s.report limits d := by
  unfold warned
  split
  · exact .inr ⟨_, rfl⟩
  · exact .inl rfl

@[simp] theorem env_warned (name : Token) : (s.warned limits name).env = s.env := by
  obtain h | ⟨d, h⟩ := @warned_eq limits s name <;> rw [h]
  exact env_report d

@[simp] theorem operands_warned (name : Token) :
    (s.warned limits name).operands = s.operands := by
  obtain h | ⟨d, h⟩ := @warned_eq limits s name <;> rw [h]
  exact operands_report d

@[simp] theorem generator_warned (name : Token) :
    (s.warned limits name).generator = s.generator := by
  obtain h | ⟨d, h⟩ := @warned_eq limits s name <;> rw [h]
  exact generator_report d

@[simp] theorem counts_warned (name : Token) : (s.warned limits name).counts = s.counts := by
  obtain h | ⟨d, h⟩ := @warned_eq limits s name <;> rw [h]
  exact counts_report d

theorem follows_declare (h : s.Ready) (name : Token) (type : DataType) :
    s.Follows (s.declare limits name type) := by
  have hwarned : s.Follows (s.warned limits name) := by
    unfold warned
    split
    · exact h.follows.report (by decide : ¬ Code.redeclared.IsSyntax)
    · exact h.follows
  rw [declare_eq]
  unfold reserved
  split
  · exact hwarned.report (by decide : ¬ Code.frameTooLarge.IsSyntax)
  · exact ⟨⟨hwarned.ready.running, hwarned.ready.working, hwarned.ready.built⟩, hwarned.told⟩

theorem follows_name (h : s.Ready) (t : Token) : s.Follows (s.name limits t) := by
  unfold name
  split
  · exact h.follows.pushOperand (by rintro _ ⟨⟩; exact .identifier _) _
  · exact (h.follows.report (by decide : ¬ Code.undeclared.IsSyntax)).pushOperand (by simp) _

theorem follows_literal (h : s.Ready) (t : Token) : s.Follows (s.literal limits t) := by
  have hpush (type : DataType) : s.Follows (s.pushOperand (some (.constant t type)) t.span) :=
    h.follows.pushOperand (by rintro _ ⟨⟩; exact .constant t type) _
  have hbad (message : Bytes) : s.Follows
      ((s.report limits (.ofError .badNumber t.span message)).pushOperand none t.span) :=
    (h.follows.report (by decide : ¬ Code.badNumber.IsSyntax)).pushOperand (by simp) _
  unfold literal
  split
  · split
    · exact hpush _
    · exact hbad _
  · split
    · exact hpush _
    · exact hbad _
  · exact hpush _
  · exact hpush _

theorem follows_binary (h : s.Ready) (op : Token) : s.Follows (s.binary limits op) := by
  unfold binary
  split
  · rename_i right left below hops
    have hbelow : s.Follows { s with operands := below } := h.follows.withOperands (by simp_all)
    dsimp only
    split
    · rename_i l r hl hr
      exact hbelow.pushBuilt _ fun e he =>
        .arithmetic (h.built left (by simp [hops]) l hl) (h.built right (by simp [hops]) r hr) he
    · exact hbelow.pushOperand (by simp) _
  · exact h.follows

theorem follows_unary (h : s.Ready) (op : Token) : s.Follows (s.unary limits op) := by
  unfold unary
  split
  · rename_i inner below hops
    have hbelow : s.Follows { s with operands := below } := h.follows.withOperands (by simp_all)
    dsimp only
    split
    · rename_i x hx
      exact hbelow.pushBuilt _ fun e he => .unary (h.built inner (by simp [hops]) x hx) he
    · exact hbelow.pushOperand (by simp) _
  · exact h.follows

theorem follows_group (h : s.Ready) (opening closing : Span) :
    s.Follows (s.group opening closing) := by
  unfold group
  split
  · rename_i inner below hops
    have hbelow : s.Follows { s with operands := below } := h.follows.withOperands (by simp_all)
    exact hbelow.pushOperand (h.built inner (by simp [hops])) _
  · exact h.follows

theorem follows_index (h : s.Ready) (closing : Span) : s.Follows (s.index limits closing) := by
  unfold index
  split
  · rename_i place array below hops
    have hbelow : s.Follows { s with operands := below } := h.follows.withOperands (by simp_all)
    dsimp only
    split
    · rename_i id i _ hi
      split
      · refine hbelow.pushOperand ?_ _
        rintro _ ⟨⟩
        exact .index id (h.built place (by simp [hops]) i hi)
      · exact (hbelow.report (by decide : ¬ Code.notArray.IsSyntax)).pushOperand (by simp) _
    · exact hbelow.pushOperand (by simp) _
  · exact h.follows

theorem follows_finish (h : s.Ready) : s.Follows s.finish := by
  have hnone : s.Follows { s with operands := [] } := h.follows.withOperands (by simp)
  unfold finish
  split
  · rename_i e span below hops
    have he : e.Built := h.built _ (by rw [hops]; exact List.mem_cons_self) e rfl
    obtain ⟨text, hlower⟩ := lower_eq hnone.ready.working he span
    rw [hlower]
    exact ⟨⟨h.running, Generator.open_emitted (g := s.generator.told text) h.working _,
      hnone.ready.built⟩, hnone.told⟩
  · exact hnone

end State

open State (Follows)

/-- An event that is neither a first look nor a complaint adds no syntax error. -/
theorem follows_act (h : s.Ready) {e : Event} (hlook : e.isLook = false)
    (hcomplain : ∀ d, e ≠ .complain d) : s.Follows (act limits s e) := by
  have hsame (env : Environment) : s.Follows { s with env := env } :=
    ⟨⟨h.running, h.working, h.built⟩, h.follows.told⟩
  cases e with
  | look l => cases hlook
  | complain d => exact absurd rfl (hcomplain d)
  | openBlock => exact hsame _
  | closeBlock => exact hsame _
  | declare name type => exact State.follows_declare h name type
  | name t => exact State.follows_name h t
  | literal t => exact State.follows_literal h t
  | invalid span => exact h.follows.pushOperand (by simp) span
  | binary op => exact State.follows_binary h op
  | unary op => exact State.follows_unary h op
  | group opening closing => exact State.follows_group h opening closing
  | index closing => exact State.follows_index h closing
  | finish => exact State.follows_finish h
  | abandon => exact h.follows.withOperands (by simp)

theorem ready_act (h : s.Ready) (e : Event) : (act limits s e).Ready := by
  cases e with
  | look l => exact ⟨h.running, h.working, h.built⟩
  | complain d => exact h.report d
  | _ => exact (follows_act h rfl (by simp)).ready

theorem ready_foldl (limits : Limits) (h : s.Ready) (es : List Event) :
    (es.foldl (act limits) s).Ready := by
  induction es generalizing s with
  | nil => exact h
  | cons e es ih => exact ih (ready_act h e)

/-- A ready analysis acts on every event. -/
theorem foldl_step (limits : Limits) (h : s.Ready) (es : List Event) :
    es.foldl (step limits) s = es.foldl (act limits) s := by
  induction es generalizing s with
  | nil => rfl
  | cons e es ih =>
    have hstep : step limits s e = act limits s e := by
      unfold step
      rw [h.running]
    rw [List.foldl_cons, List.foldl_cons, hstep]
    exact ih (ready_act h e)

/-! ### Events about operands -/

/-- A state after an event about operands: it has other operands, or a diagnostic has been reported
and an operand without an expression stands for some of those before. -/
inductive State.Handles (limits : Limits) (s : State) : State → Prop
  | operands (os : List Operand) : Handles limits s { s with operands := os }
  | refused (below : List Operand) (d : Diagnostic) (span : Span) :
      Handles limits s (({ s with operands := below }.report limits d).pushOperand none span)

theorem State.Handles.phase {t : State} (h : s.Handles limits t) : t.phase = s.phase := by
  cases h with
  | operands os => rfl
  | refused below d span => exact State.phase_report d

theorem handles_name (t : Token) : s.Handles limits (s.name limits t) := by
  unfold State.name
  split
  · exact .operands _
  · exact .refused s.operands _ _

theorem handles_literal (t : Token) : s.Handles limits (s.literal limits t) := by
  unfold State.literal
  split
  · split
    · exact .operands _
    · exact .refused s.operands _ _
  · split
    · exact .operands _
    · exact .refused s.operands _ _
  · exact .operands _
  · exact .operands _

theorem handles_pushBuilt (below : List Operand) (span : Span) (x : Except BuildError Expr) :
    s.Handles limits ({ s with operands := below }.pushBuilt limits span x) := by
  cases x with
  | ok e => exact .operands _
  | error e => exact .refused below _ _

theorem handles_binary (op : Token) : s.Handles limits (s.binary limits op) := by
  unfold State.binary
  split
  · dsimp only
    split
    · exact handles_pushBuilt _ _ _
    · exact .operands _
  · exact .operands s.operands

theorem handles_unary (op : Token) : s.Handles limits (s.unary limits op) := by
  unfold State.unary
  split
  · dsimp only
    split
    · exact handles_pushBuilt _ _ _
    · exact .operands _
  · exact .operands s.operands

theorem handles_group (opening closing : Span) : s.Handles limits (s.group opening closing) := by
  unfold State.group
  split
  · exact .operands _
  · exact .operands s.operands

theorem handles_index (closing : Span) : s.Handles limits (s.index limits closing) := by
  unfold State.index
  split
  · dsimp only
    split
    · split
      · exact .operands _
      · exact .refused _ _ _
    · exact .operands _
  · exact .operands s.operands

/-- Tests for an event that is about operands alone. -/
def handlesOperands : Event → Bool
  | .name _ | .literal _ | .invalid _ | .binary _ | .unary _ | .group _ _ | .index _ | .abandon =>
    true
  | _ => false

theorem handles_act {e : Event} (he : handlesOperands e = true) :
    s.Handles limits (act limits s e) := by
  cases e with
  | name t => exact handles_name t
  | literal t => exact handles_literal t
  | invalid span => exact .operands _
  | binary op => exact handles_binary op
  | unary op => exact handles_unary op
  | group opening closing => exact handles_group opening closing
  | index closing => exact handles_index closing
  | abandon => exact .operands _
  | look _ | complain _ | openBlock | closeBlock | declare _ _ | finish => cases he

/-- Only the end of an expression statement can fail. -/
theorem phase_act {e : Event} (he : e ≠ .finish) :
    (act limits s e).phase = s.phase := by
  cases e with
  | complain d => exact State.phase_report d
  | declare name type =>
    rw [act, State.declare_eq]
    unfold State.reserved State.warned
    split <;> split <;> simp
  | finish => exact absurd rfl he
  | look _ | openBlock | closeBlock => rfl
  | _ => exact (handles_act rfl).phase

/-- As long as no statement ends, a running analysis acts on every event. -/
theorem foldl_step_of_unfinished (hrunning : s.phase = .running) {es : List Event}
    (hes : .finish ∉ es) : es.foldl (step limits) s = es.foldl (act limits) s := by
  induction es generalizing s with
  | nil => rfl
  | cons e es ih =>
    obtain ⟨he, hes⟩ := not_or.mp (fun h => hes (List.mem_cons.mpr h))
    have hstep : step limits s e = act limits s e := by simp only [step, hrunning]
    rw [List.foldl_cons, hstep, ih ((phase_act (Ne.symm he)).trans hrunning) hes, List.foldl_cons]

/-! ### Syntax errors -/

/-- A syntax error is among the reports. -/
def State.Erroneous (s : State) : Prop :=
  ∃ r ∈ s.reports, r.diagnostic.code.IsSyntax

/-- The diagnostics of a lexeme are no syntax errors. -/
def IsLexical (e : Event) : Prop :=
  ∀ l, e = .look l → ∀ d ∈ l.diagnostics, ¬ d.code.IsSyntax

theorem erroneous_act (h : s.Ready) (hlimit : limits.maxErrors = 0) {e : Event}
    (he : IsLexical e) : (act limits s e).Erroneous ↔ s.Erroneous ∨ Complains [e] := by
  have hnone (he : ∀ d, e ≠ .complain d) : ¬ Complains [e] := by
    rintro ⟨d, hd, -⟩
    exact he d (List.mem_singleton.mp hd).symm
  by_cases hcomplain : ∃ d, e = .complain d
  · obtain ⟨d, rfl⟩ := hcomplain
    simp [State.Erroneous, act, State.reports_report hlimit, Complains, or_comm]
  · replace hcomplain : ∀ d, e ≠ .complain d := fun d hd => hcomplain ⟨d, hd⟩
    obtain ⟨new, hnew, hmem⟩ : ∃ new, (act limits s e).reports = new ++ s.reports ∧
        ∀ r ∈ new, ¬ r.diagnostic.code.IsSyntax := by
      cases hlook : e.isLook with
      | false =>
        have hfollows : s.Follows (act limits s e) := follows_act h hlook hcomplain
        obtain ⟨new, hnew, hmem⟩ := hfollows.told
        exact ⟨new, hnew, fun r hr => (hmem r hr).2⟩
      | true =>
        cases e with
        | look l => exact ⟨_, rfl, by simpa using fun d hd => he l rfl d hd⟩
        | _ => cases hlook
    simp only [State.Erroneous, hnew, List.mem_append, hnone hcomplain, or_false]
    constructor
    · rintro ⟨r, hr | hr, hcode⟩
      · exact absurd hcode (hmem r hr)
      · exact ⟨r, hr, hcode⟩
    · rintro ⟨r, hr, hcode⟩
      exact ⟨r, .inr hr, hcode⟩

/-- Without a bound on errors, a syntax error is reported if and only if there is a complaint about
one. -/
theorem erroneous_foldl (h : s.Ready) (hlimit : limits.maxErrors = 0) {es : List Event}
    (hes : ∀ e ∈ es, IsLexical e) :
    (es.foldl (act limits) s).Erroneous ↔ s.Erroneous ∨ Complains es := by
  induction es generalizing s with
  | nil => simp [Complains]
  | cons e es ih =>
    have hcons : Complains (e :: es) ↔ Complains [e] ∨ Complains es := by
      simp [Complains, or_and_right, exists_or]
    rw [List.foldl_cons, ih (ready_act h e) fun e' he' => hes e' (by simp [he']),
      erroneous_act h hlimit (hes e (by simp)), hcons, or_assoc]

/-! ### Two runs side by side -/

/-- A state with the names in scope behind a declaration, which is counted. -/
def State.declared (s : State) (env : Environment) : State :=
  { s with
    env := env
    counts := { s.counts with
      declarations := s.counts.declarations + 1
      maxFrame := if s.counts.maxFrame ≤ env.frame then env.frame else s.counts.maxFrame } }

/-- A relation of states, each under limits of its own, that have the same names in scope and the
same operands; they are related again when both change in the same way. -/
structure Coupling (limits limits' : Limits) (R : State → State → Prop) : Prop where
  /-- The names in scope are the same. -/
  env {s t : State} (h : R s t) : t.env = s.env
  /-- The operands are the same. -/
  operands {s t : State} (h : R s t) : t.operands = s.operands
  /-- Both report a diagnostic. -/
  report {s t : State} (h : R s t) (d : Diagnostic) : R (s.report limits d) (t.report limits' d)
  /-- Both get other operands. -/
  withOperands {s t : State} (h : R s t) (os : List Operand) :
    R { s with operands := os } { t with operands := os }
  /-- Both get other names in scope. -/
  withEnv {s t : State} (h : R s t) (env : Environment) :
    R { s with env := env } { t with env := env }
  /-- Both get the names in scope behind a declaration. -/
  declared {s t : State} (h : R s t) (env : Environment) : R (s.declared env) (t.declared env)

namespace Coupling

variable {limits' : Limits} {R : State → State → Prop} {t : State}

theorem pushOperand (h : Coupling limits limits' R) (hst : R s t) (x : Option Expr) (span : Span) :
    R (s.pushOperand x span) (t.pushOperand x span) := by
  have hpush := h.withOperands hst (⟨x, span⟩ :: s.operands)
  rw [State.pushOperand, State.pushOperand, h.operands hst]
  exact hpush

theorem refuse (h : Coupling limits limits' R) (hst : R s t) (d : Diagnostic) (span : Span) :
    R ((s.report limits d).pushOperand none span) ((t.report limits' d).pushOperand none span) :=
  h.pushOperand (h.report hst d) none span

theorem pushBuilt (h : Coupling limits limits' R) (hst : R s t) (span : Span)
    (x : Except BuildError Expr) : R (s.pushBuilt limits span x) (t.pushBuilt limits' span x) := by
  cases x with
  | ok e => exact h.pushOperand hst _ _
  | error e => exact h.refuse hst _ _

theorem declare (h : Coupling limits limits' R) (hst : R s t) (n : Token) (type : DataType) :
    R (s.declare limits n type) (t.declare limits' n type) := by
  have hwarned : R (s.warned limits n) (t.warned limits' n) := by
    unfold State.warned
    rw [h.env hst]
    split
    · exact h.report hst _
    · exact hst
  rw [State.declare_eq, State.declare_eq]
  unfold State.reserved
  rw [h.env hwarned]
  split
  · exact h.report hwarned _
  · exact h.declared hwarned _

theorem name (h : Coupling limits limits' R) (hst : R s t) (n : Token) :
    R (s.name limits n) (t.name limits' n) := by
  unfold State.name
  rw [h.env hst]
  split
  · exact h.pushOperand hst _ _
  · exact h.refuse hst _ _

theorem literal (h : Coupling limits limits' R) (hst : R s t) (n : Token) :
    R (s.literal limits n) (t.literal limits' n) := by
  unfold State.literal
  split
  · split
    · exact h.pushOperand hst _ _
    · exact h.refuse hst _ _
  · split
    · exact h.pushOperand hst _ _
    · exact h.refuse hst _ _
  · exact h.pushOperand hst _ _
  · exact h.pushOperand hst _ _

theorem binary (h : Coupling limits limits' R) (hst : R s t) (op : Token) :
    R (s.binary limits op) (t.binary limits' op) := by
  unfold State.binary
  rw [h.operands hst]
  split
  · dsimp only
    split
    · exact h.pushBuilt (h.withOperands hst _) _ _
    · exact h.pushOperand (h.withOperands hst _) _ _
  · exact hst

theorem unary (h : Coupling limits limits' R) (hst : R s t) (op : Token) :
    R (s.unary limits op) (t.unary limits' op) := by
  unfold State.unary
  rw [h.operands hst]
  split
  · dsimp only
    split
    · exact h.pushBuilt (h.withOperands hst _) _ _
    · exact h.pushOperand (h.withOperands hst _) _ _
  · exact hst

theorem group (h : Coupling limits limits' R) (hst : R s t) (opening closing : Span) :
    R (s.group opening closing) (t.group opening closing) := by
  unfold State.group
  rw [h.operands hst]
  split
  · exact h.withOperands hst _
  · exact hst

theorem index (h : Coupling limits limits' R) (hst : R s t) (closing : Span) :
    R (s.index limits closing) (t.index limits' closing) := by
  unfold State.index
  rw [h.operands hst]
  split
  · dsimp only
    split
    · split
      · exact h.pushOperand (h.withOperands hst _) _ _
      · exact h.refuse (h.withOperands hst _) _ _
    · exact h.pushOperand (h.withOperands hst _) _ _
  · exact hst

/-- Related states are related again behind every event but a first look and the end of an
expression statement. -/
theorem act (h : Coupling limits limits' R) (hst : R s t) {e : Event} (hlook : e.isLook = false)
    (hfinish : e ≠ .finish) : R (Analysis.act limits s e) (Analysis.act limits' t e) := by
  cases e with
  | look l => cases hlook
  | complain d => exact h.report hst d
  | openBlock =>
    show R { s with env := s.env.push } { t with env := t.env.push }
    rw [h.env hst]
    exact h.withEnv hst _
  | closeBlock =>
    show R { s with env := s.env.pop } { t with env := t.env.pop }
    rw [h.env hst]
    exact h.withEnv hst _
  | declare n type => exact h.declare hst n type
  | name n => exact h.name hst n
  | literal n => exact h.literal hst n
  | invalid span => exact h.pushOperand hst none span
  | binary op => exact h.binary hst op
  | unary op => exact h.unary hst op
  | group opening closing => exact h.group hst opening closing
  | index closing => exact h.index hst closing
  | finish => exact absurd rfl hfinish
  | abandon => exact h.withOperands hst []

end Coupling

/-! ### First looks -/

namespace State

/-- A state without the reports of lexing. -/
def quiet (s : State) : State :=
  { s with reports := s.reports.filter fun r => r.origin = .parser }

@[simp] theorem operands_quiet : s.quiet.operands = s.operands := rfl

theorem quiet_report (d : Diagnostic) : (s.report limits d).quiet = s.quiet.report limits d := by
  unfold report
  extract_lets
  rw [apply_ite quiet]
  rfl

theorem quiet_finish : s.finish.quiet = s.quiet.finish := by
  have hlower (s : State) (e : Expr) (span : Span) :
      (s.lower e span).quiet = s.quiet.lower e span := by
    unfold lower
    dsimp only [quiet]
    split <;> rfl
  unfold finish
  rw [operands_quiet]
  rcases s.operands with _ | ⟨⟨_ | e, span⟩, below⟩
  · rfl
  · rfl
  · exact hlower _ e span

end State

theorem coupling_quiet : Coupling limits limits fun s t => t = s.quiet where
  env := by rintro s _ rfl; rfl
  operands := by rintro s _ rfl; rfl
  report := by
    rintro s _ rfl d
    exact (State.quiet_report d).symm
  withOperands := by rintro s _ rfl os; rfl
  withEnv := by rintro s _ rfl env; rfl
  declared := by rintro s _ rfl env; rfl

theorem quiet_act {e : Event} (he : e.isLook = false) :
    (act limits s e).quiet = act limits s.quiet e := by
  by_cases hfinish : e = .finish
  · rw [hfinish]
    exact State.quiet_finish
  · exact (coupling_quiet.act rfl he hfinish).symm

theorem quiet_act_of_isLook {e : Event} (he : e.isLook = true) :
    (act limits s e).quiet = s.quiet := by
  cases e with
  | look l => simp [act, State.tellLexeme, State.quiet]
  | _ => cases he

/-- First looks change nothing but the reports of lexing. -/
theorem quiet_foldl (es : List Event) :
    (es.foldl (act limits) s).quiet = (significant es).foldl (act limits) s.quiet := by
  induction es generalizing s with
  | nil => rfl
  | cons e es ih =>
    rw [List.foldl_cons, ih]
    cases he : e.isLook with
    | true => rw [quiet_act_of_isLook he, Parse.significant_cons_of_isLook he]
    | false => rw [quiet_act he, Parse.significant_cons he, List.foldl_cons]

end Analysis

end ThreeAddress
