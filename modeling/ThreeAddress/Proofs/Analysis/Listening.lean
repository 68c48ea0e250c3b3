import ThreeAddress.Proofs.Analysis.SinkFailure
import ThreeAddress.Proofs.Analysis.Limits
import ThreeAddress.Trace.Tracer

/-!
# Listeners

An analysis is listened to: its reports go to a bag or to nobody, with repeats filtered or not, and
its steps go to tracers. A listener is anything that has a state of its own and is told every report
and every step at once, while the analysis goes on. Neither listeners nor the bound on errors have
an influence on the code: two runs that differ only in them emit the same text, count the same,
hand out the same numbers and fail in the same way.

Two states are compared by what is left of them when their reports are forgotten (`State.blank`).

## Main definitions

* `Analysis.Telling`, `Analysis.Listener` : what is told, and who is told it.
* `Analysis.heard` : a run that is listened to.
* `Analysis.channelListener`, `Analysis.sessionListener` : a bag behind a channel, and a tracer.

## Main results

* `Analysis.blank_step` : the bound on errors has no influence on a step.
* `Analysis.code_heard` : neither the bound on errors nor listeners have an influence on the code.
* `Analysis.heard_channel`, `Analysis.heard_session` : what a bag and a tracer are told.
-/

namespace ThreeAddress

/-! ### Steps are only added to -/

namespace Generator

/-- The generator behind a lowering step, whether it fails or not. -/
def after {α : Type} (x : Lower α) (g : Generator) : Generator :=
  match x g with
  | .ok _ g' | .error _ g' => g'

/-- A lowering step only adds to the steps of the generator. -/
def Records {α : Type} (x : Lower α) : Prop :=
  ∀ g : Generator, g.points <:+ (after x g).points

namespace Records

variable {α β : Type} {x : Lower α} {f : α → Lower β}

theorem pure (a : α) : Records (pure a : Lower α) :=
  fun _ => List.suffix_refl _

theorem throw (e : LowerError) : Records (throw e : Lower α) :=
  fun _ => List.suffix_refl _

theorem bind (hx : Records x) (hf : ∀ a, Records (f a)) : Records (x >>= f) := by
  intro g
  have hfirst := hx g
  have hbind : after (x >>= f) g = match x g with
      | .ok a g' => after (f a) g'
      | .error _ g' => g' := by
    show after (EStateM.bind x f) g = _
    unfold after EStateM.bind
    cases x g <;> rfl
  rw [hbind]
  unfold after at hfirst
  cases hresult : x g with
  | ok a g' =>
    rw [hresult] at hfirst
    exact hfirst.trans (hf a g')
  | error e g' =>
    rw [hresult] at hfirst
    exact hfirst

theorem point (name detail : Bytes) : Records (point name detail) :=
  fun _ => List.suffix_cons _ _

theorem nextTemp : Records nextTemp :=
  fun _ => List.suffix_refl _

theorem orFault (a : Except Fault α) : Records (orFault a) := by
  cases a with
  | ok a => exact .pure a
  | error f => exact .throw _

theorem build (a : Except BuildError Expr) : Records (build a) := by
  cases a with
  | ok e => exact .pure e
  | error f => exact .throw _

theorem emit (operation : Sink → Option SinkError × Sink) : Records (emit operation) := by
  intro g
  unfold after Generator.emit
  rcases operation g.sink with ⟨_ | e, s⟩ <;> exact List.suffix_refl _

theorem store (op : Opcode) (node : Expr) : Records (store op node) := by
  refine nextTemp.bind fun id => ?_
  cases node.type? with
  | none => exact .throw _
  | some type =>
    refine (orFault _).bind fun operands => ?_
    exact ((point _ _).bind fun _ => emit _).bind fun _ => .pure _

theorem reduce (e : Expr) : Records (reduce e) := by
  induction e with
  | absent => exact (orFault _).bind fun _ => .pure _
  | identifier id => exact .pure _
  | constant t type => exact .pure _
  | temporary id type => exact .pure _
  | arithmetic op type l r hl hr =>
    exact (orFault _).bind fun _ => hl.bind fun _ => hr.bind fun _ => (build _).bind fun _ =>
      store _ _
  | unary op type x hx => exact hx.bind fun _ => (build _).bind fun _ => store _ _
  | index a i hi => exact hi.bind fun _ => store _ _

end Records

end Generator

namespace Analysis

open Parse (Event parseProgram)

variable {limits : Limits} {s t : State} {σ τ : Type}

/-! ### The bound on errors -/

/-- Apart from reporting, a step neither reads the bound on errors nor what was reported before. -/
theorem blank_step (limits : Limits) (s : State) (e : Event) :
    (step limits s e).blank = (step {} s.blank e).blank := by
  unfold step
  rw [show s.blank.phase = s.phase from rfl]
  cases s.phase with
  | running => rw [act_eq limits s e]; rfl
  | stopped failure => rfl
  | failing failure =>
    cases e with
    | look l =>
      dsimp only
      split <;> rfl
    | _ => rfl

/-- The bound on errors has no influence on a run of events. -/
theorem blank_foldl (limits limits' : Limits) (h : s.blank = t.blank) (es : List Event) :
    (es.foldl (step limits) s).blank = (es.foldl (step limits') t).blank := by
  induction es generalizing s t with
  | nil => exact h
  | cons e es ih => exact ih (by rw [blank_step limits s, blank_step limits' t, h])

/-! ### Listeners -/

/-- What a listener is told. -/
inductive Telling where
  /-- A diagnostic. -/
  | report (r : Report)
  /-- A step of the generator. -/
  | point (p : Point)
deriving Repr, DecidableEq

/-- Somebody who is told what happens, with a state of any kind. -/
structure Listener (σ : Type) where
  /-- Takes note of what happens. -/
  hear : σ → Telling → σ

/-- What a list, the latest first, has more than one that it was added to; in order. -/
def news {α : Type} (old new : List α) : List α :=
  (new.take (new.length - old.length)).reverse

/-- What there is to tell about the way from one state to another. -/
def State.tellings (s t : State) : List Telling :=
  (news s.reports t.reports).map .report
    ++ (news s.generator.points t.generator.points).map .point

/-- A step that is listened to. -/
def Listener.attend (a : Listener σ) (limits : Limits) (x : State × σ) (e : Event) : State × σ :=
  (step limits x.1 e, (x.1.tellings (step limits x.1 e)).foldl a.hear x.2)

/-- Analyses the lexemes of a source while somebody listens. -/
def heard (a : Listener σ) (start : σ) (limits : Limits) (g : Generator) (ls : List Lexeme) :
    Outcome × σ :=
  let x := (parseProgram (.ofLexemes ls)).foldl (a.attend limits) (.start limits g, start)
  (x.1.outcome, x.2)

theorem fst_foldl_attend (a : Listener σ) (limits : Limits) (x : State × σ) (es : List Event) :
    (es.foldl (a.attend limits) x).1 = es.foldl (step limits) x.1 := by
  induction es generalizing x with
  | nil => rfl
  | cons e es ih => exact ih _

/-- Listening leaves the outcome as it is. -/
theorem fst_heard (a : Listener σ) (start : σ) (limits : Limits) (g : Generator)
    (ls : List Lexeme) : (heard a start limits g ls).1 = run limits g ls :=
  congrArg State.outcome (fst_foldl_attend a limits _ _)

/-- Neither the bound on errors nor listeners have an influence on the code. The generator holds
the text, the numbers handed out and the sink, which may take everything, so many texts only, or
nothing at all. -/
theorem code_heard (a : Listener σ) (b : Listener τ) (x : σ) (y : τ) (limits limits' : Limits)
    (g : Generator) (f : SourceFile) :
    let first := (heard a x limits g f.lexemes).1
    let second := (heard b y limits' g f.lexemes).1
    first.generator = second.generator ∧ first.counts = second.counts ∧
      first.failure = second.failure := by
  intro first second
  have hstart : (State.start limits g).blank = (State.start limits' g).blank := rfl
  have hblank := blank_foldl limits limits' hstart (parseProgram (.ofLexemes f.lexemes))
  have hfirst : first = run limits g f.lexemes := fst_heard a x limits g f.lexemes
  have hsecond : second = run limits' g f.lexemes := fst_heard b y limits' g f.lexemes
  rw [hfirst, hsecond]
  exact ⟨(congrArg State.generator hblank :), (congrArg State.counts hblank :),
    (congrArg (fun s : State => s.outcome.failure) hblank :)⟩

/-! ### What is told in a run -/

theorem eq_append_news {α : Type} {old new : List α} (h : old <:+ new) :
    new.reverse = old.reverse ++ news old new := by
  obtain ⟨more, rfl⟩ := h
  simp [news]

theorem news_trans {α : Type} {old mid new : List α} (h : old <:+ mid) (h' : mid <:+ new) :
    news old new = news old mid ++ news mid new := by
  have hall := eq_append_news (h.trans h')
  rw [eq_append_news h', eq_append_news h, List.append_assoc] at hall
  exact (List.append_cancel_left hall).symm

theorem points_lower (s : State) (e : Expr) (span : Span) :
    s.generator.points <:+ (s.lower e span).generator.points := by
  unfold State.lower
  extract_lets observed
  have hobserved : Generator.Records observed := by
    unfold observed
    cases e.render with
    | ok text => exact .point _ _
    | error f => exact .throw _
  have hlower := (hobserved.bind fun _ => .reduce e) s.generator
  unfold Generator.after at hlower
  unfold EStateM.run
  split <;> rename_i hresult <;> rw [hresult] at hlower <;> exact hlower

theorem points_act (limits : Limits) (s : State) (e : Event) :
    s.generator.points <:+ (act limits s e).generator.points := by
  by_cases he : e = .finish
  · subst he
    show s.generator.points <:+ s.finish.generator.points
    unfold State.finish
    split
    · exact points_lower { s with operands := [] } _ _
    · exact List.suffix_refl _
  · have hkept : act limits s e = (act limits s e).withGenerator s.generator :=
      act_withGenerator s.generator he
    rw [hkept]
    exact List.suffix_refl _

/-- A step only adds to the reports and to the steps of the generator. -/
theorem suffix_step (limits : Limits) (s : State) (e : Event) :
    s.reports <:+ (step limits s e).reports ∧
      s.generator.points <:+ (step limits s e).generator.points := by
  unfold step
  cases s.phase with
  | running =>
    obtain ⟨new, hnew⟩ := exists_act limits s e
    have hreports : (act limits s e).reports = new ++ s.reports :=
      congrArg State.reports (hnew s.reports)
    exact ⟨hreports ▸ List.suffix_append _ _, points_act limits s e⟩
  | stopped failure => exact ⟨List.suffix_refl _, List.suffix_refl _⟩
  | failing failure =>
    cases e with
    | look l =>
      dsimp only
      split <;> exact ⟨List.suffix_append _ _, List.suffix_refl _⟩
    | _ => exact ⟨List.suffix_refl _, List.suffix_refl _⟩

theorem suffix_foldl_step (limits : Limits) (s : State) (es : List Event) :
    s.reports <:+ (es.foldl (step limits) s).reports ∧
      s.generator.points <:+ (es.foldl (step limits) s).generator.points := by
  induction es generalizing s with
  | nil => exact ⟨List.suffix_refl _, List.suffix_refl _⟩
  | cons e es ih =>
    obtain ⟨hreports, hpoints⟩ := suffix_step limits s e
    exact ⟨hreports.trans (ih _).1, hpoints.trans (ih _).2⟩

/-- The diagnostic that a listener is told. -/
def Telling.report? : Telling → Option Report
  | .report r => some r
  | .point _ => none

/-- The step that a listener is told. -/
def Telling.point? : Telling → Option Point
  | .report _ => none
  | .point p => some p

/-- Everything that is told while events are run. -/
def told (limits : Limits) (s : State) : List Event → List Telling
  | [] => []
  | e :: es => s.tellings (step limits s e) ++ told limits (step limits s e) es

theorem snd_foldl_attend (a : Listener σ) (limits : Limits) (x : State × σ) (es : List Event) :
    (es.foldl (a.attend limits) x).2 = (told limits x.1 es).foldl a.hear x.2 := by
  induction es generalizing x with
  | nil => rfl
  | cons e es ih => rw [List.foldl_cons, ih, told, List.foldl_append]; rfl

/-- A listener ends as if it had been told everything afterwards. -/
theorem snd_heard (a : Listener σ) (start : σ) (limits : Limits) (g : Generator)
    (ls : List Lexeme) : (heard a start limits g ls).2 =
      (told limits (.start limits g) (parseProgram (.ofLexemes ls))).foldl a.hear start :=
  snd_foldl_attend a limits _ _

theorem reports_tellings (s t : State) :
    (s.tellings t).filterMap Telling.report? = news s.reports t.reports := by
  simp [State.tellings, List.filterMap_map, Function.comp_def, Telling.report?]

theorem points_tellings (s t : State) :
    (s.tellings t).filterMap Telling.point? = news s.generator.points t.generator.points := by
  simp [State.tellings, List.filterMap_map, Function.comp_def, Telling.point?]

/-- The diagnostics that are told are those that the outcome has, in order. -/
theorem reports_told (limits : Limits) (s : State) (es : List Event) :
    (told limits s es).filterMap Telling.report? =
      news s.reports (es.foldl (step limits) s).reports := by
  induction es generalizing s with
  | nil => simp [told, news]
  | cons e es ih =>
    rw [told, List.filterMap_append, reports_tellings, ih, List.foldl_cons]
    exact (news_trans (suffix_step limits s e).1 (suffix_foldl_step limits _ es).1).symm

/-- The steps that are told are those that the generator has, in order. -/
theorem points_told (limits : Limits) (s : State) (es : List Event) :
    (told limits s es).filterMap Telling.point? =
      news s.generator.points (es.foldl (step limits) s).generator.points := by
  induction es generalizing s with
  | nil => simp [told, news]
  | cons e es ih =>
    rw [told, List.filterMap_append, points_tellings, ih, List.foldl_cons]
    exact (news_trans (suffix_step limits s e).2 (suffix_foldl_step limits _ es).2).symm

/-! ### Bags and tracers -/

/-- A bag behind a channel, with the filter of the channel. -/
def channelListener (c : Channel) : Listener (Dedup × Bag) where
  hear x
    | .point _ => x
    | .report r =>
      if c.admits r.origin then
        if c.dedup then
          match x.1.pass r.diagnostic with
          | (true, seen) => (seen, x.2.add r.diagnostic)
          | (false, seen) => (seen, x.2)
        else (x.1, x.2.add r.diagnostic)
      else x

/-- A tracer that is told the steps at node scope. -/
def sessionListener : Listener Trace.Session where
  hear x
    | .point p => x.point .node p.name p.detail
    | .report _ => x

theorem foldl_channelListener (c : Channel) (x : Dedup × Bag) (ts : List Telling) :
    (ts.foldl (channelListener c).hear x).2 =
      let ds := ((ts.filterMap Telling.report?).filter fun r => c.admits r.origin).map
        Report.diagnostic
      x.2.addAll (if c.dedup then Dedup.filter x.1 ds else ds) := by
  induction ts generalizing x with
  | nil => cases hdedup : c.dedup <;> rfl
  | cons t ts ih =>
    rw [List.foldl_cons, ih]
    cases t with
    | point p => rfl
    | report r =>
      cases hadmits : c.admits r.origin with
      | false => simp [channelListener, Telling.report?, hadmits]
      | true =>
        cases hdedup : c.dedup with
        | false => simp [channelListener, Telling.report?, hadmits, hdedup, Bag.addAll]
        | true =>
          rcases hpass : x.1.pass r.diagnostic with ⟨_ | _, seen⟩ <;>
            simp [channelListener, Telling.report?, hadmits, hdedup, hpass, Bag.addAll,
              Dedup.filter]

theorem foldl_sessionListener (x : Trace.Session) (ts : List Telling) :
    ts.foldl sessionListener.hear x = x.points (ts.filterMap Telling.point?) := by
  induction ts generalizing x with
  | nil => rfl
  | cons t ts ih =>
    rw [List.foldl_cons, ih]
    cases t <;> rfl

/-- A bag that listens ends as if everything had been delivered afterwards. -/
theorem heard_channel (c : Channel) (b : Bag) (limits : Limits) (g : Generator)
    (ls : List Lexeme) :
    (heard (channelListener c) ({}, b) limits g ls).2.2 = (run limits g ls).deliver c b := by
  have hreports := reports_told limits (.start limits g) (parseProgram (.ofLexemes ls))
  have hall : news (State.start limits g).reports
      ((parseProgram (.ofLexemes ls)).foldl (step limits) (.start limits g)).reports =
        (run limits g ls).reports :=
    (eq_append_news (List.nil_suffix)).symm
  rw [snd_heard, foldl_channelListener, hreports, hall]
  rfl

/-- A tracer that listens ends as if all steps had been told afterwards. -/
theorem heard_session (x : Trace.Session) (limits : Limits) {g : Generator} (hg : g.points = [])
    (ls : List Lexeme) :
    (heard sessionListener x limits g ls).2 =
      x.points (run limits g ls).generator.points.reverse := by
  have hpoints := points_told limits (.start limits g) (parseProgram (.ofLexemes ls))
  have hstart : (State.start limits g).generator.points = [] := hg
  rw [hstart] at hpoints
  rw [snd_heard, foldl_sessionListener, hpoints]
  exact congrArg x.points (eq_append_news (List.nil_suffix)).symm

end Analysis

end ThreeAddress
