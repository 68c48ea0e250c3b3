import ThreeAddress.Proofs.Analysis.Rereading
import ThreeAddress.Proofs.Lexer.Relayout
import ThreeAddress.Proofs.Parse.Places

/-!
# Code does not depend on places

What the analysis makes of events depends on the kinds and texts of their tokens, not on where these
stand. So a source that is laid out anew has the same code and the same counts, even if there are
errors in it; only what is told about it names other places.

States are compared without the places of their operands, without their reports and without the
place of a failure (`State.erase`), and every event keeps them the same.

## Main definitions

* `State.erase` : a state without places and reports.

## Main results

* `Generator.reduce_erase` : lowering does not read places.
* `Analysis.erase_act`, `Analysis.erase_step` : neither does the analysis of an event.
* `Analysis.run_relayout` : the code of a source that is laid out anew.
-/

namespace ThreeAddress

namespace Expr

@[simp] theorem erase_erase (e : Expr) : e.erase.erase = e.erase := by
  induction e with
  | arithmetic op type l r hl hr => rw [erase, erase, hl, hr]
  | unary op type x hx => rw [erase, erase, hx]
  | index a i hi => rw [erase, erase, hi]
  | _ => rfl

@[simp] theorem render_erase (e : Expr) : e.erase.render = e.render := by
  induction e with
  | arithmetic op type l r hl hr => rw [erase, render, render, hl, hr]
  | unary op type x hx => rw [erase, render, render, hx]
  | index a i hi => rw [erase, render, render, hi]
  | _ => rfl

@[simp] theorem operandType_erase (e : Expr) : e.erase.operandType = e.operandType := by
  rw [operandType, operandType, type?_erase]

@[simp] theorem operations_erase (e : Expr) : e.erase.operations = e.operations := by
  induction e with
  | arithmetic op type l r hl hr => rw [erase, operations, operations, hl, hr]
  | unary op type x hx => rw [erase, operations, operations, hx]
  | index a i hi => rw [erase, operations, operations, hi]
  | _ => rfl

@[simp] theorem operand_erase (n : UInt64) (e : Expr) : e.erase.operand n = e.operand n := by
  cases e with
  | arithmetic op type l r => simp [erase, operand, atom]
  | unary op type x => simp [erase, operand, atom]
  | index a i => simp [erase, operand, atom]
  | _ => rfl

/-- Instructions do not tell places. -/
@[simp] theorem code_erase (n : UInt64) (e : Expr) : e.erase.code n = e.code n := by
  induction e generalizing n with
  | arithmetic op type l r hl hr => simp [erase, code, hl, hr]
  | unary op type x hx => simp [erase, code, hx]
  | index a i hi => simp [erase, code, hi]
  | _ => rfl

theorem bind_ok {α β : Type} (a : α) (f : α → Except BuildError β) : (Except.ok a >>= f) = f a :=
  rfl

theorem newArithmetic_erase (op : TokenKind) (l r : Expr) :
    newArithmetic op l.erase r.erase = (newArithmetic op l r).map erase := by
  unfold newArithmetic
  rw [operandType_erase, operandType_erase]
  split
  · cases l.operandType with
    | error e => rfl
    | ok s =>
      cases r.operandType with
      | error e => rfl
      | ok t =>
        simp only [bind_ok]
        cases s.upcast? t <;> rfl
  · rfl

theorem newUnary_erase (op : TokenKind) (x : Expr) :
    newUnary op x.erase = (newUnary op x).map erase := by
  unfold newUnary
  rw [operandType_erase]
  split
  · cases x.operandType with
    | error e => rfl
    | ok t =>
      simp only [bind_ok]
      cases DataType.int64.upcast? t <;> rfl
  · rfl

end Expr

/-! ### Lowering -/

namespace Generator

theorem run_map {α β : Type} (f : α → β) (x : Lower α) (g : Generator) :
    (f <$> x).run g = match x.run g with
      | .ok a g' => .ok (f a) g'
      | .error e g' => .error e g' := by
  show EStateM.map f x g = _
  unfold EStateM.map EStateM.run
  cases x g <;> rfl

theorem build_map (x : Except BuildError Expr) :
    build (x.map Expr.erase) = Expr.erase <$> build x := by
  cases x with
  | ok e => rfl
  | error e => rfl

theorem store_erase (op : Opcode) (node : Expr) : store op node.erase = store op node := by
  simp only [store, Expr.type?_erase, Expr.render_erase]

theorem map_store (op : Opcode) (node : Expr) : Expr.erase <$> store op node = store op node := by
  unfold store
  cases node.type? with
  | none => rfl
  | some type => simp [map_bind, Expr.erase]

/-- Lowering does not read places. -/
theorem reduce_erase (e : Expr) : reduce e.erase = Expr.erase <$> reduce e := by
  induction e with
  | absent => rfl
  | identifier id => rfl
  | constant t type => rfl
  | temporary id type => rfl
  | arithmetic op type l r hl hr =>
    simp only [Expr.erase, reduce, hl, hr, map_bind, bind_map_left, Expr.newArithmetic_erase,
      build_map, store_erase, map_store]
  | unary op type x hx =>
    simp only [Expr.erase, reduce, hx, map_bind, bind_map_left, Expr.newUnary_erase, build_map,
      store_erase, map_store]
  | index a i hi =>
    simp only [Expr.erase, reduce, hi, map_bind, bind_map_left, map_store]
    congr 1
    funext place
    exact store_erase .idx (.index a place)

end Generator

namespace Analysis

open Parse (Event Input parseProgram)

variable {limits : Limits} {s t : State}

/-! ### States -/

/-- An operand without its places. -/
def Operand.erase (o : Operand) : Operand :=
  ⟨o.expr.map Expr.erase, {}⟩

@[simp] theorem Operand.erase_erase (o : Operand) : o.erase.erase = o.erase := by
  simp [Operand.erase, Function.comp_def]

/-- A phase without the place of a failure. -/
def Phase.erase : Phase → Phase
  | .running => .running
  | .failing f => .failing { f with span := {} }
  | .stopped f => .stopped { f with span := {} }

@[simp] theorem Phase.erase_erase (p : Phase) : p.erase.erase = p.erase := by
  cases p <;> rfl

namespace State

/-- A state without the places of its operands and of a failure, and without reports. -/
def erase (s : State) : State :=
  { s with
    operands := s.operands.map Operand.erase
    reports := []
    errors := 0
    phase := s.phase.erase }

@[simp] theorem erase_erase (s : State) : s.erase.erase = s.erase := by
  simp [erase, Function.comp_def]

theorem erase_report (limits : Limits) (s : State) (d : Diagnostic) :
    (s.report limits d).erase = s.erase := by
  unfold report
  extract_lets
  split <;> rfl

/-! Two states that are the same but for places stay so. -/

theorem erase_pushOperand (h : s.erase = t.erase) (x : Option Expr) (a b : Span) :
    (s.pushOperand x a).erase = (t.pushOperand (x.map Expr.erase) b).erase := by
  have hoperand : Operand.erase ⟨x, a⟩ = Operand.erase ⟨x.map Expr.erase, b⟩ := by
    simp [Operand.erase, Function.comp_def]
  show ({ s.erase with operands := Operand.erase ⟨x, a⟩ :: s.erase.operands } : State) =
    { t.erase with operands := Operand.erase ⟨x.map Expr.erase, b⟩ :: t.erase.operands }
  rw [h, hoperand]

theorem erase_refuse (limits limits' : Limits) (h : s.erase = t.erase) (d d' : Diagnostic)
    (a b : Span) : ((s.report limits d).pushOperand none a).erase =
      ((t.report limits' d').pushOperand none b).erase :=
  erase_pushOperand (by rw [erase_report, erase_report, h]) none a b

theorem erase_pushBuilt (limits limits' : Limits) (h : s.erase = t.erase) (a b : Span)
    (x : Except BuildError Expr) : (s.pushBuilt limits a x).erase =
      (t.pushBuilt limits' b (x.map Expr.erase)).erase := by
  cases x with
  | ok e => exact erase_pushOperand h (some e) a b
  | error e => exact erase_refuse limits limits' h _ _ a b

theorem erase_withOperands (s : State) (os : List Operand) :
    ({ s with operands := os } : State).erase =
      ({ s.erase with operands := os.map Operand.erase } : State).erase := by
  simp [erase, Function.comp_def]

theorem erase_warned (limits : Limits) (s : State) (n : Token) :
    (s.warned limits n).erase = s.erase := by
  obtain h | ⟨d, h⟩ := @warned_eq limits s n
  · rw [h]
  · rw [h, erase_report]

theorem erase_declare (limits : Limits) (s : State) (n : Token) (type : DataType) :
    (s.declare limits n type).erase = (s.erase.declare {} n.erase type).erase := by
  have hwarned : (s.warned limits n).erase = (s.erase.warned {} n.erase).erase := by
    rw [erase_warned, erase_warned, erase_erase]
  rw [declare_eq, declare_eq]
  unfold reserved
  rw [env_warned, env_warned, show s.erase.env = s.env from rfl,
    show n.erase.text = n.text from rfl]
  split
  · rw [erase_report, erase_report, hwarned]
  · rename_i env _
    exact (congrArg (fun u : State => { u with
      env := env
      counts := { u.counts with
        declarations := u.counts.declarations + 1
        maxFrame := if u.counts.maxFrame ≤ env.frame then env.frame else u.counts.maxFrame } })
      hwarned :)

theorem erase_name (limits : Limits) (s : State) (n : Token) :
    (s.name limits n).erase = (s.erase.name {} n.erase).erase := by
  unfold name
  rw [show s.erase.env = s.env from rfl, show n.erase.text = n.text from rfl]
  split
  · exact erase_pushOperand s.erase_erase.symm _ _ _
  · exact erase_refuse _ _ s.erase_erase.symm _ _ _ _

theorem erase_literal (limits : Limits) (s : State) (n : Token) :
    (s.literal limits n).erase = (s.erase.literal {} n.erase).erase := by
  have hsame := s.erase_erase.symm
  unfold literal
  rw [show n.erase.kind = n.kind from rfl, show n.erase.text = n.text from rfl]
  split
  · split
    · exact erase_pushOperand hsame _ _ _
    · exact erase_refuse _ _ hsame _ _ _ _
  · split
    · exact erase_pushOperand hsame _ _ _
    · exact erase_refuse _ _ hsame _ _ _ _
  · exact erase_pushOperand hsame _ _ _
  · exact erase_pushOperand hsame _ _ _

theorem erase_binary (limits : Limits) (s : State) (op : Token) :
    (s.binary limits op).erase = (s.erase.binary {} op.erase).erase := by
  have herased : s.erase.operands = s.operands.map Operand.erase := rfl
  unfold binary
  rw [herased]
  rcases s.operands with _ | ⟨⟨right, b⟩, _ | ⟨⟨left, a⟩, below⟩⟩
  · exact s.erase_erase.symm
  · exact s.erase_erase.symm
  · have hbelow := s.erase_withOperands below
    rcases left with _ | l
    · exact erase_pushOperand hbelow none _ _
    · rcases right with _ | r
      · exact erase_pushOperand hbelow none _ _
      · have hbuilt := erase_pushBuilt limits {} hbelow (a.cover b) ({} : Span)
          (Expr.newArithmetic op.kind l r)
        rw [← Expr.newArithmetic_erase] at hbuilt
        exact hbuilt

theorem erase_unary (limits : Limits) (s : State) (op : Token) :
    (s.unary limits op).erase = (s.erase.unary {} op.erase).erase := by
  have herased : s.erase.operands = s.operands.map Operand.erase := rfl
  unfold unary
  rw [herased]
  rcases s.operands with _ | ⟨⟨inner, a⟩, below⟩
  · exact s.erase_erase.symm
  · have hbelow := s.erase_withOperands below
    rcases inner with _ | x
    · exact erase_pushOperand hbelow none _ _
    · have hbuilt := erase_pushBuilt limits {} hbelow (op.span.cover a) ({} : Span)
        (Expr.newUnary op.kind x)
      rw [← Expr.newUnary_erase] at hbuilt
      exact hbuilt

theorem erase_group (s : State) (opening closing : Span) :
    (s.group opening closing).erase = (s.erase.group {} {}).erase := by
  have herased : s.erase.operands = s.operands.map Operand.erase := rfl
  unfold group
  rw [herased]
  rcases s.operands with _ | ⟨⟨inner, a⟩, below⟩
  · exact s.erase_erase.symm
  · exact erase_withOperands s _

theorem erase_index (limits : Limits) (s : State) (closing : Span) :
    (s.index limits closing).erase = (s.erase.index {} {}).erase := by
  have herased : s.erase.operands = s.operands.map Operand.erase := rfl
  unfold index
  rw [herased]
  rcases s.operands with _ | ⟨⟨place, b⟩, _ | ⟨⟨array, a⟩, below⟩⟩
  · exact s.erase_erase.symm
  · exact s.erase_erase.symm
  · have hbelow := s.erase_withOperands below
    have hnone := erase_pushOperand hbelow none (a.cover closing) (({} : Span).cover {})
    rcases array with _ | (_ | id | _ | _ | _ | _ | _)
    case some.identifier =>
      rcases place with _ | i
      · exact hnone
      · simp only [List.map_cons, Operand.erase, Option.map_some, Expr.erase]
        split
        · exact erase_pushOperand hbelow (some (.index id i)) _ _
        · exact erase_refuse _ _ hbelow _ _ _ _
    all_goals exact hnone

theorem erase_lower (h : s.erase = t.erase) (e : Expr) (a b : Span) :
    (s.lower e a).erase = (t.lower e.erase b).erase := by
  have hgenerator : s.generator = t.generator := (congrArg State.generator h :)
  unfold lower
  rw [Expr.render_erase, hgenerator]
  extract_lets observed
  have hmap : (do observed; Generator.reduce e.erase : Lower Expr) =
      Expr.erase <$> (do observed; Generator.reduce e : Lower Expr) := by
    rw [Generator.reduce_erase, map_bind]
  rw [hmap, Generator.run_map]
  cases (do observed; Generator.reduce e : Lower Expr).run t.generator with
  | ok x g =>
    exact (congrArg (fun u : State => { u with
      generator := g
      counts := { u.counts with statements := u.counts.statements + 1 } }) h :)
  | error cause g =>
    exact (congrArg (fun u : State => { u with
      generator := g
      phase := .failing ⟨{}, cause⟩ }) h :)

theorem erase_finish (s : State) : s.finish.erase = s.erase.finish.erase := by
  have herased : s.erase.operands = s.operands.map Operand.erase := rfl
  have hbelow := s.erase_withOperands []
  unfold finish
  rw [herased]
  rcases s.operands with _ | ⟨⟨_ | e, a⟩, below⟩
  · exact hbelow
  · exact hbelow
  · exact erase_lower hbelow e a {}

end State

/-! ### Events -/

/-- What the analysis makes of an event does not depend on places, nor on the bound on errors. -/
theorem erase_act (limits : Limits) (s : State) (e : Event) :
    (act limits s e).erase = (act {} s.erase e.erase).erase := by
  have hsame := s.erase_erase.symm
  cases e with
  | look l => exact hsame
  | complain d =>
    exact (s.erase_report limits d).trans (hsame.trans (s.erase.erase_report {} default).symm)
  | openBlock => exact (congrArg (fun u : State => { u with env := u.env.push }) hsame :)
  | closeBlock => exact (congrArg (fun u : State => { u with env := u.env.pop }) hsame :)
  | declare t type => exact s.erase_declare limits t type
  | name t => exact s.erase_name limits t
  | literal t => exact s.erase_literal limits t
  | invalid span => exact State.erase_pushOperand hsame none span {}
  | binary op => exact s.erase_binary limits op
  | unary op => exact s.erase_unary limits op
  | group opening closing => exact s.erase_group opening closing
  | index closing => exact s.erase_index limits closing
  | finish => exact s.erase_finish
  | abandon => exact s.erase_withOperands []

/-- Neither does a step. -/
theorem erase_step (limits : Limits) (s : State) (e : Event) :
    (step limits s e).erase = (step {} s.erase e.erase).erase := by
  have hsame := s.erase_erase.symm
  unfold step
  rw [show s.erase.phase = s.phase.erase from rfl]
  cases s.phase with
  | running => exact erase_act limits s e
  | stopped failure => exact hsame
  | failing failure =>
    cases e with
    | look l =>
      simp only [Phase.erase, Event.erase, Token.erase]
      split
      · exact hsame
      · exact (congrArg (fun u : State => { u with phase := .stopped { failure with span := {} } })
          hsame :)
    | closeBlock =>
      exact (congrArg (fun u : State => { u with
        env := u.env.pop
        phase := .failing { failure with span := {} } }) hsame :)
    | _ =>
      exact (congrArg (fun u : State => { u with phase := .stopped { failure with span := {} } })
        hsame :)

/-- Events that are the same but for places keep states the same. -/
theorem erase_foldl (limits limits' : Limits) {es fs : List Event} (h : s.erase = t.erase)
    (hevents : es.map Event.erase = fs.map Event.erase) :
    (es.foldl (step limits) s).erase = (fs.foldl (step limits') t).erase := by
  induction es generalizing s t fs with
  | nil =>
    obtain rfl := List.map_eq_nil_iff.mp hevents.symm
    exact h
  | cons e es ih =>
    obtain ⟨e', fs', rfl, he, hfs⟩ := List.map_eq_cons_iff.mp hevents.symm
    have hstep : (step limits s e).erase = (step limits' t e').erase := by
      rw [erase_step limits s, erase_step limits' t, h, he]
    rw [List.foldl_cons, List.foldl_cons]
    exact ih hstep hfs.symm

/-- Lexemes of the same words make inputs that are the same but for places. -/
theorem alike_ofLexemes {ls ms : List Lexeme}
    (h : (ls.map fun l => l.token.word) = ms.map fun l => l.token.word) :
    (Input.ofLexemes ls).Alike (Input.ofLexemes ms) := by
  have hahead (ls : List Lexeme) : ((Input.ofLexemes ls).ahead.map fun l => l.token.erase) =
      ((ls.map fun l => l.token.word).takeWhile fun w => w.kind != .endOfFile).map
        fun w => ⟨w.kind, {}, w.text⟩ := by
    rw [List.takeWhile_map, List.map_map]
    rfl
  exact ⟨by rw [hahead, hahead, h], rfl⟩

/-- The analysis of a source depends on the words of its lexemes only. -/
theorem run_of_words (limits limits' : Limits) (g : Generator) {ls ms : List Lexeme}
    (h : (ls.map fun l => l.token.word) = ms.map fun l => l.token.word) :
    (run limits g ls).generator = (run limits' g ms).generator ∧
      (run limits g ls).counts = (run limits' g ms).counts := by
  have hstart : (State.start limits g).erase = (State.start limits' g).erase := rfl
  have hfinal := erase_foldl limits limits' hstart
    (Parse.erase_parseProgram _ _ (alike_ofLexemes h))
  exact ⟨(congrArg State.generator hfinal :), (congrArg State.counts hfinal :)⟩

/-- A source that is laid out anew, with other separators between its tokens, has the same tokens
but for their places, and the same code and counts. -/
theorem run_relayout (limits limits' : Limits) (g : Generator) {f f' : SourceFile}
    (hsize : f.content.length < UInt32.size - 1)
    (hvalid : ∀ l ∈ f.lexemes, l.token.kind ≠ .invalid)
    (hsize' : f'.content.length < UInt32.size - 1)
    (h : Separated IsSeparator f.pieces f'.content) :
    (f'.lexemes.map fun l => (l.token.kind, l.token.text)) =
        (f.lexemes.map fun l => (l.token.kind, l.token.text)) ∧
      (run limits' g f'.lexemes).generator = (run limits g f.lexemes).generator ∧
      (run limits' g f'.lexemes).counts = (run limits g f.lexemes).counts := by
  have hwords := SourceFile.words_of_separated (Nat.lt_of_lt_of_le hsize (Nat.sub_le _ _)) hvalid
    (Nat.lt_of_lt_of_le hsize' (Nat.sub_le _ _)) h
  refine ⟨?_, run_of_words limits' limits g hwords⟩
  have hpairs := congrArg (List.map fun w : Word => (w.kind, w.text)) hwords
  rwa [List.map_map, List.map_map] at hpairs

/-- A quotient without blanks. -/
def denseSource : SourceFile :=
  .ofContent 0 (utf8 "a.ez") (utf8 "6/'a';") 0

/-- The same quotient, with blanks and comments. -/
def looseSource : SourceFile :=
  .ofContent 0 (utf8 "b.ez") (utf8 "6 // six\n/\t'a' // the end\n ;") 0

theorem separated_looseSource : Separated IsSeparator denseSource.pieces looseSource.content := by
  have hcomment {text rest : Bytes} (htext : '\n'.toUInt8 ∉ text) (hrest : IsTrivia false rest) :
      IsSeparator (' '.toUInt8 :: (utf8 "//" ++ text ++ '\n'.toUInt8 :: rest)) :=
    ⟨_, _, by decide, .comment htext hrest, rfl⟩
  have hsix : IsSeparator (utf8 " // six\n") := hcomment (by decide : _ ∉ utf8 " six") .nil
  have htab : IsSeparator (utf8 "\t") := ⟨_, [], by decide, .nil, rfl⟩
  have hend : IsSeparator (utf8 " // the end\n ") :=
    hcomment (by decide : _ ∉ utf8 " the end") (.blank (by decide) .nil)
  have hpieces : denseSource.pieces = [utf8 "6", utf8 "/", utf8 "'a'", utf8 ";"] := by
    decide +kernel
  have hcontent : looseSource.content = utf8 "6" ++ utf8 " // six\n" ++ (utf8 "/" ++ utf8 "\t" ++
      (utf8 "'a'" ++ utf8 " // the end\n " ++ utf8 ";")) := by
    decide +kernel
  rw [hpieces, hcontent]
  exact .cons hsix (.cons htab (.cons hend (.single _)))

/-- The slash between comments is still the operator, and the code is that without blanks. -/
theorem run_relayout_looseSource :
    (looseSource.lexemes.map fun l => (l.token.kind, l.token.text)) =
        [(.integer, utf8 "6"), (.slash, utf8 "/"), (.char, utf8 "'a'"), (.semicolon, utf8 ";"),
          (.endOfFile, [])] ∧
      (run {} {} looseSource.lexemes).generator = (run {} {} denseSource.lexemes).generator ∧
      (run {} {} looseSource.lexemes).counts = (run {} {} denseSource.lexemes).counts := by
  obtain ⟨hwords, hcode⟩ := run_relayout {} {} {} (by decide +kernel) (by decide +kernel)
    (by decide +kernel) separated_looseSource
  exact ⟨hwords.trans (by decide +kernel), hcode⟩

end Analysis

end ThreeAddress
