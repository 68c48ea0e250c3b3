import ThreeAddress.Proofs.Analysis.Syntax
import ThreeAddress.Proofs.Analysis.WellFormed
import ThreeAddress.Proofs.Code.Acceptance

/-!
# What an analysis emits

The code of a source is the listing of the expressions that are lowered, one after another. Each
node of such an expression was made by an event, so there are at most as many instructions as
tokens, and their temporaries never wrap around.

## Main definitions

* `lowered` : the expressions that a source is lowered from.
* `MakesOperands` : what an event makes of the operands.

## Main results

* `text_final` : the emitted text is that of the listing.
* `lowered_of_isProgram` : the expressions lowered from a derived source come from its tree.
* `totalOperations_lowered` : there are at most as many instructions as bytes in the source.
* `exists_numbered_lines` : the instructions write consecutive temporaries.
-/

namespace ThreeAddress.Analysis

open Parse (Event parseProgram operators significant)

variable {limits : Limits} {s : State}

/-- The expression that an event lowers. -/
def State.lowering (s : State) : Event → List Expr
  | .finish => match s.operands with
    | ⟨some x, _⟩ :: _ => [x]
    | _ => []
  | _ => []

/-- Only the end of an expression statement lowers something. -/
theorem State.lowering_of_ne {e : Event} (he : e ≠ .finish) : s.lowering e = [] := by
  cases e with
  | finish => exact absurd rfl he
  | _ => rfl

/-- What is lowered is an operand. -/
theorem State.exists_operand_of_lowering {e : Event} {x : Expr} (hx : x ∈ s.lowering e) :
    ∃ o ∈ s.operands, o.expr = some x := by
  unfold State.lowering at hx
  split at hx
  · split at hx
    · rename_i y span below hops
      obtain rfl := List.mem_singleton.mp hx
      exact ⟨_, by rw [hops]; exact List.mem_cons_self, rfl⟩
    · cases hx
  · cases hx

/-- The expressions that events lower, in order. -/
def loweredFrom (limits : Limits) (s : State) : List Event → List Expr
  | [] => []
  | e :: es => s.lowering e ++ loweredFrom limits (act limits s e) es

/-- The expressions of a source that are lowered. -/
def lowered (limits : Limits) (g : Generator) (f : SourceFile) : List Expr :=
  loweredFrom limits (.start limits g) (parseProgram f.input)

/-! ### The operands -/

/-- What an event makes of the operands. -/
inductive MakesOperands (s : State) : Event → List Operand → Prop where
  | same {e : Event} : MakesOperands s e s.operands
  | cleared {e : Event} (he : e = .finish ∨ e = .abandon) : MakesOperands s e []
  | refused {e : Event} (span : Span) {below : List Operand} (h : below <:+ s.operands) :
      MakesOperands s e (⟨none, span⟩ :: below)
  | name {t : Token} {id : Identifier} (h : s.env.get? t.text = some id) :
      MakesOperands s (.name t) (⟨some (.identifier id), t.span⟩ :: s.operands)
  | literal {t : Token} {type : DataType}
      (h : t.kind.isLiteral = true → HasType [] (.literal t) type) :
      MakesOperands s (.literal t) (⟨some (.constant t type), t.span⟩ :: s.operands)
  | binary {op : Token} {l r : Expr} {a b : Span} {below : List Operand} (type : DataType)
      (span : Span) (h : s.operands = ⟨some r, b⟩ :: ⟨some l, a⟩ :: below) :
      MakesOperands s (.binary op) (⟨some (.arithmetic op.kind type l r), span⟩ :: below)
  | unary {op : Token} {x : Expr} {a : Span} {below : List Operand} (type : DataType) (span : Span)
      (h : s.operands = ⟨some x, a⟩ :: below) :
      MakesOperands s (.unary op) (⟨some (.unary op.kind type x), span⟩ :: below)
  | group {opening closing : Span} {o : Operand} {below : List Operand}
      (h : s.operands = o :: below) :
      MakesOperands s (.group opening closing) (⟨o.expr, opening.cover closing⟩ :: below)
  | index {closing : Span} {id : Identifier} {i : Expr} {a b : Span} {below : List Operand}
      (span : Span) (h : s.operands = ⟨some i, b⟩ :: ⟨some (.identifier id), a⟩ :: below) :
      MakesOperands s (.index closing) (⟨some (.index id i), span⟩ :: below)

theorem suffix_of_cons {o : Operand} {below : List Operand} (h : s.operands = o :: below) :
    below <:+ s.operands := by
  rw [h]
  exact List.suffix_cons _ _

theorem suffix_of_cons_cons {o p : Operand} {below : List Operand}
    (h : s.operands = o :: p :: below) : below <:+ s.operands :=
  (List.suffix_cons p below).trans (suffix_of_cons h)

theorem makesOperands_literal (t : Token) :
    MakesOperands s (.literal t) (s.literal limits t).operands := by
  have hbad (d : Diagnostic) : MakesOperands s (.literal t)
      ((s.report limits d).pushOperand none t.span).operands := by
    rw [State.pushOperand, State.operands_report]
    exact .refused _ (List.suffix_refl _)
  unfold State.literal
  split
  · rename_i hkind
    split
    · rename_i v hv
      exact .literal fun _ => .integer hkind hv
    · exact hbad _
  · rename_i hkind
    split
    · rename_i hv
      exact .literal fun _ => .float hkind hv
    · exact hbad _
  · rename_i hkind
    exact .literal fun _ => .char hkind
  · rename_i hint hfloat hchar
    refine .literal fun hlit => .truth ?_
    revert hint hfloat hchar hlit
    cases t.kind <;> simp [TokenKind.isLiteral]

theorem makesOperands_name (t : Token) : MakesOperands s (.name t) (s.name limits t).operands := by
  unfold State.name
  split
  · rename_i id hid
    exact .name hid
  · rw [State.pushOperand, State.operands_report]
    exact .refused _ (List.suffix_refl _)

theorem makesOperands_binary (op : Token) :
    MakesOperands s (.binary op) (s.binary limits op).operands := by
  unfold State.binary
  split
  · rename_i right left below hops
    obtain ⟨x, b⟩ := right
    obtain ⟨y, a⟩ := left
    have hbelow : below <:+ s.operands := suffix_of_cons_cons hops
    dsimp only
    split
    · rename_i l r _ _
      unfold State.pushBuilt
      split
      · rename_i e he
        obtain ⟨-, σ, τ, type, -, -, -, rfl⟩ := Expr.newArithmetic_eq_ok.mp he
        exact .binary type _ hops
      · rw [State.pushOperand, State.operands_report]
        exact .refused _ hbelow
    · exact .refused _ hbelow
  · exact .same

theorem makesOperands_unary (op : Token) :
    MakesOperands s (.unary op) (s.unary limits op).operands := by
  unfold State.unary
  split
  · rename_i inner below hops
    obtain ⟨x, a⟩ := inner
    have hbelow : below <:+ s.operands := suffix_of_cons hops
    dsimp only
    split
    · unfold State.pushBuilt
      split
      · rename_i e he
        obtain ⟨-, τ, type, -, -, rfl⟩ := Expr.newUnary_eq_ok.mp he
        exact .unary type _ hops
      · rw [State.pushOperand, State.operands_report]
        exact .refused _ hbelow
    · exact .refused _ hbelow
  · exact .same

theorem makesOperands_index (closing : Span) :
    MakesOperands s (.index closing) (s.index limits closing).operands := by
  unfold State.index
  split
  · rename_i place array below hops
    obtain ⟨x, b⟩ := place
    obtain ⟨y, a⟩ := array
    have hbelow : below <:+ s.operands := suffix_of_cons_cons hops
    dsimp only
    split
    · split
      · exact .index _ hops
      · rw [State.pushOperand, State.operands_report]
        exact .refused _ hbelow
    · exact .refused _ hbelow
  · exact .same

/-- Completing a statement changes only the generator, the counts and the phase, and it takes the
operands. -/
theorem finish_eq (s : State) :
    ∃ g counts phase,
      s.finish = { s with operands := [], generator := g, counts := counts, phase := phase } := by
  unfold State.finish
  split
  · unfold State.lower
    dsimp only
    split
    · exact ⟨_, _, _, rfl⟩
    · exact ⟨_, _, _, rfl⟩
  · exact ⟨s.generator, s.counts, s.phase, rfl⟩

theorem operands_finish : s.finish.operands = [] := by
  obtain ⟨g, counts, phase, h⟩ := finish_eq s
  rw [h]

theorem env_finish : s.finish.env = s.env := by
  obtain ⟨g, counts, phase, h⟩ := finish_eq s
  rw [h]

/-- Lowering reports nothing. -/
theorem reports_finish : s.finish.reports = s.reports := by
  obtain ⟨g, counts, phase, h⟩ := finish_eq s
  rw [h]

theorem operands_declare (name : Token) (type : DataType) :
    (s.declare limits name type).operands = s.operands := by
  rw [State.declare_eq]
  unfold State.reserved
  split
  · rw [State.operands_report, State.operands_warned]
  · exact State.operands_warned name

/-- Acting on an event makes the operands as described. -/
theorem makesOperands_act (e : Event) : MakesOperands s e (act limits s e).operands := by
  cases e with
  | look l => exact .same
  | complain d =>
    rw [act, State.operands_report]
    exact .same
  | openBlock => exact .same
  | closeBlock => exact .same
  | declare name type =>
    rw [act, operands_declare]
    exact .same
  | name t => exact makesOperands_name t
  | literal t => exact makesOperands_literal t
  | invalid span => exact .refused span (List.suffix_refl _)
  | binary op => exact makesOperands_binary op
  | unary op => exact makesOperands_unary op
  | group opening closing =>
    show MakesOperands s _ (s.group opening closing).operands
    unfold State.group
    split
    · rename_i inner below hops
      exact .group hops
    · exact .same
  | index closing => exact makesOperands_index closing
  | finish =>
    rw [act, operands_finish]
    exact .cleared (.inl rfl)
  | abandon => exact .cleared (.inr rfl)

/-- What holds of the leaves of the operands and of the leaf that an event brings holds of the
leaves of the operands that it makes. -/
theorem MakesOperands.onLeaves {e : Event} {os : List Operand} (hos : MakesOperands s e os)
    {name : Identifier → Prop} {literal : Token → DataType → Prop}
    (hold : ∀ o ∈ s.operands, ∀ x, o.expr = some x → x.OnLeaves name literal)
    (hname : ∀ t id, e = .name t → s.env.get? t.text = some id → name id)
    (hliteral : ∀ t type, e = .literal t →
      (t.kind.isLiteral = true → HasType [] (.literal t) type) → literal t type) :
    ∀ o ∈ os, ∀ x, o.expr = some x → x.OnLeaves name literal := by
  -- a new operand on top of some of the old ones
  have hcons {top : Operand} {below : List Operand} (hbelow : below <:+ s.operands)
      (htop : ∀ x, top.expr = some x → x.OnLeaves name literal) :
      ∀ o ∈ top :: below, ∀ x, o.expr = some x → x.OnLeaves name literal := by
    intro o ho
    rcases List.mem_cons.mp ho with rfl | ho
    · exact htop
    · exact hold o (hbelow.subset ho)
  cases hos with
  | same => exact hold
  | cleared => simp
  | refused span hbelow => exact hcons hbelow (by simp)
  | @name t id hid =>
    refine hcons (List.suffix_refl _) ?_
    rintro x ⟨⟩
    exact hname t id rfl hid
  | @literal t type htype =>
    refine hcons (List.suffix_refl _) ?_
    rintro x ⟨⟩
    exact hliteral t type rfl htype
  | @binary op l r a b below type span hops =>
    have hr := hold ⟨some r, b⟩ (by simp [hops]) r rfl
    have hl := hold ⟨some l, a⟩ (by simp [hops]) l rfl
    refine hcons (suffix_of_cons_cons hops) ?_
    rintro x ⟨⟩
    exact ⟨hl, hr⟩
  | @unary op x a below type span hops =>
    have hx := hold ⟨some x, a⟩ (by simp [hops]) x rfl
    refine hcons (suffix_of_cons hops) ?_
    rintro y ⟨⟩
    exact hx
  | @group opening closing o below hops =>
    refine hcons (suffix_of_cons hops) ?_
    exact hold o (by simp [hops])
  | @index closing id i a b below span hops =>
    have hi := hold ⟨some i, b⟩ (by simp [hops]) i rfl
    have hid := hold ⟨some (.identifier id), a⟩ (by simp [hops]) _ rfl
    refine hcons (suffix_of_cons_cons hops) ?_
    rintro x ⟨⟩
    exact ⟨hid, hi⟩

/-! ### What events leave alone -/

/-- Two states with the same environment, the same generator and the same counts. -/
structure State.Keeps (s t : State) : Prop where
  /-- The environment. -/
  env : t.env = s.env
  /-- The generator. -/
  generator : t.generator = s.generator
  /-- The counts. -/
  counts : t.counts = s.counts

theorem State.Handles.keeps {t : State} (h : s.Handles limits t) : s.Keeps t := by
  cases h with
  | operands os => exact ⟨rfl, rfl, rfl⟩
  | refused below d span =>
    exact ⟨State.env_report d, State.generator_report d, State.counts_report d⟩

/-- Tests for an event that changes scopes. -/
def changesScopes : Event → Bool
  | .openBlock | .closeBlock | .declare _ _ => true
  | _ => false

/-- Events other than those about blocks, declarations and whole statements change neither the
environment nor the generator nor the counts. -/
theorem keeps_act {e : Event} (hscope : changesScopes e = false) (hfinish : e ≠ .finish) :
    s.Keeps (act limits s e) := by
  cases e with
  | look l => exact ⟨rfl, rfl, rfl⟩
  | complain d => exact ⟨State.env_report d, State.generator_report d, State.counts_report d⟩
  | openBlock | closeBlock | declare _ _ => cases hscope
  | finish => exact absurd rfl hfinish
  | _ => exact (handles_act rfl).keeps

theorem generator_declare (name : Token) (type : DataType) :
    (s.declare limits name type).generator = s.generator := by
  rw [State.declare_eq]
  unfold State.reserved
  split
  · rw [State.generator_report, State.generator_warned]
  · exact State.generator_warned name

/-- Only the end of an expression statement emits something. -/
theorem generator_act {e : Event} (he : e ≠ .finish) :
    (act limits s e).generator = s.generator := by
  cases hscope : changesScopes e with
  | false => exact (keeps_act hscope he).generator
  | true =>
    cases e with
    | declare name type => exact generator_declare name type
    | openBlock => rfl
    | closeBlock => rfl
    | _ => cases hscope

/-! ### The emitted text -/

theorem listing_append (es fs : List Expr) (n : Nat) :
    listing n (es ++ fs) = listing n es ++ listing (n + totalOperations es) fs := by
  induction es generalizing n with
  | nil => simp [listing, totalOperations]
  | cons e es ih =>
    simp only [List.cons_append, listing, ih, totalOperations, List.append_assoc, Nat.add_assoc]

theorem totalOperations_append (es fs : List Expr) :
    totalOperations (es ++ fs) = totalOperations es + totalOperations fs := by
  induction es with
  | nil => simp [totalOperations]
  | cons e es ih => rw [List.cons_append, totalOperations, totalOperations, ih, Nat.add_assoc]

/-- One event emits the listing of the expression that it lowers. -/
theorem exists_generator_act (limits : Limits) (h : s.Ready) {n : Nat}
    (hn : s.generator.ids.temps = UInt64.ofNat n) (e : Event) :
    ∃ points, (act limits s e).generator =
      { s.generator.emitted (listing n (s.lowering e)) with points := points } := by
  have hsame {t : State} (hg : t.generator = s.generator) :
      ∃ points, t.generator = { s.generator.emitted (listing n []) with points := points } :=
    ⟨s.generator.points, by rw [hg, listing, Generator.emitted_nil]⟩
  by_cases he : e = .finish
  · subst he
    show ∃ points, s.finish.generator = _
    unfold State.finish State.lowering
    rcases hops : s.operands with _ | ⟨⟨_ | x, span⟩, below⟩
    · exact hsame rfl
    · exact hsame rfl
    · have hx : x.Built := h.built _ (by rw [hops]; exact List.mem_cons_self) x rfl
      have hnone : State.Ready { s with operands := [] } := ⟨h.running, h.working, by simp⟩
      obtain ⟨text, hlower⟩ := State.lower_eq hnone.working hx span
      refine ⟨((s.generator.told text).emitted (x.code s.generator.ids.temps)).points,
        (congrArg State.generator hlower).trans ?_⟩
      simp only [hn, listing, List.append_nil]
      rfl
  · rw [State.lowering_of_ne he]
    exact hsame (generator_act he)

@[simp] theorem length_listing (n : Nat) (es : List Expr) :
    (listing n es).length = totalOperations es := by
  induction es generalizing n with
  | nil => rfl
  | cons e es ih => rw [listing, List.length_append, Expr.length_code, ih, totalOperations]

theorem temps_act (limits : Limits) (h : s.Ready) {n : Nat}
    (hn : s.generator.ids.temps = UInt64.ofNat n) (e : Event) :
    (act limits s e).generator.ids.temps = UInt64.ofNat (n + totalOperations (s.lowering e)) := by
  obtain ⟨points, hg⟩ := exists_generator_act limits h hn e
  rw [hg, UInt64.ofNat_add, ← hn, ← length_listing n]
  rfl

/-- Events emit the listing of the expressions that they lower. -/
theorem chunks_foldl (limits : Limits) (h : s.Ready) {n : Nat}
    (hn : s.generator.ids.temps = UInt64.ofNat n) (es : List Event) :
    (es.foldl (act limits) s).generator.sink.chunks =
      ((listing n (loweredFrom limits s es)).map Instruction.chunk).reverse ++
        s.generator.sink.chunks := by
  induction es generalizing s n with
  | nil => rfl
  | cons e es ih =>
    obtain ⟨points, hg⟩ := exists_generator_act limits h hn e
    rw [List.foldl_cons, ih (ready_act h e) (temps_act limits h hn e), hg, loweredFrom,
      listing_append]
    simp [Generator.emitted]

/-- The text that a source emits to a fresh recorder. -/
theorem text_final (limits : Limits) (f : SourceFile) :
    (final limits {} f).generator.sink.text =
      Sink.unlines ((listing 0 (lowered limits {} f)).map Instruction.line) := by
  have hchunks := chunks_foldl limits (s := .start limits {}) (n := 0)
    (State.ready_start limits .recorder) rfl (parseProgram f.input)
  rw [Sink.text, final, hchunks, List.reverse_append, List.reverse_reverse, Sink.unlines,
    List.flatMap_def, List.map_map]
  rfl

/-- First looks do not matter for what is lowered. -/
theorem loweredFrom_quiet (limits : Limits) (s : State) (es : List Event) :
    loweredFrom limits s es = loweredFrom limits s.quiet (significant es) := by
  induction es generalizing s with
  | nil => rfl
  | cons e es ih =>
    rw [loweredFrom, ih]
    cases he : e.isLook with
    | true =>
      have hfinish : e ≠ .finish := by
        rintro rfl
        cases he
      rw [State.lowering_of_ne hfinish, quiet_act_of_isLook he, Parse.significant_cons_of_isLook he,
        List.nil_append]
    | false =>
      rw [quiet_act he, Parse.significant_cons he, loweredFrom]
      rfl

/-- The expressions of a derived source that are lowered come from its tree. -/
theorem lowered_of_isProgram {f : SourceFile} (h : f.content.length < UInt32.size)
    {b : Parse.Body} (hb : Parse.IsProgram f.tokens b) (limits : Limits) (g : Generator) :
    lowered limits g f = loweredFrom limits (.start limits g) b.events := by
  rw [lowered, loweredFrom_quiet,
    Parse.significant_parseProgram ((SourceFile.isProgram_iff h).mp hb)]
  rfl

/-- First looks at tokens that lexing has nothing to say about change nothing. -/
theorem foldl_significant (limits : Limits) (s : State) {es : List Event}
    (h : ∀ l, .look l ∈ es → l.diagnostics = []) :
    es.foldl (act limits) s = (significant es).foldl (act limits) s := by
  induction es generalizing s with
  | nil => rfl
  | cons e es ih =>
    have hrest : ∀ l, .look l ∈ es → l.diagnostics = [] :=
      fun l hl => h l (List.mem_cons_of_mem _ hl)
    rw [List.foldl_cons, ih _ hrest]
    cases he : e.isLook with
    | true =>
      have hsame : act limits s e = s := by
        cases e with
        | look l => simp [act, State.tellLexeme, h l List.mem_cons_self]
        | _ => cases he
      rw [hsame, Parse.significant_cons_of_isLook he]
    | false => rw [Parse.significant_cons he, List.foldl_cons]

/-- The state behind a derived source that lexing has nothing to say about comes from its tree. -/
theorem final_of_isProgram {f : SourceFile} (h : f.content.length < UInt32.size)
    {b : Parse.Body} (hb : Parse.IsProgram f.tokens b)
    (hsilent : ∀ l ∈ f.lexemes, l.diagnostics = []) (limits : Limits) (g : Generator) :
    final limits g f = b.events.foldl (act limits) (.start limits g) := by
  have hlook (l : Lexeme) (hl : .look l ∈ parseProgram f.input) : l.diagnostics = [] := by
    have hfrom : l ∈ f.input.ahead := Parse.from_parseProgram f.input _ hl
    exact hsilent l (List.takeWhile_sublist _ |>.subset hfrom)
  rw [final, foldl_significant limits _ hlook,
    Parse.significant_parseProgram ((SourceFile.isProgram_iff h).mp hb)]

/-! ### The number of instructions -/

/-- The number of instructions that the operands would be lowered to. -/
def load : List Operand → Nat
  | [] => 0
  | o :: os => (o.expr.map Expr.operations).getD 0 + load os

theorem load_le_of_suffix {os ps : List Operand} (h : os <:+ ps) : load os ≤ load ps := by
  obtain ⟨front, rfl⟩ := h
  induction front with
  | nil => exact Nat.le_refl _
  | cons o front ih => exact Nat.le_add_left_of_le ih

/-- An operator adds one instruction to the operands, and no other event adds any. -/
theorem load_le {e : Event} {os : List Operand} (h : MakesOperands s e os) :
    load os ≤ load s.operands + operators [e] := by
  cases h with
  | same => exact Nat.le_add_right _ _
  | cleared => exact Nat.zero_le _
  | refused span h =>
    have := load_le_of_suffix h
    simp only [load, Option.map_none, Option.getD_none]
    omega
  | name h => simp [load, Expr.operations]
  | literal h => simp [load, Expr.operations]
  | binary type span h =>
    simp [load, h, Expr.operations, operators, Event.isOperator]
    omega
  | unary type span h =>
    simp [load, h, Expr.operations, operators, Event.isOperator]
    omega
  | group h => simp [load, h]
  | index span h =>
    simp [load, h, Expr.operations, operators, Event.isOperator]
    omega

theorem totalOperations_lowering (limits : Limits) (s : State) (e : Event) :
    totalOperations (s.lowering e) + load (act limits s e).operands ≤
      load s.operands + operators [e] := by
  by_cases he : e = .finish
  · subst he
    rw [act, operands_finish]
    unfold State.lowering
    rcases hops : s.operands with _ | ⟨⟨_ | x, span⟩, below⟩ <;>
      simp [totalOperations, load, operators, Event.isOperator]
  · rw [State.lowering_of_ne he]
    simpa [totalOperations] using load_le (makesOperands_act e)

theorem totalOperations_loweredFrom (limits : Limits) (s : State) (es : List Event) :
    totalOperations (loweredFrom limits s es) ≤ load s.operands + operators es := by
  induction es generalizing s with
  | nil => exact Nat.zero_le _
  | cons e es ih =>
    have hstep := totalOperations_lowering limits s e
    have hrest := ih (act limits s e)
    have hcons : operators (e :: es) = operators [e] + operators es :=
      Parse.operators_append [e] es
    rw [loweredFrom, totalOperations_append, hcons]
    omega

/-- A source is lowered to at most as many instructions as it has bytes. -/
theorem totalOperations_lowered {f : SourceFile} (h : f.content.length < UInt32.size)
    (limits : Limits) (g : Generator) :
    totalOperations (lowered limits g f) ≤ f.content.length := by
  obtain ⟨front, stop, -, -, -, hlen, hahead⟩ := f.exists_lexemes h
  have hops := Parse.operators_parseProgram f.input
  have htotal := totalOperations_loweredFrom limits (.start limits g) (parseProgram f.input)
  have hsize : f.input.size = front.length := congrArg List.length hahead
  have hload : load (State.start limits g).operands = 0 := rfl
  rw [lowered]
  omega

/-- No source has so many instructions that their temporaries would wrap around. -/
theorem totalOperations_lowered_le (f : SourceFile) (limits : Limits) (g : Generator) :
    totalOperations (lowered limits g f) ≤ UInt64.size := by
  by_cases h : f.content.length < UInt32.size
  · have hcount := totalOperations_lowered h limits g
    have hsize : UInt32.size ≤ UInt64.size := by decide
    omega
  · -- a source that is too long has no lexemes
    have hnone : f.lexemes = [] := SourceFile.lexemes_eq_nil h
    have hempty : f.input.size = 0 := by
      rw [SourceFile.input, hnone]
      rfl
    have hops := Parse.operators_parseProgram f.input
    have htotal := totalOperations_loweredFrom limits (.start limits g) (parseProgram f.input)
    have hload : load (State.start limits g).operands = 0 := rfl
    rw [lowered]
    omega

/-- The lines that a source emits to a fresh recorder are those of instructions that write
consecutive temporaries from the first one on. -/
theorem exists_numbered_lines (limits : Limits) (f : SourceFile) :
    ∃ is, Numbered 0 is ∧ (run limits {} f.lexemes).generator.sink.lines =
      (is.map Instruction.line).flatMap (Bytes.splitOn '\n'.toUInt8) := by
  refine ⟨listing 0 (lowered limits {} f), numbered_listing _ ?_, ?_⟩
  · rw [Nat.zero_add]
    exact totalOperations_lowered_le f limits {}
  · have hlines : (run limits {} f.lexemes).generator.sink.lines =
        Sink.linesOf (final limits {} f).generator.sink.text := by
      rw [run_eq .recorder]
      rfl
    rw [hlines, text_final, Sink.linesOf_unlines]
    intro l hl
    obtain ⟨i, -, rfl⟩ := List.mem_map.mp hl
    exact i.line_ne_nil

end ThreeAddress.Analysis
