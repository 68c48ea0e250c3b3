import ThreeAddress.Proofs.Analysis.Syntax
import ThreeAddress.Proofs.Analysis.WellFormed
import ThreeAddress.Proofs.Text.Decimal

/-!
# The analysis accepts the well-formed programs

Names are resolved, operands are typed and code is emitted in one pass. An operand with an error is
carried along without an expression so that the error is told once. It is shown here that this
swallows no error and invents none: a derived program is analysed without an error if and only if
it is well formed.

Reports only grow, so once an error is told nothing more has to be said about the state. Every
statement below therefore has two cases: the rules are followed and the state is known exactly, or
they are not and an error has been told.

## Main definitions

* `State.Clean` : no error is told.
* `Models` : an environment holds the declarations of a context.
* `Evaluates`, `Executes` : the two cases for an expression and for statements.

## Main results

* `noError_iff_wellFormed` : no error is reported if and only if the program is well formed, and
  then every declaration and every expression statement is counted.
-/

namespace ThreeAddress.Analysis

open Parse (Event ExprTree TypeTree Body IsExpr IsBody IsProgram significant parseProgram)

variable {limits : Limits} {s t : State} {Γ : Context}

/-! ### Errors stay told -/

/-- No error of the analysis is told. -/
def State.Clean (s : State) : Prop :=
  ∀ r ∈ s.reports, r.origin = .parser → r.diagnostic.severity ≠ .error

/-- Acting on an event only adds to the reports. -/
theorem suffix_act (h : s.Ready) (e : Event) : s.reports <:+ (act limits s e).reports := by
  cases e with
  | look l => exact List.suffix_append _ _
  | complain d =>
    show s.reports <:+ (s.report limits d).reports
    unfold State.report
    extract_lets
    split
    · exact List.suffix_refl _
    · exact List.suffix_cons _ _
  | _ => exact (follows_act h rfl (by simp)).suffix

theorem suffix_foldl (h : s.Ready) (es : List Event) :
    s.reports <:+ (es.foldl (act limits) s).reports := by
  induction es generalizing s with
  | nil => exact List.suffix_refl _
  | cons e es ih => exact (suffix_act h e).trans (ih (ready_act h e))

/-- An error stays told. -/
theorem not_clean_foldl (h : s.Ready) (hs : ¬ s.Clean) (es : List Event) :
    ¬ (es.foldl (act limits) s).Clean :=
  fun hclean => hs fun r hr => hclean r ((suffix_foldl h es).subset hr)

theorem not_clean_act (h : s.Ready) (hs : ¬ s.Clean) (e : Event) : ¬ (act limits s e).Clean :=
  not_clean_foldl h hs [e]

/-- A refusal is an error. -/
theorem not_clean_report (hlimit : limits.maxErrors = 0) {d : Diagnostic}
    (hd : d.severity = .error) : ¬ (s.report limits d).Clean := by
  intro hclean
  exact hclean ⟨.parser, d⟩ (by rw [State.reports_report hlimit]; exact List.mem_cons_self) rfl hd

theorem not_clean_refuse (hlimit : limits.maxErrors = 0) {d : Diagnostic}
    (hd : d.severity = .error) (span : Span) :
    ¬ ((s.report limits d).pushOperand none span).Clean :=
  not_clean_report hlimit hd

/-- A warning is no error. -/
theorem clean_report (hlimit : limits.maxErrors = 0) (hs : s.Clean) {d : Diagnostic}
    (hd : d.severity ≠ .error) : (s.report limits d).Clean := by
  intro r hr
  rw [State.reports_report hlimit] at hr
  rcases List.mem_cons.mp hr with rfl | hr
  · exact fun _ => hd
  · exact hs r hr

/-! ### Environments and contexts -/

/-- An environment holds the declarations of a context. -/
structure Models (Γ : Context) (env : Environment) : Prop where
  /-- Names are resolved alike. -/
  lookup : ∀ name, (env.get? name).map Identifier.type = Γ.lookup name
  /-- The frame is that of the context. -/
  frame : env.frame.toNat = Γ.frame
  /-- A scope is open. -/
  opened : env.scopes ≠ []

theorem models_start : Models [] ({} : Environment).push :=
  ⟨fun _ => rfl, rfl, by simp [Environment.push]⟩

theorem Models.push {env : Environment} (h : Models Γ env) : Models Γ env.push :=
  ⟨h.lookup, h.frame, by simp [Environment.push]⟩

theorem Models.exists_get? {env : Environment} (h : Models Γ env) {name : Bytes} {type : DataType}
    (ht : Γ.lookup name = some type) : ∃ id, env.get? name = some id ∧ id.type = type := by
  rw [← h.lookup, Option.map_eq_some_iff] at ht
  exact ht

theorem Models.get?_eq_none {env : Environment} (h : Models Γ env) {name : Bytes}
    (ht : Γ.lookup name = none) : env.get? name = none := by
  rwa [← h.lookup, Option.map_eq_none_iff] at ht

/-- Two environments agree below the innermost scope, and closing it leaves the same frame. -/
def SameBelow (env env' : Environment) : Prop :=
  ∃ top top' outer, env.scopes = top :: outer ∧ env'.scopes = top' :: outer ∧ top'.base = top.base

theorem SameBelow.refl {env : Environment} (h : env.scopes ≠ []) : SameBelow env env := by
  obtain ⟨top, outer, hscopes⟩ := List.exists_cons_of_ne_nil h
  exact ⟨top, top, outer, hscopes, hscopes, rfl⟩

theorem SameBelow.trans {a b c : Environment} (hab : SameBelow a b) (hbc : SameBelow b c) :
    SameBelow a c := by
  obtain ⟨top, mid, outer, ha, hb, hbase⟩ := hab
  obtain ⟨mid', bot, outer', hb', hc, hbase'⟩ := hbc
  obtain ⟨rfl, rfl⟩ := List.cons.inj (hb.symm.trans hb')
  exact ⟨top, bot, outer, ha, hc, hbase'.trans hbase⟩

/-- Closing a block gives back the environment in front of it. -/
theorem SameBelow.pop {env env' : Environment} (h : SameBelow env.push env') : env'.pop = env := by
  obtain ⟨top, top', outer, htop, htop', hbase⟩ := h
  obtain ⟨rfl, rfl⟩ := List.cons.inj htop
  rw [Environment.pop, htop']
  exact congrArg (Environment.mk env.scopes) hbase

/-- A declaration is accepted when its type has a width and the frame has room for it. -/
theorem declare_eq_ok {env : Environment} (hopen : env.scopes ≠ []) {name : Bytes}
    {type : DataType} {w : UInt64} (hw : type.checkedWidth = (w, true))
    (hframe : env.frame.toNat + w.toNat < UInt64.size) :
    env.declare name type = .ok (⟨name, type, env.frame⟩,
      { env with frame := env.frame + w }.put name ⟨name, type, env.frame⟩) := by
  obtain ⟨top, outer, hscopes⟩ := List.exists_cons_of_ne_nil hopen
  unfold Environment.declare
  simp only [hscopes, hw, if_pos hframe]

/-- A declaration that does not fit is refused. -/
theorem exists_declare_error {env : Environment} {name : Bytes} {type : DataType}
    (h : ∀ w, type.checkedWidth = (w, true) → ¬ env.frame.toNat + w.toNat < UInt64.size) :
    ∃ e, env.declare name type = .error e := by
  unfold Environment.declare
  split
  · exact ⟨_, rfl⟩
  · split
    · exact ⟨_, rfl⟩
    · rename_i w hw
      rw [if_neg (h w hw)]
      exact ⟨_, rfl⟩

/-- Binding a name in the innermost scope extends the context. -/
theorem Models.declare {env : Environment} (h : Models Γ env) (name : Bytes) (type : DataType)
    {w : UInt64} (hw : type.checkedWidth = (w, true))
    (hframe : env.frame.toNat + w.toNat < UInt64.size) :
    Models ((name, type) :: Γ)
      ({ env with frame := env.frame + w }.put name ⟨name, type, env.frame⟩) ∧
    SameBelow env ({ env with frame := env.frame + w }.put name ⟨name, type, env.frame⟩) := by
  obtain ⟨top, outer, hscopes⟩ := List.exists_cons_of_ne_nil h.opened
  have hput : { env with frame := env.frame + w }.put name ⟨name, type, env.frame⟩ =
      ⟨top.put name ⟨name, type, env.frame⟩ :: outer, env.frame + w⟩ := by
    unfold Environment.put
    simp only [hscopes]
  rw [hput]
  refine ⟨⟨fun other => ?_, ?_, by simp⟩, top, _, outer, hscopes, rfl, rfl⟩
  · have hother := h.lookup other
    simp only [Environment.get?, hscopes, List.findSome?_cons, Scope.get?_put] at hother ⊢
    rw [List.lookup_cons]
    by_cases heq : other = name
    · simp [heq]
    · simpa [heq, beq_eq_false_iff_ne.mpr heq] using hother
  · show (env.frame + w).toNat = Context.frame ((name, type) :: Γ)
    rw [UInt64.toNat_add, Nat.mod_eq_of_lt hframe, h.frame, DataType.bytes_of_checkedWidth hw]
    simp [Context.frame, Nat.add_comm]

/-! ### Expressions -/

/-- Reading an expression from one state to another: it has a type and its operand is pushed, or it
has none and an error is told. -/
inductive Evaluates (Γ : Context) (e : ExprTree) (s t : State) : Prop where
  | typed {x : Expr} {span : Span} {type : DataType} (htype : HasType Γ e type)
      (hx : x.type? = some type) (ht : t = s.pushOperand (some x) span)
  | refused (hnone : ∀ type, ¬ HasType Γ e type) (ht : ¬ t.Clean)

theorem evaluates_literal (hlimit : limits.maxErrors = 0) {token : Token}
    (hk : token.kind.isLiteral = true) :
    Evaluates Γ (.literal token) s (s.literal limits token) := by
  unfold State.literal
  cases hkind : token.kind with
  | integer =>
    cases hv : Integer.readInt64 .announced token.text with
    | ok v => exact .typed (.integer hkind hv) rfl rfl
    | error err =>
      refine .refused (fun type h => ?_) (not_clean_refuse hlimit rfl _)
      cases h <;> simp_all
  | float =>
    by_cases hv : FloatRange.inRange token.text = true
    · simp only [hv, if_true]
      exact .typed (.float hkind hv) rfl rfl
    · simp only [hv]
      refine .refused (fun type h => ?_) (not_clean_refuse hlimit rfl _)
      cases h <;> simp_all
  | char => exact .typed (.char hkind) rfl rfl
  | keywordTrue => exact .typed (.truth (.inl hkind)) rfl rfl
  | keywordFalse => exact .typed (.truth (.inr hkind)) rfl rfl
  | _ => rw [hkind] at hk; cases hk

theorem evaluates_name (hlimit : limits.maxErrors = 0) (hΓ : Models Γ s.env) (token : Token) :
    Evaluates Γ (.name token) s (s.name limits token) := by
  unfold State.name
  cases ht : Γ.lookup token.text with
  | some type =>
    obtain ⟨id, hid, rfl⟩ := hΓ.exists_get? ht
    rw [hid]
    exact .typed (.name ht) rfl rfl
  | none =>
    rw [hΓ.get?_eq_none ht]
    refine .refused (fun type h => ?_) (not_clean_refuse hlimit rfl _)
    cases h with
    | name h => rw [ht] at h; cases h

theorem evaluates_unary (hlimit : limits.maxErrors = 0) {op : Token} {e : ExprTree}
    (hop : op.kind = .minus ∨ op.kind = .tilde) (ht : t.Ready) (he : Evaluates Γ e s t) :
    Evaluates Γ (.unary op e) s (act limits t (.unary op)) := by
  cases he with
  | refused hnone hclean =>
    refine .refused (fun type h => ?_) (not_clean_act ht hclean _)
    cases h with
    | unary h _ _ => exact hnone _ h
  | @typed x span type htype hx heq =>
    subst heq
    have hunary : Expr.isUnaryOperator op.kind = true := by
      rcases hop with hop | hop <;> rw [hop] <;> rfl
    show Evaluates Γ _ s (s.pushBuilt limits _ (Expr.newUnary op.kind x))
    cases hn : Expr.newUnary op.kind x with
    | ok y =>
      obtain ⟨-, operand, result, hoperand, hup, rfl⟩ := Expr.newUnary_eq_ok.mp hn
      obtain rfl := Option.some.inj (hx.symm.trans hoperand)
      exact .typed (.unary htype (upcast?_isSome.mp ⟨_, hup⟩).2 hup) rfl rfl
    | error err =>
      refine .refused (fun result h => ?_) (not_clean_refuse hlimit rfl _)
      cases h with
      | unary h _ hup =>
        obtain rfl := htype.unique h
        have hok := Expr.newUnary_eq_ok.mpr ⟨hunary, _, _, hx, hup, rfl⟩
        rw [hn] at hok
        cases hok

theorem evaluates_binary (hlimit : limits.maxErrors = 0) {op : Token} {l r : ExprTree}
    (hop : op.kind.isArithmetic = true) (hs : s.Ready) (hΓ : Models Γ s.env)
    (hl : Evaluates Γ l s (l.events.foldl (act limits) s))
    (hr : ∀ {t : State}, t.Ready → Models Γ t.env →
      Evaluates Γ r t (r.events.foldl (act limits) t)) :
    Evaluates Γ (.binary op l r) s ((ExprTree.binary op l r).events.foldl (act limits) s) := by
  have hready := ready_foldl limits hs l.events
  rw [ExprTree.events, List.foldl_append, List.foldl_append]
  revert hl hready
  generalize l.events.foldl (act limits) s = t
  intro hl ht
  cases hl with
  | refused hnone hclean =>
    refine .refused (fun type h => ?_) ?_
    · cases h with
      | binary h _ _ _ _ => exact hnone _ h
    · rw [← List.foldl_append]
      exact not_clean_foldl ht hclean _
  | @typed x span σ hσ hx heq =>
    subst heq
    have hr := hr ht hΓ
    have hready' := ready_foldl limits ht r.events
    revert hr hready'
    generalize r.events.foldl (act limits) (s.pushOperand (some x) span) = u
    intro hr hu
    cases hr with
    | refused hnone hclean =>
      refine .refused (fun type h => ?_) (not_clean_foldl hu hclean _)
      cases h with
      | binary _ h _ _ _ => exact hnone _ h
    | @typed y span' τ hτ hy heq =>
      subst heq
      show Evaluates Γ _ s (s.pushBuilt limits _ (Expr.newArithmetic op.kind x y))
      cases hn : Expr.newArithmetic op.kind x y with
      | ok z =>
        obtain ⟨-, σ', τ', result, hσ', hτ', hup, rfl⟩ := Expr.newArithmetic_eq_ok.mp hn
        obtain rfl := Option.some.inj (hx.symm.trans hσ')
        obtain rfl := Option.some.inj (hy.symm.trans hτ')
        have hnumeric := upcast?_isSome.mp ⟨_, hup⟩
        exact .typed (.binary hσ hτ hnumeric.1 hnumeric.2 hup) rfl rfl
      | error err =>
        refine .refused (fun result h => ?_) (not_clean_refuse hlimit rfl _)
        cases h with
        | binary h h' _ _ hup =>
          obtain rfl := hσ.unique h
          obtain rfl := hτ.unique h'
          have hok := Expr.newArithmetic_eq_ok.mpr ⟨hop, _, _, _, hx, hy, hup, rfl⟩
          rw [hn] at hok
          cases hok

theorem evaluates_group (limits : Limits) {opening closing : Token} {e : ExprTree} (ht : t.Ready)
    (he : Evaluates Γ e s t) :
    Evaluates Γ (.group opening e closing) s
      (act limits t (.group opening.span closing.span)) := by
  cases he with
  | refused hnone hclean =>
    refine .refused (fun type h => ?_) (not_clean_act ht hclean _)
    cases h with
    | group h => exact hnone _ h
  | typed htype hx heq =>
    subst heq
    exact .typed (.group htype) hx rfl

/-- The index of a name that is declared. -/
theorem evaluates_index (hlimit : limits.maxErrors = 0) {array closing : Token} {e : ExprTree}
    {id : Identifier} {span : Span} (harray : Γ.lookup array.text = some id.type) (ht : t.Ready)
    (he : Evaluates Γ e (s.pushOperand (some (.identifier id)) span) t) :
    Evaluates Γ (.index array e closing) s (act limits t (.index closing.span)) := by
  cases he with
  | refused hnone hclean =>
    refine .refused (fun type h => ?_) (not_clean_act ht hclean _)
    cases h with
    | index _ _ h => exact hnone _ h
  | @typed x span' type htype hx heq =>
    subst heq
    by_cases hkind : id.type.kind = .array
    · have hindex : act limits ((s.pushOperand (some (.identifier id)) span).pushOperand (some x)
          span') (.index closing.span) =
          s.pushOperand (some (.index id x)) (span.cover closing.span) := if_pos hkind
      rw [hindex]
      exact .typed (.index harray hkind htype) rfl rfl
    · have hindex : act limits ((s.pushOperand (some (.identifier id)) span).pushOperand (some x)
          span') (.index closing.span) = (s.report limits (.ofError .notArray span
            (utf8 "cannot index '" ++ id.name ++ utf8 "' of type " ++ id.type.render))).pushOperand
              none (span.cover closing.span) := if_neg hkind
      rw [hindex]
      refine .refused (fun result h => ?_) (not_clean_refuse hlimit rfl _)
      cases h with
      | index harray' hkind' _ =>
        obtain rfl := Option.some.inj (harray.symm.trans harray')
        exact hkind hkind'

/-- A derived expression is typed, or an error is told about it. -/
theorem evaluates_of_isExpr (hlimit : limits.maxErrors = 0) {level : Parse.Level}
    {ts : List Token} {e : ExprTree} (h : IsExpr level ts e) (hs : s.Ready)
    (hΓ : Models Γ s.env) : Evaluates Γ e s (e.events.foldl (act limits) s) := by
  induction h generalizing s with
  | ofTerm _ ih => exact ih hs hΓ
  | @sum _ _ op _ _ _ hop _ ihl ihr =>
    have hop' : op.kind.isArithmetic = true := by
      rcases hop with hop | hop <;> rw [hop] <;> rfl
    exact evaluates_binary hlimit hop' hs hΓ (ihl hs hΓ) fun ht hΓ => ihr ht hΓ
  | ofUnary _ ih => exact ih hs hΓ
  | @product _ _ op _ _ _ hop _ ihl ihr =>
    have hop' : op.kind.isArithmetic = true := by
      rcases hop with hop | hop <;> rw [hop] <;> rfl
    exact evaluates_binary hlimit hop' hs hΓ (ihl hs hΓ) fun ht hΓ => ihr ht hΓ
  | unary hop _ ih =>
    rw [ExprTree.events, List.foldl_append]
    exact evaluates_unary hlimit hop (ready_foldl limits hs _) (ih hs hΓ)
  | ofFactor _ ih => exact ih hs hΓ
  | group _ _ _ ih =>
    rw [ExprTree.events, List.foldl_append]
    exact evaluates_group limits (ready_foldl limits hs _) (ih hs hΓ)
  | literal ht => exact evaluates_literal hlimit ht
  | name ht => exact evaluates_name hlimit hΓ _
  | @index _ array opening closing e _ _ _ _ ih =>
    have hready : (act limits s (.name array)).Ready := ready_act hs _
    cases hlookup : Γ.lookup array.text with
    | none =>
      have hname : ¬ (act limits s (.name array)).Clean := by
        show ¬ (s.name limits array).Clean
        unfold State.name
        rw [hΓ.get?_eq_none hlookup]
        exact not_clean_refuse hlimit rfl _
      refine .refused (fun type h => ?_) (not_clean_foldl hready hname _)
      cases h with
      | index harray _ _ => rw [hlookup] at harray; cases harray
    | some type =>
      obtain ⟨id, hid, rfl⟩ := hΓ.exists_get? hlookup
      have hname : act limits s (.name array) =
          s.pushOperand (some (.identifier id)) array.span := by
        show s.name limits array = _
        unfold State.name
        rw [hid]
      rw [ExprTree.events, List.cons_append, List.foldl_cons, List.foldl_append, hname]
      rw [hname] at hready
      exact evaluates_index hlimit hlookup (ready_foldl limits hready _) (ih hready hΓ)

/-! ### Statements -/

/-- Running statements from one state to another: they follow the rules, no error is told, and
everything is counted; or they do not, and an error is told. -/
inductive Executes (Γ : Context) (b : Body) (s t : State) : Prop where
  | accepted (hwf : WellFormed Γ b) (hclean : s.Clean → t.Clean) (hbelow : SameBelow s.env t.env)
      (hdeclarations : t.counts.declarations = s.counts.declarations + b.declarations)
      (hstatements : t.counts.statements = s.counts.statements + b.expressions)
  | refused (hwf : ¬ WellFormed Γ b) (ht : ¬ t.Clean)

theorem sizeEvents_eq_nil {size : Token} : Parse.sizeEvents size = [] ↔
    ∃ n, Integer.readNat .announced Parse.maxSize size.text = .ok n ∧ n ≠ 0 := by
  unfold Parse.sizeEvents Parse.sizeValue?
  cases hn : Integer.readNat .announced Parse.maxSize size.text with
  | error err => simp
  | ok n => by_cases h : n = 0 <;> simp [h]

theorem events_of_sized {type : TypeTree} (h : type.Sized) : type.events = [] := by
  induction type with
  | scalar _ => rfl
  | string size => exact sizeEvents_eq_nil.mpr h
  | array size elem ih =>
    rw [TypeTree.events, sizeEvents_eq_nil.mpr h.1, ih h.2, List.append_nil]

/-- A size that is out of range is complained about. -/
theorem exists_complain {type : TypeTree} (h : ¬ type.Sized) :
    ∃ size, .complain (Parse.badSize size) ∈ type.events := by
  have hsize {size : Token} (h : Parse.sizeEvents size ≠ []) :
      .complain (Parse.badSize size) ∈ Parse.sizeEvents size := by
    unfold Parse.sizeEvents at h ⊢
    split
    · rename_i hsome
      simp [hsome] at h
    · exact List.mem_cons_self
  induction type with
  | scalar _ => exact absurd trivial h
  | string size => exact ⟨size, hsize (mt sizeEvents_eq_nil.mp h)⟩
  | array size elem ih =>
    by_cases hfirst : Parse.sizeEvents size = []
    · obtain ⟨size', hmem⟩ := ih fun helem => h ⟨sizeEvents_eq_nil.mp hfirst, helem⟩
      exact ⟨size', List.mem_append_right _ hmem⟩
    · exact ⟨size, List.mem_append_left _ (hsize hfirst)⟩

/-- A complaint about an error is told. -/
theorem not_clean_of_complain (hlimit : limits.maxErrors = 0) (hs : s.Ready) {es : List Event}
    {d : Diagnostic} (hd : .complain d ∈ es) (herror : d.severity = .error) :
    ¬ (es.foldl (act limits) s).Clean := by
  obtain ⟨front, back, rfl⟩ := List.append_of_mem hd
  have htold : ¬ (act limits (front.foldl (act limits) s) (.complain d)).Clean :=
    not_clean_report hlimit herror
  rw [List.foldl_append, List.foldl_cons]
  exact not_clean_foldl (ready_act (ready_foldl limits hs front) _) htold back

/-- The sizes of a type in range are positive. -/
theorem positive_of_sized {type : TypeTree} {ts : List Token} (htype : Parse.IsType ts type)
    (h : type.Sized) : type.denote.Positive := by
  induction htype with
  | scalar _ hname =>
    unfold DataType.ofName? at hname
    repeat' split at hname
    all_goals cases hname <;> trivial
  | string => exact trivial
  | @array _ size _ _ elem _ _ _ _ ih =>
    obtain ⟨⟨n, hn, hpos⟩, helem⟩ := h
    have hvalue : Parse.sizeValue? size.text = some (UInt32.ofNat n) := by
      simp [Parse.sizeValue?, hn, hpos]
    refine ⟨fun hzero => hpos ?_, ih helem⟩
    rw [hvalue, Option.getD_some] at hzero
    have hlt : n < UInt32.size := Nat.lt_of_le_of_lt (Integer.readNat_le hn) (by decide)
    rw [← UInt32.toNat_ofNat_of_lt' hlt, hzero]
    rfl

/-- A second declaration in one block is only warned about. -/
theorem clean_warned (hlimit : limits.maxErrors = 0) (hs : s.Clean) (name : Token) :
    (s.warned limits name).Clean := by
  unfold State.warned
  split
  · exact clean_report hlimit hs (by decide : Severity.warning ≠ .error)
  · exact hs

/-- A declaration that fits is made. -/
theorem declare_accepted (hlimit : limits.maxErrors = 0) (name : Token) {type : DataType}
    (htype : type.Positive) (hΓ : Models Γ s.env)
    (hframe : Γ.frame + type.bytes < UInt64.size) :
    Models ((name.text, type) :: Γ) (s.declare limits name type).env ∧
      SameBelow s.env (s.declare limits name type).env ∧
      (s.Clean → (s.declare limits name type).Clean) ∧
      (s.declare limits name type).counts.declarations = s.counts.declarations + 1 ∧
      (s.declare limits name type).counts.statements = s.counts.statements := by
  obtain ⟨w, hw⟩ := (DataType.checkedWidth_iff htype).mpr (by omega)
  have hroom : s.env.frame.toNat + w.toNat < UInt64.size := by
    rwa [hΓ.frame, DataType.bytes_of_checkedWidth hw]
  obtain ⟨hmodels, hbelow⟩ := hΓ.declare name.text type hw hroom
  have hcounts : (s.warned limits name).counts = s.counts := State.counts_warned name
  rw [State.declare_eq]
  unfold State.reserved
  rw [State.env_warned, declare_eq_ok hΓ.opened hw hroom]
  exact ⟨hmodels, hbelow, fun hs => clean_warned hlimit hs name, by rw [hcounts], by rw [hcounts]⟩

/-- A declaration that does not fit is an error. -/
theorem declare_refused (hlimit : limits.maxErrors = 0) (name : Token) {type : DataType}
    (hΓ : Models Γ s.env) (hframe : ¬ Γ.frame + type.bytes < UInt64.size) :
    ¬ (s.declare limits name type).Clean := by
  obtain ⟨err, herr⟩ : ∃ err, s.env.declare name.text type = .error err := by
    refine exists_declare_error fun w hw => ?_
    rwa [hΓ.frame, DataType.bytes_of_checkedWidth hw]
  rw [State.declare_eq]
  unfold State.reserved
  rw [State.env_warned, herr]
  exact not_clean_report hlimit rfl

theorem executes_declare (hlimit : limits.maxErrors = 0) {ts : List Token} {name : Token}
    {type : TypeTree} {next : Body} (htype : Parse.IsType ts type) (hs : s.Ready)
    (hΓ : Models Γ s.env)
    (hnext : ∀ {t : State}, t.Ready → Models ((name.text, type.denote) :: Γ) t.env →
      Executes ((name.text, type.denote) :: Γ) next t (next.events.foldl (act limits) t)) :
    Executes Γ (.declare name type next) s
      ((Body.declare name type next).events.foldl (act limits) s) := by
  by_cases hsized : type.Sized
  · rw [Body.events, events_of_sized hsized, List.nil_append, List.foldl_cons]
    have hready : (s.declare limits name type.denote).Ready := ready_act hs (.declare name _)
    show Executes Γ _ s (next.events.foldl (act limits) (s.declare limits name type.denote))
    by_cases hframe : Γ.frame + type.denote.bytes < UInt64.size
    · obtain ⟨hmodels, hbelow, hclean, hdeclarations, hstatements⟩ :=
        declare_accepted hlimit name (positive_of_sized htype hsized) hΓ hframe
      cases hnext hready hmodels with
      | accepted hwf hclean' hbelow' hdeclarations' hstatements' =>
        refine .accepted (.declare hsized hframe hwf) (fun hs => hclean' (hclean hs))
          (hbelow.trans hbelow') ?_ ?_
        · rw [hdeclarations', hdeclarations, Body.declarations]
          omega
        · rw [hstatements', hstatements, Body.expressions]
      | refused hwf hclean' =>
        refine .refused (fun hdeclare => ?_) hclean'
        cases hdeclare with
        | declare _ _ hnext => exact hwf hnext
    · refine .refused (fun hdeclare => ?_)
        (not_clean_foldl hready (declare_refused hlimit name hΓ hframe) _)
      cases hdeclare with
      | declare _ hframe' _ => exact hframe hframe'
  · obtain ⟨size, hsize⟩ := exists_complain hsized
    refine .refused (fun hdeclare => ?_)
      (not_clean_of_complain hlimit hs (List.mem_append_left _ hsize) rfl)
    cases hdeclare with
    | declare hsized' _ _ => exact hsized hsized'

theorem executes_block {inner next : Body} (hs : s.Ready) (hΓ : Models Γ s.env)
    (hinner : ∀ {t : State}, t.Ready → Models Γ t.env →
      Executes Γ inner t (inner.events.foldl (act limits) t))
    (hnext : ∀ {t : State}, t.Ready → Models Γ t.env →
      Executes Γ next t (next.events.foldl (act limits) t)) :
    Executes Γ (.block inner next) s ((Body.block inner next).events.foldl (act limits) s) := by
  have hopen : (act limits s .openBlock).Ready := ready_act hs _
  have hready := ready_foldl limits hopen inner.events
  have hrun := hinner hopen hΓ.push
  rw [Body.events, List.cons_append, List.foldl_cons, List.foldl_append, List.foldl_cons]
  revert hrun hready
  generalize inner.events.foldl (act limits) (act limits s .openBlock) = t
  intro ht hrun
  have hclose : (act limits t .closeBlock).Ready := ready_act ht _
  cases hrun with
  | refused hwf hclean =>
    refine .refused (fun hblock => ?_) (not_clean_foldl hclose (not_clean_act ht hclean _) _)
    cases hblock with
    | block hinner _ => exact hwf hinner
  | accepted hwf hclean hbelow hdeclarations hstatements =>
    -- closing the block restores the environment in front of it
    have henv : (act limits t .closeBlock).env = s.env := hbelow.pop
    cases hnext hclose (henv ▸ hΓ) with
    | refused hwf' hclean' =>
      refine .refused (fun hblock => ?_) hclean'
      cases hblock with
      | block _ hnext => exact hwf' hnext
    | accepted hwf' hclean' hbelow' hdeclarations' hstatements' =>
      refine .accepted (.block hwf hwf') (fun hs => hclean' (hclean hs)) (henv ▸ hbelow') ?_ ?_
      · rw [hdeclarations', Body.declarations, ← Nat.add_assoc]
        exact congrArg (· + next.declarations) hdeclarations
      · rw [hstatements', Body.expressions, ← Nat.add_assoc]
        exact congrArg (· + next.expressions) hstatements

theorem executes_expression (hlimit : limits.maxErrors = 0) {ts : List Token} {e : ExprTree}
    {next : Body} (he : IsExpr .expr ts e) (hs : s.Ready) (hΓ : Models Γ s.env)
    (hnext : ∀ {t : State}, t.Ready → Models Γ t.env →
      Executes Γ next t (next.events.foldl (act limits) t)) :
    Executes Γ (.expression e next) s
      ((Body.expression e next).events.foldl (act limits) s) := by
  have heval := evaluates_of_isExpr hlimit he hs hΓ
  have hready := ready_foldl limits hs e.events
  rw [Body.events, List.foldl_append, List.foldl_cons]
  revert heval hready
  generalize e.events.foldl (act limits) s = t
  intro heval ht
  have hfinish : (act limits t .finish).Ready := ready_act ht _
  cases heval with
  | refused hnone hclean =>
    refine .refused (fun hexpr => ?_) (not_clean_foldl hfinish (not_clean_act ht hclean _) _)
    cases hexpr with
    | expression he _ => exact hnone _ he
  | @typed x span type htype hx heq =>
    subst heq
    have hx : x.Built := ht.built _ List.mem_cons_self x rfl
    obtain ⟨text, hlower⟩ := State.lower_eq (s := { s with operands := [] }) hs.working hx span
    have hact : act limits (s.pushOperand (some x) span) .finish =
        { s with operands := [] }.lower x span := rfl
    rw [hact, hlower] at hfinish ⊢
    cases hnext hfinish hΓ with
    | refused hwf hclean =>
      refine .refused (fun hexpr => ?_) hclean
      cases hexpr with
      | expression _ hnext => exact hwf hnext
    | accepted hwf hclean hbelow hdeclarations hstatements =>
      refine .accepted (.expression htype hwf) hclean hbelow hdeclarations ?_
      rw [hstatements, Body.expressions]
      show s.counts.statements + 1 + next.expressions = _
      omega

/-- A derived program follows the rules, or an error is told. -/
theorem executes_of_isBody (hlimit : limits.maxErrors = 0) {ts : List Token} {b : Body}
    (h : IsBody ts b) (hs : s.Ready) (hΓ : Models Γ s.env) :
    Executes Γ b s (b.events.foldl (act limits) s) := by
  induction h generalizing s Γ with
  | done => exact .accepted .done id (.refl hΓ.opened) rfl rfl
  | declare _ _ _ htype _ _ ih =>
    exact executes_declare hlimit htype hs hΓ fun ht hΓ => ih ht hΓ
  | block _ _ _ _ ihinner ihnext =>
    exact executes_block hs hΓ (fun ht hΓ => ihinner ht hΓ) fun ht hΓ => ihnext ht hΓ
  | expression he _ _ ih =>
    exact executes_expression hlimit he hs hΓ fun ht hΓ => ih ht hΓ

/-! ### Whole sources -/

/-- The reports of lexing are no errors of the analysis. -/
theorem clean_quiet : s.quiet.Clean ↔ s.Clean := by
  simp only [State.Clean, State.quiet, List.mem_filter, decide_eq_true_eq]
  exact ⟨fun h r hr horigin => h r ⟨hr, horigin⟩ horigin, fun h r hr => h r hr.1⟩

/-- For a derived source, without a bound on errors and over a sink that takes everything, the
analysis reports no error if and only if the program is well formed. Then nothing fails, every
declaration is made and every expression statement is lowered. What lexing itself reports about a
token is not a report of the analysis. -/
theorem noError_iff_wellFormed {f : SourceFile} (hsize : f.content.length < UInt32.size - 1)
    {b : Body} (hb : IsProgram f.tokens b) (hlimit : limits.maxErrors = 0) {g : Generator}
    (hg : g.sink.Open) :
    ((∀ r ∈ (run limits g f.lexemes).reports, r.origin = .parser →
        r.diagnostic.severity ≠ .error) ↔ WellFormed [] b) ∧
      (WellFormed [] b → (run limits g f.lexemes).failure = none ∧
        (run limits g f.lexemes).counts.declarations = b.declarations ∧
        (run limits g f.lexemes).counts.statements = b.expressions) := by
  have hfits : f.content.length < UInt32.size := Nat.lt_of_lt_of_le hsize (Nat.sub_le _ _)
  have hbody := (SourceFile.isProgram_iff hfits).mp hb
  have hquiet : (final limits g f).quiet = b.events.foldl (act limits) (.start limits g) := by
    rw [final, quiet_foldl, Parse.significant_parseProgram hbody]
    rfl
  have hexec := executes_of_isBody hlimit hbody (State.ready_start limits hg) models_start
  have hreports : (∀ r ∈ (run limits g f.lexemes).reports, r.origin = .parser →
      r.diagnostic.severity ≠ .error) ↔ (final limits g f).quiet.Clean := by
    rw [clean_quiet, run_eq hg]
    simp [State.Clean, State.outcome]
  have hcounts : (run limits g f.lexemes).counts = (final limits g f).quiet.counts := by
    rw [run_eq hg]
    rfl
  rw [hreports, hcounts]
  rw [← hquiet] at hexec
  cases hexec with
  | accepted hwf hclean _ hdeclarations hstatements =>
    refine ⟨⟨fun _ => hwf, fun _ => hclean ?_⟩, fun _ => ⟨failure_run hg, ?_, ?_⟩⟩
    · simp [State.Clean, State.start]
    · exact hdeclarations.trans (Nat.zero_add _)
    · exact hstatements.trans (Nat.zero_add _)
  | refused hwf hclean =>
    exact ⟨⟨fun h => absurd h hclean, fun h => absurd h hwf⟩, fun h => absurd h hwf⟩

theorem hasType_samplePlace (Γ : Context) : HasType Γ samplePlace .int64 :=
  .binary
    (.unary (.integer (t := sampleToken .integer 20 "1") (v := 1) rfl rfl) rfl rfl)
    (.integer (t := sampleToken .integer 24 "2") (v := 2) rfl rfl) rfl rfl rfl

theorem wellFormed_sample : WellFormed [] sampleBody := by
  have hsized : TypeTree.Sized (.array (sampleToken .integer 10 "2") (.scalar .int32)) :=
    ⟨⟨2, rfl, by decide⟩, trivial⟩
  exact .block (.declare hsized (by decide +kernel)
    (.expression (.index rfl rfl (hasType_samplePlace _)) .done)) .done

/-- The sample is well formed, so no error is reported and its statements are counted. -/
theorem noError_sample :
    (∀ r ∈ (run {} {} sampleSource.lexemes).reports, r.origin = .parser →
        r.diagnostic.severity ≠ .error) ∧
      (run {} {} sampleSource.lexemes).failure = none ∧
      (run {} {} sampleSource.lexemes).counts.declarations = 1 ∧
      (run {} {} sampleSource.lexemes).counts.statements = 1 := by
  have h := @noError_iff_wellFormed {} _ (by decide +kernel) _ isProgram_sample rfl {} .recorder
  exact ⟨h.1.mpr wellFormed_sample, h.2 wellFormed_sample⟩

end ThreeAddress.Analysis
