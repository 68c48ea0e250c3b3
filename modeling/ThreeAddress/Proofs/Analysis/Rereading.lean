import ThreeAddress.Proofs.Analysis.Limits
import ThreeAddress.Proofs.Parse.Printing

/-!
# Reading back what is printed

An expression over declared names and typed literals is printed, with any number of further
parentheses, and read again: the operand is the expression that was printed, but for the places of
its tokens, and nothing is reported but what lexing has found about its names and literals.

An element of something that is no array can be built, yet it is refused when it is read. So the
expressions that come back are those whose elements are elements of arrays.

## Main definitions

* `Expr.Over` : expressions over the names of an environment and typed literals.
* `Expr.IndexesArrays` : elements are elements of arrays.
* `Expr.erase` : an expression without the places of its tokens.

## Main results

* `Analysis.parseExpr_print` : a printed expression is read back.
* `Analysis.operands_print_refused` : an expression with an element of a scalar is not.
-/

namespace ThreeAddress

open Parse (ExprTree Spells)

/-- A name is declared, and it stands for itself as a token. -/
structure Environment.Declares (env : Environment) (id : Identifier) : Prop where
  /-- The name is resolved to this declaration. -/
  get : env.get? id.name = some id
  /-- The name is a token. -/
  word : (Word.name id.name).Lexes []

/-- A token is a literal of a type. -/
structure Token.IsLiteral (t : Token) (type : DataType) : Prop where
  /-- Its kind is that of a literal. -/
  kind : t.kind.isLiteral = true
  /-- Its text is a token. -/
  word : ∃ cs, t.word.Lexes cs
  /-- The analysis gives it the type. -/
  typed : ∀ limits s, Analysis.State.literal limits s t =
    s.pushOperand (some (.constant t type)) t.span

namespace Expr

/-- An expression is built over the names of an environment and typed literals. -/
def Over (env : Environment) : Expr → Prop
  | absent | temporary _ _ => False
  | identifier id => env.Declares id
  | constant t type => t.IsLiteral type
  | arithmetic op type l r =>
    l.Over env ∧ r.Over env ∧ newArithmetic op l r = .ok (arithmetic op type l r)
  | unary op type x => x.Over env ∧ newUnary op x = .ok (unary op type x)
  | index a i => env.Declares a ∧ i.Over env

/-- All elements in an expression are elements of arrays. -/
def IndexesArrays : Expr → Prop
  | absent | temporary _ _ | identifier _ | constant _ _ => True
  | arithmetic _ _ l r => l.IndexesArrays ∧ r.IndexesArrays
  | unary _ _ x => x.IndexesArrays
  | index a i => a.type.kind = .array ∧ i.IndexesArrays

/-- Lexing has nothing to tell about the names and literals of an expression. -/
def Silent (e : Expr) : Prop :=
  ∀ w ∈ e.leafWords, w.Lexes []

instance {e : Expr} : Decidable e.Silent :=
  inferInstanceAs (Decidable (∀ w ∈ e.leafWords, w.Lexes []))

/-- An expression without the places of its tokens. -/
def erase : Expr → Expr
  | constant t type => constant { t with span := {} } type
  | arithmetic op type l r => arithmetic op type l.erase r.erase
  | unary op type x => unary op type x.erase
  | index a i => index a i.erase
  | e => e

@[simp] theorem type?_erase (e : Expr) : e.erase.type? = e.type? := by
  cases e <;> rfl

theorem type?_of_erase {e e' : Expr} (h : e'.erase = e.erase) : e'.type? = e.type? := by
  rw [← type?_erase, h, type?_erase]

variable {env : Environment} {e : Expr}

theorem Over.isSource (h : e.Over env) : e.IsSource := by
  induction e with
  | absent => exact h
  | temporary => exact h
  | identifier => trivial
  | constant t type => exact h.kind
  | arithmetic op type l r ihl ihr =>
    exact ⟨(newArithmetic_eq_ok.mp h.2.2).1, ihl h.1, ihr h.2.1⟩
  | unary op type x ih => exact ⟨(newUnary_eq_ok.mp h.2).1, ih h.1⟩
  | index a i ih => exact ih h.2

/-- The names and literals of an expression are words. -/
theorem Over.lexes_leaves (h : e.Over env) : ∀ w ∈ e.leafWords, ∃ cs, w.Lexes cs := by
  induction e with
  | absent => cases h
  | temporary => cases h
  | identifier id => exact List.forall_mem_singleton.mpr ⟨[], h.word⟩
  | constant t type => exact List.forall_mem_singleton.mpr h.word
  | arithmetic op type l r ihl ihr => exact List.forall_mem_append.mpr ⟨ihl h.1, ihr h.2.1⟩
  | unary op type x ih => exact ih h.1
  | index a i ih => exact List.forall_mem_cons.mpr ⟨⟨[], h.1.word⟩, ih h.2⟩

/-- All words of an expression are words of the language. -/
theorem Over.lexes_words (h : e.Over env) (extra : Parse.Parens) :
    ∀ w ∈ e.words extra .expr, ∃ cs, w.Lexes cs :=
  (forall_words_iff (fun k hk => ⟨[], lexes_mark k hk⟩) h.isSource extra .expr).mpr h.lexes_leaves

end Expr

namespace Analysis

open Parse (Event parseExpr significant)

variable {limits : Limits} {env : Environment} {e : Expr}

/-- A token of the same kind and text is a literal of the same type. -/
theorem literal_of_word {t t' : Token} {type : DataType} (h : t.IsLiteral type)
    (hword : t'.word = t.word) (limits : Limits) (s : State) :
    s.literal limits t' = s.pushOperand (some (.constant t' type)) t'.span := by
  have hkind : t'.kind = t.kind := congrArg Word.kind hword
  have htext : t'.text = t.text := congrArg Word.text hword
  -- the operand that the token itself makes tells its type
  have hsame {type' : DataType} (hmade : s.literal limits t =
      s.pushOperand (some (.constant t type')) t.span) : type' = type := by
    have hops := congrArg State.operands (hmade.symm.trans (h.typed limits s))
    exact (Expr.constant.inj (Option.some.inj (Operand.mk.inj (List.cons.inj hops).1).1)).2
  -- and that it is no number that is refused
  have hkept {d : Diagnostic} (hmade : s.literal limits t =
      (s.report limits d).pushOperand none t.span) : False := by
    have hops := congrArg State.operands (hmade.symm.trans (h.typed limits s))
    cases (List.cons.inj hops).1
  have hliteral := h.kind
  rw [State.literal] at hsame hkept ⊢
  rw [hkind, htext]
  cases ht : t.kind <;> simp only [ht] at hsame hkept hliteral ⊢
  case integer =>
    cases hvalue : Integer.readInt64 .announced t.text with
    | ok v =>
      simp only [hvalue] at hsame ⊢
      rw [hsame rfl]
    | error f =>
      simp only [hvalue] at hkept
      exact (hkept rfl).elim
  case float =>
    by_cases hrange : FloatRange.inRange t.text = true
    · rw [if_pos hrange] at hsame ⊢
      rw [hsame rfl]
    · rw [if_neg hrange] at hkept
      exact (hkept rfl).elim
  case char => rw [hsame rfl]
  case keywordTrue => rw [hsame rfl]
  case keywordFalse => rw [hsame rfl]
  all_goals cases hliteral

/-- A token that is spelled like a declared name makes that name its operand. -/
theorem act_name_of_word {t : Token} {id : Identifier} (h : env.Declares id)
    (ht : t.word = .name id.name) {s : State} (hs : s.env = env) :
    act limits s (.name t) = s.pushOperand (some (.identifier id)) t.span := by
  have htext : t.text = id.name := congrArg Word.text ht
  simp only [act, State.name, hs, htext, h.get]

/-! ### Events of a spelled tree -/

/-- The events of a tree that spells an expression make that expression their operand. -/
theorem foldl_spells {tree : ExprTree} (hspells : Spells tree e) (h : e.Over env)
    (harrays : e.IndexesArrays) (limits : Limits) :
    ∃ e' span, e'.erase = e.erase ∧ ∀ s : State, s.env = env →
      tree.events.foldl (act limits) s = s.pushOperand (some e') span := by
  induction hspells with
  | @name t id ht =>
    exact ⟨.identifier id, t.span, rfl, fun s hs => act_name_of_word h ht hs⟩
  | @literal t token type ht =>
    refine ⟨.constant t type, t.span, ?_, fun s _ => literal_of_word h ht limits s⟩
    have hkind : t.kind = token.kind := congrArg Word.kind ht
    have htext : t.text = token.text := congrArg Word.text ht
    simp only [Expr.erase, hkind, htext]
  | @group opening closing inner e hinner ih =>
    obtain ⟨e', span, herase, hfold⟩ := ih h harrays
    refine ⟨e', opening.span.cover closing.span, herase, fun s hs => ?_⟩
    rw [ExprTree.events, List.foldl_append, hfold s hs]
    rfl
  | @unary op inner type x hinner ih =>
    obtain ⟨hx, hnew⟩ := h
    obtain ⟨x', span, herase, hfold⟩ := ih hx harrays
    refine ⟨.unary op.kind type x', op.span.cover span, by rw [Expr.erase, herase, Expr.erase],
      fun s hs => ?_⟩
    rw [ExprTree.events, List.foldl_append, hfold s hs]
    simp only [List.foldl_cons, List.foldl_nil, act, State.unary, State.pushOperand,
      Expr.newUnary_congr hnew (Expr.type?_of_erase herase), State.pushBuilt]
  | @binary op left right type l r hleft hright ihl ihr =>
    obtain ⟨hl, hr, hnew⟩ := h
    obtain ⟨l', a, hlerase, hlfold⟩ := ihl hl harrays.1
    obtain ⟨r', b, hrerase, hrfold⟩ := ihr hr harrays.2
    refine ⟨.arithmetic op.kind type l' r', a.cover b,
      by rw [Expr.erase, hlerase, hrerase, Expr.erase], fun s hs => ?_⟩
    rw [ExprTree.events, List.foldl_append, hlfold s hs, List.foldl_append,
      hrfold (s.pushOperand (some l') a) hs]
    simp only [List.foldl_cons, List.foldl_nil, act, State.binary, State.pushOperand,
      Expr.newArithmetic_congr hnew (Expr.type?_of_erase hlerase)
        (Expr.type?_of_erase hrerase), State.pushBuilt]
  | @index array closing place a i harray hplace ih =>
    obtain ⟨hdeclared, hi⟩ := h
    obtain ⟨hkind, hiarrays⟩ := harrays
    obtain ⟨i', span, herase, hfold⟩ := ih hi hiarrays
    refine ⟨.index a i', array.span.cover closing.span, by rw [Expr.erase, herase, Expr.erase],
      fun s hs => ?_⟩
    rw [ExprTree.events, List.cons_append, List.foldl_cons, act_name_of_word hdeclared harray hs,
      List.foldl_append, hfold (s.pushOperand (some (.identifier a)) array.span) hs]
    simp only [List.foldl_cons, List.foldl_nil, act, State.index, State.pushOperand, if_pos hkind]

/-! ### Events of a refused tree -/

/-- In an environment, events make one operand. -/
def Makes (limits : Limits) (env : Environment) (es : List Event) (made : Option Expr)
    (span : Span) : Prop :=
  ∀ s : State, s.env = env → (es.foldl (act limits) s).env = env ∧
    (es.foldl (act limits) s).operands = ⟨made, span⟩ :: s.operands

/-- A tree that spells an expression with an element of something that is no array makes an operand
without an expression. -/
theorem makes_refused {tree : ExprTree} (hspells : Spells tree e) (h : e.Over env)
    (hscalar : ¬ e.IndexesArrays) (limits : Limits) :
    ∃ span, Makes limits env tree.events none span := by
  induction hspells with
  | name ht => exact absurd trivial hscalar
  | literal ht => exact absurd trivial hscalar
  | @group opening closing inner e hinner ih =>
    obtain ⟨span, hmakes⟩ := ih h hscalar
    refine ⟨opening.span.cover closing.span, fun s hs => ?_⟩
    obtain ⟨henv, hops⟩ := hmakes s hs
    rw [ExprTree.events, List.foldl_append]
    simp only [List.foldl_cons, List.foldl_nil, act, State.group, hops, henv, and_self]
  | @unary op inner type x hinner ih =>
    obtain ⟨span, hmakes⟩ := ih h.1 hscalar
    refine ⟨op.span.cover span, fun s hs => ?_⟩
    obtain ⟨henv, hops⟩ := hmakes s hs
    rw [ExprTree.events, List.foldl_append]
    simp only [List.foldl_cons, List.foldl_nil, act, State.unary, hops, State.pushOperand, henv,
      and_self]
  | @binary op left right type l r hleft hright ihl ihr =>
    -- each side makes an operand, and one of the two has no expression
    have hside {x : Expr} {tree : ExprTree} (hspells : Spells tree x) (hx : x.Over env)
        (ih : x.Over env → ¬ x.IndexesArrays → ∃ span, Makes limits env tree.events none span) :
        ∃ made span, (¬ x.IndexesArrays → made = none) ∧
          Makes limits env tree.events made span := by
      by_cases harrays : x.IndexesArrays
      · obtain ⟨x', span, -, hfold⟩ := foldl_spells hspells hx harrays limits
        refine ⟨some x', span, fun hscalar => absurd harrays hscalar, fun s hs => ?_⟩
        rw [hfold s hs]
        exact ⟨hs, rfl⟩
      · obtain ⟨span, hmakes⟩ := ih hx harrays
        exact ⟨none, span, fun _ => rfl, hmakes⟩
    obtain ⟨left', a, hlnone, hlmakes⟩ := hside hleft h.1 ihl
    obtain ⟨right', b, hrnone, hrmakes⟩ := hside hright h.2.1 ihr
    refine ⟨a.cover b, fun s hs => ?_⟩
    obtain ⟨hlenv, hlops⟩ := hlmakes s hs
    obtain ⟨hrenv, hrops⟩ := hrmakes _ hlenv
    rw [hlops] at hrops
    rw [ExprTree.events, List.foldl_append, List.foldl_append]
    rcases Classical.not_and_iff_not_or_not.mp hscalar with hl | hr
    · simp only [List.foldl_cons, List.foldl_nil, act, State.binary, hrops, hlnone hl,
        State.pushOperand, hrenv, and_self]
    · simp only [List.foldl_cons, List.foldl_nil, act, State.binary, hrops, hrnone hr,
        State.pushOperand, hrenv, and_self]
  | @index array closing place a i harray hplace ih =>
    obtain ⟨hdeclared, hi⟩ := h
    by_cases hiarrays : i.IndexesArrays
    · have hkind : a.type.kind ≠ .array := fun hkind => hscalar ⟨hkind, hiarrays⟩
      obtain ⟨i', span, -, hfold⟩ := foldl_spells hplace hi hiarrays limits
      refine ⟨array.span.cover closing.span, fun s hs => ?_⟩
      rw [ExprTree.events, List.cons_append, List.foldl_cons, act_name_of_word hdeclared harray hs,
        List.foldl_append, hfold (s.pushOperand (some (.identifier a)) array.span) hs]
      simp only [List.foldl_cons, List.foldl_nil, act, State.index, State.pushOperand,
        if_neg hkind, State.env_report, State.operands_report, hs, and_self]
    · obtain ⟨span, hmakes⟩ := ih hi hiarrays
      refine ⟨array.span.cover closing.span, fun s hs => ?_⟩
      obtain ⟨henv, hops⟩ := hmakes (s.pushOperand (some (.identifier a)) array.span) hs
      rw [ExprTree.events, List.cons_append, List.foldl_cons, act_name_of_word hdeclared harray hs,
        List.foldl_append]
      generalize place.events.foldl (act limits)
        (s.pushOperand (some (.identifier a)) array.span) = t at henv hops
      simp only [List.foldl_cons, List.foldl_nil, act, State.index, hops, State.pushOperand, henv,
        and_self]

/-! ### Samples -/

/-- A state behind the declarations of an array and a scalar. -/
def printState : State :=
  let declared := (State.start {} {}).declare {} ⟨.identifier, {}, utf8 "a"⟩ (.array .int32 4)
  declared.declare {} ⟨.identifier, {}, utf8 "x"⟩ .int32

/-- The array of that state. -/
def printArray : Identifier :=
  ⟨utf8 "a", .array .int32 4, 0⟩

/-- The scalar of that state. -/
def printScalar : Identifier :=
  ⟨utf8 "x", .int32, 16⟩

/-- A small integer as a literal. -/
def printLiteral (text : String) : Expr :=
  .constant ⟨.integer, {}, utf8 text⟩ .int32

/-- An element of the array, at a product whose left factor is a sum. -/
def arrayElement : Expr :=
  .index printArray
    (.arithmetic .star .int64
      (.arithmetic .plus .int64 (.unary .minus .int64 (printLiteral "1")) (printLiteral "2"))
      (.identifier printScalar))

/-- An element of the scalar. -/
def scalarElement : Expr :=
  .index printScalar (printLiteral "1")

/-- A char literal with an escape that is none. -/
def escapedChar : Expr :=
  .constant ⟨.char, {}, utf8 "'\\q'"⟩ .char

/-- A source of a printed expression. -/
def printSource (e : Expr) : SourceFile :=
  .ofContent 0 (utf8 "print.ez") (e.print .none) 0

theorem declares_printScalar : printState.env.Declares printScalar :=
  ⟨by decide +kernel, by decide +kernel⟩

theorem over_printLiteral_one : (printLiteral "1").Over printState.env :=
  ⟨rfl, ⟨[], by decide +kernel⟩, fun _ _ => rfl⟩

theorem over_arrayElement : arrayElement.Over printState.env := by
  have harray : printState.env.Declares printArray := ⟨by decide +kernel, by decide +kernel⟩
  have htwo : (printLiteral "2").Over printState.env :=
    ⟨rfl, ⟨[], by decide +kernel⟩, fun _ _ => rfl⟩
  exact ⟨harray, ⟨⟨over_printLiteral_one, rfl⟩, htwo, rfl⟩, declares_printScalar, rfl⟩

/-! ### Reading back -/

theorem finish_not_mem_events (tree : ExprTree) : .finish ∉ tree.events := by
  induction tree <;> simp_all [ExprTree.events]

section Print

variable {s : State} {f : SourceFile} {extra : Parse.Parens}

/-- A printed expression is read as a tree that spells it, up to the end of the source. -/
theorem exists_spelled (h : e.Over env) (hcontent : f.content = e.print extra)
    (hsize : f.content.length < UInt32.size) :
    ∃ tree, Spells tree e ∧ (parseExpr f.input).Reads () tree.events [] ∧
      .finish ∉ (parseExpr f.input).events := by
  have hsource := h.isSource
  have htokens : f.input.tokens.map Token.word = e.words extra .expr := by
    rw [← (SourceFile.words_of_spaced hsize (h.lexes_words extra) hcontent).1,
      Parse.Input.tokens, List.map_map]
    rfl
  obtain ⟨tree, htree, hspells⟩ := Expr.derives_words hsource extra .expr _ htokens
  have hreads : (parseExpr f.input).Reads () tree.events [] :=
    Parse.reads_parseExpr_of (Parse.isRead_of_isExpr htree []) Parse.Precedence.isOperator_endOfFile
      (by decide) (List.append_nil _).symm
  exact ⟨tree, hspells, hreads, fun hmem =>
    finish_not_mem_events tree (hreads.events ▸ List.mem_filter.mpr ⟨hmem, rfl⟩)⟩

/-- Reading a printed expression yields its operand, and tells what lexing has found. -/
theorem foldl_print (h : e.Over s.env) (harrays : e.IndexesArrays) (hrunning : s.phase = .running)
    (limits : Limits) (hcontent : f.content = e.print extra)
    (hsize : f.content.length < UInt32.size) :
    ∃ e' span, e'.erase = e.erase ∧ (parseExpr f.input).events.foldl (step limits) s =
      { s.pushOperand (some e') span with reports := lexed f.input.ahead ++ s.reports } := by
  obtain ⟨tree, hspells, hreads, hunfinished⟩ := exists_spelled h hcontent hsize
  obtain ⟨e', span, herase, hfold⟩ := foldl_spells hspells h harrays limits
  have hmade : (significant (parseExpr f.input).events).foldl (act limits) s =
      s.pushOperand (some e') span := by
    rw [hreads.events, hfold s rfl]
  have hlooks : Parse.looks (parseExpr f.input).events = f.input.ahead := by
    have hall : Parse.looks (parseExpr f.input).events ++ (parseExpr f.input).rest.unseen =
        f.input.ahead := Parse.looks_parseExpr f.input
    have hnone : (parseExpr f.input).rest.unseen = [] := by
      rw [Parse.Input.unseen, List.map_eq_nil_iff.mp hreads.rest]
      exact ite_self _
    rwa [hnone, List.append_nil] at hall
  refine ⟨e', span, herase, ?_⟩
  rw [foldl_step_of_unfinished hrunning hunfinished, foldl_lexed (by rw [hmade]; rfl), hmade,
    hlooks]

/-- Lexing has nothing to tell about a printed expression if and only if it has nothing to tell
about its names and literals. -/
theorem lexed_print_eq_nil_iff (h : e.Over env) (hcontent : f.content = e.print extra)
    (hsize : f.content.length < UInt32.size) : lexed f.input.ahead = [] ↔ e.Silent := by
  obtain ⟨htokens, hall⟩ := SourceFile.words_of_spaced hsize (h.lexes_words extra) hcontent
  calc lexed f.input.ahead = []
      ↔ ∀ l ∈ f.input.ahead, l.diagnostics = [] := by
        simp [lexed, List.flatMap_eq_nil_iff]
    _ ↔ ∀ l ∈ f.input.ahead, l.token.word.Lexes [] := forall₂_congr hall
    _ ↔ ∀ w ∈ e.words extra .expr, w.Lexes [] := by
        rw [← htokens, List.forall_mem_map]
        rfl
    _ ↔ e.Silent := Expr.forall_words_iff Expr.lexes_mark h.isSource extra .expr

/-- A printed expression, with any number of further parentheses, is read back: the operand is the
expression that was printed, but for the places of its tokens, and nothing is told but what lexing
has found about its names and literals. -/
theorem parseExpr_print (h : e.Over s.env) (harrays : e.IndexesArrays)
    (hrunning : s.phase = .running) (limits : Limits) (hcontent : f.content = e.print extra)
    (hsize : f.content.length < UInt32.size) :
    (parseExpr f.input).value = some () ∧ (parseExpr f.input).rest.ahead = [] ∧
      (∃ e' span, e'.erase = e.erase ∧ (parseExpr f.input).events.foldl (step limits) s =
        { s.pushOperand (some e') span with reports := lexed f.input.ahead ++ s.reports }) ∧
      (lexed f.input.ahead = [] ↔ e.Silent) := by
  obtain ⟨tree, -, hreads, -⟩ := exists_spelled h hcontent hsize
  exact ⟨hreads.value, List.map_eq_nil_iff.mp hreads.rest,
    foldl_print h harrays hrunning limits hcontent hsize, lexed_print_eq_nil_iff h hcontent hsize⟩

/-- The element of the array is read back, and nothing is told about it. -/
theorem parseExpr_print_arrayElement :
    arrayElement.Over printState.env ∧ arrayElement.IndexesArrays ∧
      arrayElement.print .none = utf8 "a [ ( - 1 + 2 ) * x ]" ∧
      ∃ e' span, e'.erase = arrayElement.erase ∧
        (parseExpr (printSource arrayElement).input).events.foldl (step {}) printState =
          printState.pushOperand (some e') span := by
  have harrays : arrayElement.IndexesArrays := ⟨rfl, ⟨trivial, trivial⟩, trivial⟩
  have hcontent : (printSource arrayElement).content = arrayElement.print .none := rfl
  obtain ⟨-, -, ⟨e', span, herase, hfold⟩, hsilent⟩ :=
    parseExpr_print over_arrayElement harrays rfl {} hcontent (by decide +kernel)
  refine ⟨over_arrayElement, harrays, by decide +kernel, e', span, herase, ?_⟩
  rw [hfold, hsilent.mpr (by decide +kernel)]
  rfl

/-- A printed expression with an element of something that is no array is refused: its operand has
no expression. -/
theorem operands_print_refused (h : e.Over s.env) (hscalar : ¬ e.IndexesArrays)
    (hrunning : s.phase = .running) (limits : Limits) (hcontent : f.content = e.print extra)
    (hsize : f.content.length < UInt32.size) :
    ∃ span, ((parseExpr f.input).events.foldl (step limits) s).operands =
      ⟨none, span⟩ :: s.operands := by
  obtain ⟨tree, hspells, hreads, hunfinished⟩ := exists_spelled h hcontent hsize
  obtain ⟨span, hmakes⟩ := makes_refused hspells h hscalar limits
  refine ⟨span, ?_⟩
  rw [foldl_step_of_unfinished hrunning hunfinished, ← State.operands_quiet, quiet_foldl,
    hreads.events]
  exact (hmakes s.quiet rfl).2

/-- The element of the scalar can be built, and it is not read back. The char can be built as well,
and it is not read back without a report. -/
theorem parseExpr_print_refused :
    (scalarElement.Over printState.env ∧ scalarElement.print .none = utf8 "x [ 1 ]" ∧
      ¬ ∃ e' span told, e'.erase = scalarElement.erase ∧
        (parseExpr (printSource scalarElement).input).events.foldl (step {}) printState =
          { printState.pushOperand (some e') span with reports := told }) ∧
    escapedChar.Over printState.env ∧ escapedChar.print .none = utf8 "'\\q'" ∧
      ((parseExpr (printSource escapedChar).input).events.foldl (step {}) printState).reports ≠
        [] := by
  have hover : scalarElement.Over printState.env := ⟨declares_printScalar, over_printLiteral_one⟩
  have hscalar : ¬ scalarElement.IndexesArrays := fun h => absurd h.1 (by decide)
  have hcontent : (printSource scalarElement).content = scalarElement.print .none := rfl
  have hchar : escapedChar.Over printState.env :=
    ⟨rfl, ⟨[(3, .unknownEscape)], by decide +kernel⟩, fun _ _ => rfl⟩
  have hprint : (printSource escapedChar).content = escapedChar.print .none := rfl
  refine ⟨⟨hover, by decide +kernel, ?_⟩, hchar, by decide +kernel, ?_⟩
  · rintro ⟨e', span, told, -, hfold⟩
    obtain ⟨span', hops⟩ :=
      operands_print_refused hover hscalar rfl {} hcontent (by decide +kernel)
    rw [hfold] at hops
    cases hops
  · obtain ⟨e', span, -, hfold⟩ := foldl_print hchar trivial rfl {} hprint (by decide +kernel)
    have hloud : lexed (printSource escapedChar).input.ahead ≠ [] := by
      rw [Ne, lexed_print_eq_nil_iff hchar hprint (by decide +kernel)]
      decide +kernel
    rw [hfold]
    exact fun hnone => hloud (List.append_eq_nil_iff.mp hnone).1

end Print

end Analysis

end ThreeAddress
