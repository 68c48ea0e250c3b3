import ThreeAddress.Proofs.Parse.Combinators

/-!
# The operand stack

Operands come up in front of their operator, so reading an expression works on a stack: an operator
finds its operands on top and leaves one in their place. Whatever the tokens are, no operator comes
up without its operands. Blocks and declarations come up when there is no operand, and a statement
is finished when there is exactly one.

## Main definitions

* `Chained` : how events change a number, each of them as a relation tells.
* `Event.Stacks` : how an event changes the number of operands.
* `Balanced` : how events change the number of operands.

## Main results

* `lifts_parseExpr` : reading an expression adds one operand.
* `balanced_statements`, `balanced_parseProgram` : no operand is left behind statements.
-/

namespace ThreeAddress.Parse

/-! ### Events one after another -/

/-- From one number, events one after another make another one, if each of them changes it as a
relation tells. -/
inductive Chained (R : Event → Nat → Nat → Prop) : List Event → Nat → Nat → Prop
  | nil (n : Nat) : Chained R [] n n
  | cons {e : Event} {es : List Event} {m k n : Nat} (he : R e m k) (hes : Chained R es k n) :
      Chained R (e :: es) m n

namespace Chained

variable {R : Event → Nat → Nat → Prop} {es fs : List Event} {m k n : Nat}

theorem single {e : Event} (he : R e m n) : Chained R [e] m n :=
  .cons he (.nil n)

theorem append (hes : Chained R es m k) (hfs : Chained R fs k n) : Chained R (es ++ fs) m n := by
  induction hes with
  | nil => exact hfs
  | cons he _ ih => exact .cons he (ih hfs)

theorem exists_of_append (h : Chained R (es ++ fs) m n) :
    ∃ k, Chained R es m k ∧ Chained R fs k n := by
  induction es generalizing m with
  | nil => exact ⟨m, .nil m, h⟩
  | cons e es ih =>
    obtain _ | ⟨he, hrest⟩ := h
    obtain ⟨k, hes, hfs⟩ := ih hrest
    exact ⟨k, .cons he hes, hfs⟩

/-- Events that do not change a number. -/
theorem same (hes : ∀ e ∈ es, R e n n) : Chained R es n n := by
  induction es with
  | nil => exact .nil n
  | cons e es ih =>
    obtain ⟨he, hes⟩ := List.forall_mem_cons.mp hes
    exact .cons he (ih hes)

/-- What a state has to do with a number is kept by running the events. -/
theorem foldl {σ : Type} (f : σ → Event → σ) {P : Nat → σ → Prop}
    (hstep : ∀ (s : σ) (e : Event) (m n : Nat), R e m n → P m s → P n (f s e))
    (hes : Chained R es m n) {s : σ} (h : P m s) : P n (es.foldl f s) := by
  induction hes generalizing s with
  | nil => exact h
  | cons he _ ih => exact ih (hstep _ _ _ _ he h)

end Chained

/-! ### The number of operands -/

/-- From so many operands, an event makes so many. -/
inductive Event.Stacks : Event → Nat → Nat → Prop
  | look (l : Lexeme) (n : Nat) : Stacks (.look l) n n
  | complain (d : Diagnostic) (n : Nat) : Stacks (.complain d) n n
  | openBlock : Stacks .openBlock 0 0
  | closeBlock : Stacks .closeBlock 0 0
  | declare (name : Token) (type : DataType) : Stacks (.declare name type) 0 0
  | name (t : Token) (n : Nat) : Stacks (.name t) n (n + 1)
  | literal (t : Token) (n : Nat) : Stacks (.literal t) n (n + 1)
  | invalid (span : Span) (n : Nat) : Stacks (.invalid span) n (n + 1)
  | binary (op : Token) (n : Nat) : Stacks (.binary op) (n + 2) (n + 1)
  | unary (op : Token) (n : Nat) : Stacks (.unary op) (n + 1) (n + 1)
  | group (opening closing : Span) (n : Nat) : Stacks (.group opening closing) (n + 1) (n + 1)
  | index (closing : Span) (n : Nat) : Stacks (.index closing) (n + 2) (n + 1)
  | finish : Stacks .finish 1 0
  | abandon (n : Nat) : Stacks .abandon n 0

/-- From so many operands, events one after another make so many. -/
abbrev Balanced : List Event → Nat → Nat → Prop :=
  Chained Event.Stacks

namespace Balanced

variable {es : List Event} {m n : Nat}

theorem lookEvents (i : Input) (n : Nat) : Balanced i.lookEvents n n := by
  unfold Input.lookEvents
  split
  · split
    · exact .nil n
    · exact .single (.look _ n)
  · exact .nil n

theorem take (hes : Balanced es m n) {α : Type} (i : Input) (a : α) :
    Balanced (Step.take i a es).events m n :=
  (lookEvents i m).append hes

theorem complain {α : Type} (i : Input) (code : Code) (message : Bytes) (notes : List Note)
    (n : Nat) : Balanced (Step.complain i code message notes : Step α i).events n n :=
  (lookEvents i n).append (.single (.complain _ n))

theorem expect (i : Input) (k : TokenKind) (code : Code) (message : Bytes) (notes : List Note)
    (n : Nat) : Balanced (Step.expect i k code message notes).events n n := by
  unfold Step.expect
  split
  · exact take (.nil n) i _
  · exact complain i _ _ _ n

end Balanced

namespace Step

variable {α β : Type} {i j : Input} {m k n : Nat}

/-- From so many operands, a step with a value makes so many. -/
def Lifts (s : Step α i) (m n : Nat) : Prop :=
  ∃ r, Balanced s.events m r ∧ (s.value ≠ none → r = n)

namespace Lifts

theorem ofBalanced {s : Step α i} (h : Balanced s.events m n) : s.Lifts m n :=
  ⟨n, h, fun _ => rfl⟩

theorem ofAfter {s : Step α j} (hs : s.Lifts k n) {es : List Event} (hes : Balanced es m k)
    (h : j.ahead <:+ i.ahead) : (s.after es h).Lifts m n := by
  obtain ⟨r, hr, hvalue⟩ := hs
  exact ⟨r, hes.append hr, hvalue⟩

theorem ofBehind {s : Step α i.tail} (hs : s.Lifts m n) : s.behind.Lifts m n :=
  hs.ofAfter (.lookEvents i m) _

theorem ofBind {s : Step α i} (hs : s.Lifts m k)
    {next : α → (j : Input) → j.ahead <:+ i.ahead → Step β j}
    (hnext : ∀ a j h, (next a j h).Lifts k n) : (s.bind next).Lifts m n := by
  obtain ⟨r, hr, hvalue⟩ := hs
  unfold Step.bind
  split
  · rename_i a ha
    obtain rfl := hvalue (by simp [ha])
    exact (hnext a s.rest s.suffix).ofAfter hr _
  · exact ⟨r, hr, by simp⟩

theorem ofYield {s : Step α i} (hs : s.Lifts m k) (event : α → Event)
    (hevent : ∀ a, (event a).Stacks k n) (value : β) : (s.yield event value).Lifts m n := by
  obtain ⟨r, hr, hvalue⟩ := hs
  unfold Step.yield
  split
  · rename_i a ha
    obtain rfl := hvalue (by simp [ha])
    exact .ofBalanced (hr.append (.single (hevent a)))
  · exact ⟨r, hr, by simp⟩

theorem ofPure (a : α) (n : Nat) : (Step.pure a : Step α i).Lifts n n :=
  .ofBalanced (.nil n)

theorem ofLook (a : α) (h : i.look.ahead <:+ i.ahead) (n : Nat) :
    (⟨i.lookEvents, some a, i.look, h⟩ : Step α i).Lifts n n :=
  .ofBalanced (.lookEvents i n)

theorem ofTake (a : α) {es : List Event} (hes : Balanced es m n) : (Step.take i a es).Lifts m n :=
  .ofBalanced (hes.take i a)

theorem ofComplain (code : Code) (message : Bytes) (notes : List Note) (m n : Nat) :
    (Step.complain i code message notes : Step α i).Lifts m n :=
  ⟨m, .complain i code message notes m, by simp [Step.complain]⟩

theorem ofExpect (k : TokenKind) (code : Code) (message : Bytes) (notes : List Note) (n : Nat) :
    (Step.expect i k code message notes).Lifts n n :=
  .ofBalanced (.expect i k code message notes n)

end Lifts

end Step

open Step (Lifts)

/-! ### Expressions -/

/-- A run of invalid tokens counts as one operand. -/
theorem lifts_parseInvalid (span : Span) (i : Input) (n : Nat) :
    (parseInvalid span i).Lifts n (n + 1) := by
  have hend {i : Input} (hk : i.kind ≠ .invalid) (span : Span) :
      (parseInvalid span i).Lifts n (n + 1) := by
    rw [parseInvalid_end span hk]
    exact .ofBalanced ((Balanced.lookEvents i n).append (.single (.invalid span n)))
  induction span, i using parseInvalid.induct with
  | case1 span i l rest hahead hk ih =>
    rw [parseInvalid_more span hahead hk]
    exact ih.ofBehind
  | case2 span i l rest hahead hk => exact hend (by rwa [Input.kind_of_ahead hahead]) span
  | case3 span i hahead => exact hend (by simp [Input.kind_of_nil hahead]) span

/-- Every alternative of the expression grammar makes as many operands as it should. -/
theorem graded_lifts : Step.Graded fun m n {_ _} s => s.Lifts m n where
  look n _ := .ofLook () _ n
  nothing n := .ofComplain _ _ _ n (n + 1)
  literal n _ _ := .ofTake () (.single (.literal _ n))
  name n _ _ hs := (hs.ofAfter (.single (.name _ n)) _).ofBehind
  invalid n _ _ := (lifts_parseInvalid _ _ n).ofBehind
  bind hs hnext := hs.ofBind hnext
  operator n _ _ hs hnext :=
    ((hs.ofYield _ (fun _ => .binary _ n) ()).ofBind hnext).ofBehind
  unary n _ _ hs := (hs.ofYield _ (fun _ => .unary _ n) ()).ofBehind
  group n _ _ hs := (hs.ofBind fun _ _ _ => (Lifts.ofExpect _ _ _ _ (n + 1)).ofYield _
    (fun _ => .group _ _ n) ()).ofBehind
  index n _ _ hs := (hs.ofBind fun _ _ _ => (Lifts.ofExpect _ _ _ _ (n + 2)).ofYield _
    (fun _ => .index _ n) ()).ofBehind

theorem lifts_parseExpr (i : Input) (n : Nat) : (parseExpr i).Lifts n (n + 1) :=
  graded_lifts.expression i n

/-! ### Types -/

theorem lifts_parseSize (i : Input) (n : Nat) : (parseSize i).Lifts n n := by
  refine Lifts.ofBind (.ofExpect _ _ _ _ n) fun size j _ => ?_
  refine Lifts.ofBind (.ofExpect _ _ _ _ n) fun _ k _ => ?_
  split
  · exact .ofPure _ n
  · exact .ofBalanced (.single (.complain _ n))

theorem lifts_parseType (i : Input) (n : Nat) : (parseType i).Lifts n n := by
  induction i using parseType_induction with
  | none i hk =>
    rw [parseType_none hk]
    exact .ofComplain _ _ _ n n
  | array i l rest h hk ih =>
    rw [parseType_array h hk]
    exact ((lifts_parseSize i.tail n).ofBind fun size j hj =>
      (ih j hj).ofBind fun elem _ _ => .ofPure (DataType.array elem size) n).ofBehind
  | scalar i l rest t h hk ht =>
    rw [parseType_scalar h hk ht]
    exact .ofTake t (.nil n)
  | string i l rest h hk ht =>
    rw [parseType_string h hk ht]
    exact (Lifts.ofBind (.ofExpect _ _ _ _ n) fun _ j _ =>
      (lifts_parseSize j n).ofBind fun size _ _ => .ofPure (DataType.string size) n).ofBehind

/-! ### Statements -/

theorem balanced_skipStatement (i : Input) (n : Nat) : Balanced (skipStatement i).events n n := by
  induction i using skipStatement_induction with
  | stop i h =>
    rw [skipStatement_end h]
    exact .lookEvents i n
  | semicolon i l rest h hk =>
    rw [skipStatement_semicolon h hk]
    exact .take (.nil n) i ()
  | more i l rest h hs hb ih =>
    rw [skipStatement_more h hs hb]
    exact (Balanced.lookEvents i n).append ih

/-- A statement that is given up leaves no operand either. -/
theorem balanced_orResync {α : Type} {i : Input} {s : Step α i} (hs : s.Lifts 0 0) :
    Balanced s.orResync.events 0 0 := by
  obtain ⟨r, hr, hvalue⟩ := hs
  unfold Step.orResync
  split
  · rename_i a ha
    obtain rfl := hvalue (by simp [ha])
    exact hr
  · exact hr.append (.cons (.abandon r) (balanced_skipStatement s.rest 0))

theorem balanced_parseLet (i : Input) : Balanced (parseLet i).events 0 0 := by
  refine balanced_orResync (Lifts.ofBind (.ofExpect _ _ _ _ 0) fun name j _ => ?_)
  refine Lifts.ofBind (.ofExpect _ _ _ _ 0) fun _ k _ => ?_
  have hdeclare := (lifts_parseType k 0).ofYield (fun type => .declare name type)
    (fun type => .declare name type) ()
  exact hdeclare.ofBind fun _ l _ => .ofExpect _ _ _ _ 0

theorem lifts_parseExprBody (i : Input) : (parseExprBody i).Lifts 0 1 :=
  (lifts_parseExpr i 0).ofBind fun _ _ _ => .ofExpect _ _ _ _ 1

theorem balanced_parseExprStmt (i : Input) : Balanced (parseExprStmt i).events 0 0 :=
  balanced_orResync ((lifts_parseExprBody i).ofYield (fun _ => .finish) (fun _ => .finish) ())

theorem balanced_statements :
    (∀ i, Balanced (parseStmt i).events 0 0) ∧
      ∀ opening i, Balanced (parseBlock opening i).events 0 0 := by
  apply parseStmt_induction
  case nil =>
    intro i h
    rw [parseStmt_nil h]
    exact .nil 0
  case declaration =>
    intro i l rest h hk
    rw [parseStmt_let h hk]
    exact (Balanced.lookEvents i 0).append (balanced_parseLet _)
  case inner =>
    intro i l rest h hk hblock
    rw [parseStmt_block h hk]
    exact (Balanced.lookEvents i 0).append (.cons .openBlock hblock)
  case brace =>
    intro i l rest h hk
    rw [parseStmt_brace h hk]
    exact (Balanced.lookEvents i 0).append (.single (.complain _ 0))
  case expr =>
    intro i l rest h hk
    rw [parseStmt_expr h hk]
    exact balanced_parseExprStmt i
  case unclosed =>
    intro opening i h
    rw [parseBlock_nil opening h]
    exact (Balanced.expect i _ _ _ _ 0).append (.single .closeBlock)
  case close =>
    intro opening i l rest h hk
    rw [parseBlock_close opening h hk]
    exact .take (.single .closeBlock) i ()
  case more =>
    intro opening i l rest h hk hstmt hblock
    rw [parseBlock_more opening h hk]
    exact Chained.append hstmt hblock

/-- No operand is left behind a whole source. -/
theorem balanced_parseProgram (i : Input) : Balanced (parseProgram i) 0 0 := by
  induction i using parseProgram.induct with
  | case1 i h =>
    rw [parseProgram_nil h]
    exact .nil 0
  | case2 i l rest h s ih =>
    rw [parseProgram_more h]
    exact (balanced_statements.1 i).append ih

end ThreeAddress.Parse
