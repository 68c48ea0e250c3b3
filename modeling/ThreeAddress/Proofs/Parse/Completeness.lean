import ThreeAddress.Proofs.Parse.Soundness

/-!
# What the grammar derives is read

A derived list of tokens is read through its end, without a syntax complaint, and the events of
reading it are those of its tree. The only other events are first looks at tokens, which
`significant` leaves out.

Operators of one level are read by a loop while the grammar puts the level itself on the left.
So a derivation of a sum is not shown to be read whole: it is shown to lead up to the loop, whatever
the loop goes on to read (`Leads`).

## Main definitions

* `significant` : events without first looks.
* `Step.Reads` : a step has a value, and certain events and tokens left.

## Main results

* `significant_parseProgram` : the events of a derived source are those of its tree.
-/

namespace ThreeAddress.Parse

/-- Tests for a first look at a token. -/
def Event.isLook : Event → Bool
  | .look _ => true
  | _ => false

/-- The events other than first looks. -/
def significant (es : List Event) : List Event :=
  es.filter fun e => !e.isLook

@[simp] theorem significant_nil : significant [] = [] := rfl

theorem significant_cons_of_isLook {e : Event} (he : e.isLook = true) (es : List Event) :
    significant (e :: es) = significant es := by
  simp [significant, he]

theorem significant_cons {e : Event} (he : e.isLook = false) (es : List Event) :
    significant (e :: es) = e :: significant es := by
  simp [significant, he]

@[simp] theorem significant_append (es fs : List Event) :
    significant (es ++ fs) = significant es ++ significant fs :=
  List.filter_append ..

@[simp] theorem significant_lookEvents (i : Input) : significant i.lookEvents = [] := by
  unfold Input.lookEvents
  split
  · split <;> rfl
  · rfl

theorem mem_significant {e : Event} {es : List Event} :
    e ∈ significant es ↔ e ∈ es ∧ e.isLook = false := by
  simp [significant]

/-- The kind of the first token, as the parser sees it. -/
def headKind : List Token → TokenKind
  | [] => .endOfFile
  | t :: _ => t.kind

theorem Input.kind_eq (i : Input) : i.kind = headKind i.tokens := by
  unfold Input.kind Input.tokens
  cases i.ahead <;> rfl

theorem Input.exists_of_tokens {i : Input} {t : Token} {us : List Token} (h : i.tokens = t :: us) :
    ∃ l rest, i.ahead = l :: rest ∧ l.token = t ∧ i.tail.tokens = us := by
  cases ha : i.ahead with
  | nil => simp [Input.tokens_of_nil ha] at h
  | cons l rest =>
    rw [Input.tokens_of_ahead ha] at h
    obtain ⟨rfl, rfl⟩ := List.cons.inj h
    exact ⟨l, rest, rfl, rfl, rfl⟩

namespace Step

variable {α β : Type} {i : Input}

/-- A step yields a value, significant events and tokens left. -/
structure Reads (s : Step α i) (a : α) (es : List Event) (us : List Token) : Prop where
  /-- The value. -/
  value : s.value = some a
  /-- The events. -/
  events : significant s.events = es
  /-- The tokens left. -/
  rest : s.rest.tokens = us

namespace Reads

variable {s : Step α i} {a : α} {es fs : List Event} {us vs : List Token}

theorem ofPure (a : α) : (Step.pure a : Step α i).Reads a [] i.tokens :=
  ⟨rfl, rfl, rfl⟩

/-- Looking at the next token. -/
theorem ofLook (a : α) (h : i.look.ahead <:+ i.ahead) (hus : i.tokens = us) :
    (⟨i.lookEvents, some a, i.look, h⟩ : Step α i).Reads a [] us :=
  ⟨rfl, significant_lookEvents i, hus⟩

theorem ofAfter {j : Input} {s : Step α j} (hs : s.Reads a fs us) (hes : significant es = es)
    (h : j.ahead <:+ i.ahead) : (s.after es h).Reads a (es ++ fs) us :=
  ⟨hs.value, by simp only [Step.after, significant_append, hes, hs.events], hs.rest⟩

theorem ofBehind {s : Step α i.tail} (hs : s.Reads a es us) : s.behind.Reads a es us :=
  ⟨hs.value, by simp only [Step.behind, Step.after, significant_append, significant_lookEvents,
    hs.events, List.nil_append], hs.rest⟩

theorem ofBind {b : β} {next : α → (j : Input) → j.ahead <:+ i.ahead → Step β j}
    (hs : s.Reads a es us) (hnext : ∀ j h, j.tokens = us → (next a j h).Reads b fs vs) :
    (s.bind next).Reads b (es ++ fs) vs := by
  have hn := hnext s.rest s.suffix hs.rest
  have hbind : s.bind next = (next a s.rest s.suffix).after s.events s.suffix := by
    unfold Step.bind
    simp only [hs.value]
  rw [hbind]
  exact ⟨hn.value, by simp only [Step.after, significant_append, hs.events, hn.events], hn.rest⟩

/-- A value computed from what is read. -/
theorem ofMap (f : α → β) (hs : s.Reads a es us) :
    (s.bind fun a _ _ => Step.pure (f a)).Reads (f a) es us := by
  have hread : (s.bind fun a _ _ => Step.pure (f a)).Reads (f a) (es ++ []) us :=
    hs.ofBind fun j _ hj => hj ▸ ofPure (f a)
  rwa [List.append_nil] at hread

theorem ofYield {event : α → Event} {value : β} (hs : s.Reads a es us)
    (hevent : (event a).isLook = false) :
    (s.yield event value).Reads value (es ++ [event a]) us := by
  have hyield : s.yield event value = ⟨s.events ++ [event a], some value, s.rest, s.suffix⟩ := by
    unfold Step.yield
    simp only [hs.value]
  rw [hyield]
  refine ⟨rfl, ?_, hs.rest⟩
  rw [significant_append, hs.events]
  simp [significant, hevent]

theorem ofTake {t : Token} (a : α) (h : i.tokens = t :: us) (hes : significant es = es) :
    (Step.take i a es).Reads a es us := by
  obtain ⟨l, rest, _, _, htail⟩ := Input.exists_of_tokens h
  refine ⟨rfl, ?_, htail⟩
  simp only [Step.take, significant_append, significant_lookEvents, hes, List.nil_append]

theorem ofExpect {k : TokenKind} {code : Code} {message : Bytes} {notes : List Note} {t : Token}
    (h : i.tokens = t :: us) (ht : t.kind = k) :
    (Step.expect i k code message notes).Reads t [] us := by
  obtain ⟨l, rest, ha, rfl, _⟩ := Input.exists_of_tokens h
  have hhead : i.head = l.token := by rw [Input.head, ha]
  rw [Step.expect, if_pos ((Input.kind_of_ahead ha).trans ht), hhead]
  exact ofTake _ h rfl

/-- A step and the token that has to follow it. -/
theorem ofThenExpect {k : TokenKind} {code : Code} {message : Bytes} {notes : List Note}
    {t : Token} (hs : s.Reads a es (t :: us)) (ht : t.kind = k) :
    (s.bind fun _ j _ => Step.expect j k code message notes).Reads t es us := by
  have hread : (s.bind fun _ j _ => Step.expect j k code message notes).Reads t (es ++ []) us :=
    hs.ofBind fun j _ hj => ofExpect hj ht
  rwa [List.append_nil] at hread

theorem ofOrResync (hs : s.Reads a es us) : s.orResync.Reads () es us := by
  unfold Step.orResync
  simp only [hs.value]
  exact ⟨rfl, hs.events, hs.rest⟩

end Reads

end Step

open Step (Reads)

/-! ### Expressions -/

/-- The first token of a factor. -/
theorem IsExpr.head_factor {ts : List Token} {e : ExprTree} (h : IsExpr .factor ts e) :
    ∃ t us, ts = t :: us ∧ startsOperand t.kind = true := by
  cases h with
  | group hopening _ _ => exact ⟨_, _, rfl, by rw [hopening]; rfl⟩
  | literal ht => exact ⟨_, _, rfl, by simp [startsOperand, ht]⟩
  | name ht => exact ⟨_, _, rfl, by rw [ht]; rfl⟩
  | index harray _ _ _ => exact ⟨_, _, rfl, by rw [harray]; rfl⟩

/-- The first token of an expression. -/
theorem IsExpr.head {level : Level} {ts : List Token} {e : ExprTree} (h : IsExpr level ts e) :
    ∃ t us, ts = t :: us ∧
      (startsOperand t.kind = true ∨ t.kind = .minus ∨ t.kind = .tilde) := by
  induction h with
  | ofTerm _ ih => exact ih
  | sum _ _ _ ih _ =>
    obtain ⟨t, us, rfl, ht⟩ := ih
    exact ⟨t, _, rfl, ht⟩
  | ofUnary _ ih => exact ih
  | product _ _ _ ih _ =>
    obtain ⟨t, us, rfl, ht⟩ := ih
    exact ⟨t, _, rfl, ht⟩
  | unary hop _ _ => exact ⟨_, _, rfl, .inr hop⟩
  | ofFactor _ ih => exact ih
  | group hopening _ _ _ => exact ⟨_, _, rfl, .inl (by rw [hopening]; rfl)⟩
  | literal ht => exact ⟨_, _, rfl, .inl (by simp [startsOperand, ht])⟩
  | name ht => exact ⟨_, _, rfl, .inl (by rw [ht]; rfl)⟩
  | index harray _ _ _ _ => exact ⟨_, _, rfl, .inl (by rw [harray]; rfl)⟩

theorem reads_binaryTail_end (p : Precedence) {i : Input} {us : List Token} (h : i.tokens = us)
    (hk : p.isOperator (headKind us) = false) : (parseBinaryTail p i).Reads () [] us := by
  rw [parseBinaryTail_end p (by rw [Input.kind_eq, h, hk])]
  exact .ofLook () _ h

theorem reads_index_end {i : Input} {us : List Token} (h : i.tokens = us)
    (hk : headKind us ≠ .leftBracket) : (parseIndex i).Reads () [] us := by
  rw [parseIndex_end (by rwa [Input.kind_eq, h])]
  exact .ofLook () _ h

/-- Reading tokens leads up to the operators of a level: whatever is read from the tokens behind
them, from operators on, is read as well. -/
def Leads (p : Precedence) (ts : List Token) (e : ExprTree) (us : List Token) : Prop :=
  ∀ fs vs, (∀ j : Input, j.tokens = us → (parseBinaryTail p j).Reads () fs vs) →
    ∀ i : Input, i.tokens = ts ++ us → (parseBinary p i).Reads () (e.events ++ fs) vs

section

variable {p : Precedence} {ts us : List Token} {e : ExprTree}

theorem Leads.ofNext (h : ∀ i : Input, i.tokens = ts ++ us → (parseNext p i).Reads () e.events us) :
    Leads p ts e us := by
  intro fs vs htail i hi
  rw [parseBinary]
  exact (h i hi).ofBind fun j _ hj => htail j hj

/-- An operator that the loop takes, in front of an operand that is read. -/
theorem Leads.operator {vs : List Token} {op : Token} {right : ExprTree}
    (h : Leads p ts e (op :: us ++ vs)) (hop : p.isOperator op.kind = true)
    (hright : ∀ i : Input, i.tokens = us ++ vs → (parseNext p i).Reads () right.events vs) :
    Leads p (ts ++ op :: us) (.binary op e right) vs := by
  intro fs ws htail i hi
  have hread := h (right.events ++ [Event.binary op] ++ fs) ws (fun j hj => ?_) i (by simp [hi])
  · simpa [ExprTree.events] using hread
  · obtain ⟨l, rest, ha, rfl, htokens⟩ := Input.exists_of_tokens hj
    rw [parseBinaryTail_operator p ha hop]
    exact (((hright _ htokens).ofYield rfl).ofBind fun k _ hk => htail k hk).ofBehind

/-- In front of a token that the loop does not take, the reading ends there. -/
theorem Leads.reads (h : Leads p ts e us) (hk : p.isOperator (headKind us) = false) {i : Input}
    (hi : i.tokens = ts ++ us) : (parseBinary p i).Reads () e.events us := by
  have hread := h [] us (fun j hj => reads_binaryTail_end p hj hk) i hi
  rwa [List.append_nil] at hread

end

/-- What a derivation at a level means for reading it in front of the tokens `us`. An index must
not follow, and a multiplicative operator must not follow a sum. -/
def IsRead (ts : List Token) (e : ExprTree) (us : List Token) : Level → Prop
  | .expr => Precedence.product.isOperator (headKind us) = false → headKind us ≠ .leftBracket →
      Leads .sum ts e us
  | .term => headKind us ≠ .leftBracket → Leads .product ts e us
  | .unary => headKind us ≠ .leftBracket →
      ∀ i : Input, i.tokens = ts ++ us → (parseUnary i).Reads () e.events us
  | .factor => headKind us ≠ .leftBracket →
      ∀ i : Input, i.tokens = ts ++ us → (parseOperand i).Reads () e.events us

/-- An expression in front of a token that none of its loops takes. -/
theorem reads_parseExpr_of {ts us : List Token} {e : ExprTree} (h : IsRead ts e us .expr)
    (hop : ∀ p : Precedence, p.isOperator (headKind us) = false)
    (hbracket : headKind us ≠ .leftBracket) {i : Input} (hi : i.tokens = ts ++ us) :
    (parseExpr i).Reads () e.events us :=
  (h (hop .product) hbracket).reads (hop .sum) hi

/-- An expression that a closing bracket follows. -/
theorem reads_closed {k : TokenKind} {code : Code} {message : Bytes} {notes : List Note}
    (event : Token → Event) {ts us : List Token} {e : ExprTree} {closing : Token}
    (h : IsRead ts e (closing :: us) .expr) (hclosing : closing.kind = k)
    (hk : k = .rightParen ∨ k = .rightBracket) (hevent : (event closing).isLook = false)
    {i : Input} (hi : i.tokens = ts ++ closing :: us) :
    ((parseExpr i).bind fun _ j _ =>
      (Step.expect j k code message notes).yield event ()).Reads ()
        (e.events ++ [event closing]) us := by
  have hread : (parseExpr i).Reads () e.events (closing :: us) := by
    refine reads_parseExpr_of h (fun p => ?_) ?_ hi
    · rcases hk with rfl | rfl <;> cases p <;> simp [headKind, hclosing, Precedence.isOperator]
    · rcases hk with rfl | rfl <;> simp [headKind, hclosing]
  refine hread.ofBind fun j _ hj => ?_
  exact (Reads.ofExpect hj hclosing).ofYield hevent

/-- A derivation is read. -/
theorem isRead_of_isExpr {level : Level} {ts : List Token} {e : ExprTree}
    (h : IsExpr level ts e) (us : List Token) : IsRead ts e us level := by
  induction h generalizing us with
  | ofTerm _ ih =>
    intro hproduct hbracket
    refine .ofNext fun i hi => ?_
    rw [parseNext]
    exact (ih us hbracket).reads hproduct hi
  | sum _ hop _ ihleft ihright =>
    intro hproduct hbracket
    refine (ihleft _ ?_ ?_).operator (by simpa [Precedence.isOperator] using hop) fun i hi => ?_
    · rcases hop with hop | hop <;> simp [headKind, hop, Precedence.isOperator]
    · rcases hop with hop | hop <;> simp [headKind, hop]
    · rw [parseNext]
      exact (ihright us hbracket).reads hproduct hi
  | ofUnary _ ih =>
    intro hbracket
    refine .ofNext fun i hi => ?_
    rw [parseNext]
    exact ih us hbracket i hi
  | product _ hop _ ihleft ihright =>
    intro hbracket
    refine (ihleft _ ?_).operator (by simpa [Precedence.isOperator] using hop) fun i hi => ?_
    · rcases hop with hop | hop <;> simp [headKind, hop]
    · rw [parseNext]
      exact ihright us hbracket i hi
  | unary hop _ ih =>
    intro hbracket i hi
    obtain ⟨l, rest, ha, rfl, htokens⟩ := Input.exists_of_tokens hi
    rw [parseUnary_operator ha hop]
    exact ((ih us hbracket _ htokens).ofYield rfl).ofBehind
  | ofFactor h ih =>
    intro hbracket i hi
    obtain ⟨t, us', rfl, ht⟩ := h.head_factor
    have hkind : ¬(i.kind = .minus ∨ i.kind = .tilde) := by
      rw [Input.kind_eq, hi]
      rintro (hk | hk) <;> rw [show t.kind = _ from hk] at ht <;> cases ht
    rw [parseUnary_operand hkind]
    exact ih us hbracket i hi
  | group hopening _ hclosing ih =>
    intro hbracket i hi
    obtain ⟨l, rest, ha, rfl, htokens⟩ := Input.exists_of_tokens hi
    rw [parseOperand_group ha hopening]
    exact (reads_closed _ (ih _) hclosing (.inl rfl) rfl (by simpa using htokens)).ofBehind
  | literal ht =>
    intro hbracket i hi
    obtain ⟨l, rest, ha, rfl, htokens⟩ := Input.exists_of_tokens hi
    rw [parseOperand_literal ha ht]
    exact .ofTake () hi rfl
  | name ht =>
    intro hbracket i hi
    obtain ⟨l, rest, ha, rfl, htokens⟩ := Input.exists_of_tokens hi
    rw [parseOperand_name ha ht]
    exact ((reads_index_end htokens hbracket).ofAfter rfl _).ofBehind
  | index harray hopening _ hclosing ih =>
    intro hbracket i hi
    obtain ⟨l, rest, ha, rfl, htokens⟩ := Input.exists_of_tokens hi
    obtain ⟨l', rest', ha', rfl, htokens'⟩ := Input.exists_of_tokens htokens
    rw [parseOperand_name ha harray, parseIndex_open ha' hopening]
    exact ((reads_closed (fun t => .index t.span) (ih _) hclosing (.inr rfl) rfl
      (by simpa using htokens')).ofBehind.ofAfter rfl _).ofBehind

/-- A derived expression is read, in front of a semicolon. -/
theorem reads_parseExpr {ts us : List Token} {e : ExprTree} {semicolon : Token}
    (h : IsExpr .expr ts e) (hsemicolon : semicolon.kind = .semicolon) {i : Input}
    (hi : i.tokens = ts ++ semicolon :: us) :
    (parseExpr i).Reads () e.events (semicolon :: us) := by
  refine reads_parseExpr_of (isRead_of_isExpr h _) (fun p => ?_) ?_ hi
  · cases p <;> simp [headKind, hsemicolon, Precedence.isOperator]
  · simp [headKind, hsemicolon]

/-! ### Types -/

theorem reads_parseSize {i : Input} {size closing : Token} {us : List Token}
    (hsize : size.kind = .integer) (hclosing : closing.kind = .rightBracket)
    (hi : i.tokens = size :: closing :: us) :
    (parseSize i).Reads ((sizeValue? size.text).getD 0) (sizeEvents size) us := by
  refine (Reads.ofExpect hi hsize).ofBind fun j _ hj => ?_
  refine (Reads.ofExpect hj hclosing).ofBind fun k _ hk => ?_
  cases hsome : sizeValue? size.text with
  | some n => exact hk ▸ .ofPure n
  | none => exact ⟨rfl, rfl, hk⟩

/-- A derived type is read. -/
theorem reads_parseType {ts : List Token} {type : TypeTree} (h : IsType ts type) {i : Input}
    {us : List Token} (hi : i.tokens = ts ++ us) :
    (parseType i).Reads type.denote type.events us := by
  induction h generalizing i with
  | scalar hname htype =>
    obtain ⟨l, rest, ha, rfl, htokens⟩ := Input.exists_of_tokens hi
    rw [parseType_scalar ha hname htype]
    exact .ofTake _ hi rfl
  | @string name opening size closing hname htext hopening hsize hclosing =>
    obtain ⟨l, rest, ha, rfl, htokens⟩ := Input.exists_of_tokens hi
    rw [parseType_string ha hname htext]
    refine ((Reads.ofExpect htokens hopening).ofBind fun j _ hj => ?_).ofBehind
    exact (reads_parseSize hsize hclosing hj).ofMap DataType.string
  | @array opening size closing ts elem hopening hsize hclosing _ ih =>
    obtain ⟨l, rest, ha, rfl, htokens⟩ := Input.exists_of_tokens hi
    rw [parseType_array ha hopening]
    refine ((reads_parseSize hsize hclosing htokens).ofBind fun j _ hj => ?_).ofBehind
    exact (ih hj).ofMap fun elem => DataType.array elem _

/-! ### Statements -/

theorem reads_parseLet {name colon semicolon : Token} {ts us : List Token} {type : TypeTree}
    (hname : name.kind = .identifier) (hcolon : colon.kind = .colon) (htype : IsType ts type)
    (hsemicolon : semicolon.kind = .semicolon) {i : Input}
    (hi : i.tokens = name :: colon :: ts ++ semicolon :: us) :
    (parseLet i).Reads () (type.events ++ [Event.declare name type.denote]) us := by
  refine Reads.ofOrResync (a := semicolon) ?_
  refine (Reads.ofExpect hi hname).ofBind fun j _ hj => ?_
  refine (Reads.ofExpect hj hcolon).ofBind fun k _ hk => ?_
  exact ((reads_parseType htype hk).ofYield rfl).ofThenExpect hsemicolon

theorem reads_parseExprStmt {semicolon : Token} {ts us : List Token} {e : ExprTree}
    (he : IsExpr .expr ts e) (hsemicolon : semicolon.kind = .semicolon) {i : Input}
    (hi : i.tokens = ts ++ semicolon :: us) :
    (parseExprStmt i).Reads () (e.events ++ [Event.finish]) us := by
  have hbody : (parseExprBody i).Reads semicolon e.events us :=
    (reads_parseExpr he hsemicolon hi).ofThenExpect hsemicolon
  exact (hbody.ofYield rfl).ofOrResync

/-- A statement in front of the rest of its block. -/
theorem reads_parseBlock_more {opening : Span} {i : Input} {es fs : List Event}
    {us vs : List Token} (hkind : i.kind ≠ .rightBrace ∧ i.kind ≠ .endOfFile)
    (hstmt : (parseStmt i).toStep.Reads () es us)
    (hnext : ∀ j : Input, j.tokens = us → (parseBlock opening j).Reads () fs vs) :
    (parseBlock opening i).Reads () (es ++ fs) vs := by
  cases ha : i.ahead with
  | nil => exact absurd (Input.kind_of_nil ha) hkind.2
  | cons l rest =>
    rw [parseBlock_more opening ha (by rw [← Input.kind_of_ahead ha]; exact hkind.1)]
    have hn := hnext _ hstmt.rest
    refine ⟨hn.value, ?_, hn.rest⟩
    simp only [Step.after, significant_append, hstmt.events, hn.events]

/-- A statement in front of the rest of the source. -/
theorem significant_parseProgram_more {i : Input} {es : List Event} {us : List Token}
    (hkind : i.kind ≠ .endOfFile) (hstmt : (parseStmt i).toStep.Reads () es us) {fs : List Event}
    (hnext : ∀ j : Input, j.tokens = us → significant (parseProgram j) = fs) :
    significant (parseProgram i) = es ++ fs := by
  cases ha : i.ahead with
  | nil => exact absurd (Input.kind_of_nil ha) hkind
  | cons l rest =>
    rw [parseProgram_more ha, significant_append, hstmt.events, hnext _ hstmt.rest]

/-- A sequence of statements is read, up to the closing brace of its block or the end of its
source. -/
def IsBodyRead (ts : List Token) (es : List Event) : Prop :=
  (∀ (opening : Span) (i : Input) (closing : Token) (us : List Token),
    closing.kind = .rightBrace → i.tokens = ts ++ closing :: us →
      (parseBlock opening i).Reads () (es ++ [.closeBlock]) us) ∧
  ∀ i : Input, i.tokens = ts → significant (parseProgram i) = es

/-- A statement is read in front of statements that are read. -/
theorem isBodyRead_cons (ts : List Token) (es : List Event) {us : List Token} {fs : List Event}
    (hkind : headKind ts ≠ .rightBrace ∧ headKind ts ≠ .endOfFile)
    (hstmt : ∀ (i : Input) (vs : List Token), i.tokens = ts ++ vs →
      (parseStmt i).toStep.Reads () es vs)
    (hnext : IsBodyRead us fs) : IsBodyRead (ts ++ us) (es ++ fs) := by
  have hhead {i : Input} {vs : List Token} (hi : i.tokens = ts ++ vs) :
      i.kind ≠ .rightBrace ∧ i.kind ≠ .endOfFile := by
    rw [Input.kind_eq, hi]
    cases ts with
    | nil => exact absurd rfl hkind.2
    | cons t ts => exact hkind
  refine ⟨fun opening i closing vs hclosing hi => ?_, fun i hi => ?_⟩
  · rw [List.append_assoc] at hi ⊢
    exact reads_parseBlock_more (hhead hi) (hstmt i _ hi) fun j hj =>
      hnext.1 opening j closing vs hclosing hj
  · exact significant_parseProgram_more (hhead hi).2 (hstmt i _ hi) hnext.2

/-- Every derived sequence of statements is read. -/
theorem isBodyRead_of_isBody {ts : List Token} {b : Body} (h : IsBody ts b) :
    IsBodyRead ts b.events := by
  induction h with
  | done =>
    refine ⟨fun opening i closing us hclosing hi => ?_, fun i hi => ?_⟩
    · obtain ⟨l, rest, ha, rfl, htokens⟩ := Input.exists_of_tokens hi
      rw [parseBlock_close opening ha hclosing]
      exact .ofTake () hi rfl
    · rw [parseProgram_nil (List.map_eq_nil_iff.mp hi)]
      rfl
  | @declare key name colon semicolon ts us type next hkey hname hcolon htype hsemicolon _ ih =>
    have hcons := isBodyRead_cons (key :: name :: colon :: ts ++ [semicolon])
      (type.events ++ [Event.declare name type.denote]) (by simp [headKind, hkey])
      (fun i vs hi => by
        obtain ⟨l, rest, ha, rfl, htokens⟩ := Input.exists_of_tokens hi
        rw [parseStmt_let ha hkey]
        exact (reads_parseLet hname hcolon htype hsemicolon (by simpa using htokens)).ofBehind) ih
    simpa [Body.events] using hcons
  | @block opening closing ts us inner next hopening _ hclosing _ ihinner ihnext =>
    have hcons := isBodyRead_cons (opening :: ts ++ [closing])
      (.openBlock :: (inner.events ++ [Event.closeBlock])) (by simp [headKind, hopening])
      (fun i vs hi => by
        obtain ⟨l, rest, ha, rfl, htokens⟩ := Input.exists_of_tokens hi
        rw [parseStmt_block ha hopening]
        exact ((ihinner.1 _ _ closing vs hclosing (by simpa using htokens)).ofAfter rfl
          _).ofBehind) ihnext
    simpa [Body.events] using hcons
  | @expression semicolon ts us e next he hsemicolon _ ih =>
    obtain ⟨t, ts', rfl, ht⟩ := he.head
    have hkind : startsStatement t.kind = false ∧ t.kind ≠ .endOfFile := by
      cases hk : t.kind <;> simp_all [startsStatement, startsOperand, TokenKind.isLiteral]
    have hcons := isBodyRead_cons (t :: ts' ++ [semicolon]) (e.events ++ [Event.finish])
      (by
        refine ⟨fun hk => ?_, hkind.2⟩
        rw [show t.kind = _ from hk] at hkind
        cases hkind.1)
      (fun i vs hi => by
        obtain ⟨l, rest, ha, rfl, htokens⟩ := Input.exists_of_tokens hi
        rw [parseStmt_expr ha hkind.1]
        exact reads_parseExprStmt he hsemicolon (by simpa using hi)) ih
    simpa [Body.events] using hcons

/-- The events of a derived source are those of its tree. -/
theorem significant_parseProgram {i : Input} {b : Body} (h : IsBody i.tokens b) :
    significant (parseProgram i) = b.events :=
  (isBodyRead_of_isBody h).2 i rfl

/-- The only complaints about a derived source are about sizes. -/
theorem not_complains_events (b : Body) : ¬ Complains b.events := by
  have hsize {size : Token} {d : Diagnostic} (h : .complain d ∈ sizeEvents size) :
      ¬ d.code.IsSyntax := by
    unfold sizeEvents at h
    split at h
    · simp at h
    · obtain rfl : d = badSize size := by simpa using h
      exact (by decide : ¬ Code.badArraySize.IsSyntax)
  have htype {type : TypeTree} {d : Diagnostic} (h : .complain d ∈ type.events) :
      ¬ d.code.IsSyntax := by
    induction type with
    | scalar _ => simp [TypeTree.events] at h
    | string size => exact hsize h
    | array size elem ih =>
      rcases List.mem_append.mp h with h | h
      · exact hsize h
      · exact ih h
  have hexpr {e : ExprTree} {d : Diagnostic} : .complain d ∉ e.events := by
    induction e with
    | literal _ => simp [ExprTree.events]
    | name _ => simp [ExprTree.events]
    | index _ _ _ ih => simpa [ExprTree.events] using ih
    | group _ _ _ ih => simpa [ExprTree.events] using ih
    | unary _ _ ih => simpa [ExprTree.events] using ih
    | binary _ _ _ ihl ihr => simpa [ExprTree.events] using ⟨ihl, ihr⟩
  rintro ⟨d, hd, hcode⟩
  induction b with
  | done => simp [Body.events] at hd
  | declare name type next ih =>
    rcases List.mem_append.mp hd with hd | hd
    · exact htype hd hcode
    · exact ih (by simpa using hd)
  | block inner next ihinner ihnext =>
    rcases List.mem_append.mp hd with hd | hd
    · exact ihinner (by simpa using hd)
    · exact ihnext (by simpa using hd)
  | expression e next ih =>
    rcases List.mem_append.mp hd with hd | hd
    · exact hexpr hd
    · exact ih (by simpa using hd)

theorem complains_significant {es : List Event} : Complains (significant es) ↔ Complains es := by
  constructor
  · rintro ⟨d, hd, hcode⟩
    exact ⟨d, (mem_significant.mp hd).1, hcode⟩
  · rintro ⟨d, hd, hcode⟩
    exact ⟨d, mem_significant.mpr ⟨hd, rfl⟩, hcode⟩

/-- Parsing complains about exactly the sources that the grammar does not derive. -/
theorem not_complains_parseProgram_iff {i : Input} (hi : i.Valid) :
    ¬ Complains (parseProgram i) ↔ ∃ b, IsBody i.tokens b := by
  refine ⟨isBody_of_parseProgram hi, ?_⟩
  rintro ⟨b, hb⟩
  rw [← complains_significant, significant_parseProgram hb]
  exact not_complains_events b

end ThreeAddress.Parse
