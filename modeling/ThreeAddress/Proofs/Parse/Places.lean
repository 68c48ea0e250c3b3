import ThreeAddress.Proofs.Parse.Unfold

/-!
# Parsing does not read places

What parsing makes of tokens depends on their kinds and texts, not on where they stand. From inputs
whose tokens differ in their places only, every step of parsing yields the same events, but for the
places in them and for what is told about them.

Two inputs are compared token by token without places (`Input.Alike`), two steps by their events
without places (`Step.Alike`).

## Main definitions

* `Token.erase`, `Event.erase` : tokens and events without places.
* `Input.Alike`, `Step.Alike` : the same but for places.

## Main results

* `alike_expressions` : reading at every level of the expression grammar.
* `alike_statements` : reading statements and blocks.
* `erase_parseProgram` : the events of a source.
-/

namespace ThreeAddress

/-- A token without its place. -/
def Token.erase (t : Token) : Token :=
  { t with span := {} }

namespace Parse

/-- An event without the places in it, and without what is told. -/
def Event.erase : Event → Event
  | .look l => .look ⟨l.token.erase, []⟩
  | .complain _ => .complain default
  | .openBlock => .openBlock
  | .closeBlock => .closeBlock
  | .declare t type => .declare t.erase type
  | .name t => .name t.erase
  | .literal t => .literal t.erase
  | .invalid _ => .invalid {}
  | .binary op => .binary op.erase
  | .unary op => .unary op.erase
  | .group _ _ => .group {} {}
  | .index _ => .index {}
  | .finish => .finish
  | .abandon => .abandon

/-! ### Inputs -/

/-- Two inputs have the same tokens, but for their places. -/
structure Input.Alike (i j : Input) : Prop where
  /-- The tokens ahead are the same. -/
  ahead : (i.ahead.map fun l => l.token.erase) = j.ahead.map fun l => l.token.erase
  /-- The first one has been looked at in both or in none. -/
  looked : i.looked = j.looked

namespace Input.Alike

variable {i j : Input} {l : Lexeme} {rest : List Lexeme}

theorem nil (h : i.Alike j) (hi : i.ahead = []) : j.ahead = [] := by
  have hahead := h.ahead
  rw [hi] at hahead
  exact List.map_eq_nil_iff.mp hahead.symm

theorem cons (h : i.Alike j) (hi : i.ahead = l :: rest) :
    ∃ m rest', j.ahead = m :: rest' ∧ m.token.erase = l.token.erase ∧
      m.token.kind = l.token.kind ∧
      (rest.map fun l => l.token.erase) = rest'.map fun l => l.token.erase := by
  have hahead := h.ahead
  rw [hi, List.map_cons] at hahead
  obtain ⟨m, rest', hj, hm, hrest⟩ := List.map_eq_cons_iff.mp hahead.symm
  exact ⟨m, rest', hj, hm, (congrArg Token.kind hm :), hrest.symm⟩

theorem kind (h : i.Alike j) : i.kind = j.kind := by
  cases hi : i.ahead with
  | nil => rw [kind_of_nil hi, kind_of_nil (h.nil hi)]
  | cons l rest =>
    obtain ⟨m, rest', hj, -, hkind, -⟩ := h.cons hi
    rw [kind_of_ahead hi, kind_of_ahead hj, hkind]

theorem head (h : i.Alike j) : i.head.erase = j.head.erase := by
  cases hi : i.ahead with
  | nil =>
    rw [Input.head, Input.head, hi, h.nil hi]
    rfl
  | cons l rest =>
    obtain ⟨m, rest', hj, hm, -⟩ := h.cons hi
    rw [Input.head, Input.head, hi, hj]
    exact hm.symm

theorem lookEvents (h : i.Alike j) :
    i.lookEvents.map Event.erase = j.lookEvents.map Event.erase := by
  cases hi : i.ahead with
  | nil => rw [lookEvents_of_nil hi, lookEvents_of_nil (h.nil hi)]
  | cons l rest =>
    obtain ⟨m, rest', hj, hm, -⟩ := h.cons hi
    rw [Input.lookEvents, Input.lookEvents, hi, hj]
    simp only [h.looked]
    split
    · rfl
    · simp [Event.erase, hm]

theorem look (h : i.Alike j) : i.look.Alike j.look :=
  ⟨h.ahead, rfl⟩

theorem tail (h : i.Alike j) : i.tail.Alike j.tail := by
  cases hi : i.ahead with
  | nil =>
    rw [Input.tail, Input.tail, hi, h.nil hi]
    exact h
  | cons l rest =>
    obtain ⟨m, rest', hj, -, -, hrest⟩ := h.cons hi
    rw [Input.tail, Input.tail, hi, hj]
    exact ⟨hrest, rfl⟩

end Input.Alike

/-! ### Steps -/

/-- Two steps have read the same, but for places; of their values as much is the same as an
observation tells. -/
structure Step.Alike {α γ : Type} (obs : α → γ) {i j : Input} (s : Step α i) (t : Step α j) :
    Prop where
  /-- The same came up. -/
  events : s.events.map Event.erase = t.events.map Event.erase
  /-- The values are the same. -/
  value : s.value.map obs = t.value.map obs
  /-- The same is left. -/
  rest : s.rest.Alike t.rest

namespace Step.Alike

variable {α β γ δ : Type} {obs : α → γ} {obs' : β → δ} {i j : Input}

theorem ofPure (h : i.Alike j) {a b : α} (hvalue : obs a = obs b) :
    Alike obs (Step.pure a : Step α i) (Step.pure b : Step α j) :=
  ⟨rfl, congrArg some hvalue, h⟩

theorem ofRemark (h : i.Alike j) {a b : α} (hvalue : obs a = obs b) {es fs : List Event}
    (hevents : es.map Event.erase = fs.map Event.erase) :
    Alike obs (Step.remark es a : Step α i) (Step.remark fs b : Step α j) :=
  ⟨hevents, congrArg some hvalue, h⟩

theorem ofAfter {i' j' : Input} {s : Step α i'} {t : Step α j'} (h : Alike obs s t)
    {es fs : List Event} (hevents : es.map Event.erase = fs.map Event.erase)
    (hi : i'.ahead <:+ i.ahead) (hj : j'.ahead <:+ j.ahead) :
    Alike obs (s.after es hi) (t.after fs hj) :=
  ⟨by simp only [Step.after, List.map_append, hevents, h.events], h.value, h.rest⟩

theorem ofBehind (h : i.Alike j) {s : Step α i.tail} {t : Step α j.tail} (hs : Alike obs s t) :
    Alike obs s.behind t.behind :=
  hs.ofAfter h.lookEvents _ _

theorem ofTake (h : i.Alike j) {a b : α} (hvalue : obs a = obs b) {es fs : List Event}
    (hevents : es.map Event.erase = fs.map Event.erase) :
    Alike obs (Step.take i a es) (Step.take j b fs) :=
  ⟨by simp only [Step.take, List.map_append, h.lookEvents, hevents], congrArg some hvalue, h.tail⟩

theorem ofComplain (h : i.Alike j) (code : Code) (m m' : Bytes) (ns ns' : List Note) :
    Alike obs (Step.complain i code m ns) (Step.complain j code m' ns') :=
  ⟨by simp only [Step.complain, List.map_append, h.lookEvents]; rfl, rfl, h.look⟩

theorem ofExpect (h : i.Alike j) (k : TokenKind) (code : Code) (m m' : Bytes)
    (ns ns' : List Note) :
    Alike Token.erase (Step.expect i k code m ns) (Step.expect j k code m' ns') := by
  unfold Step.expect
  rw [h.kind]
  split
  · exact ofTake h h.head rfl
  · exact ofComplain h _ _ _ _ _

theorem ofBind {s : Step α i} {t : Step α j} (h : Alike obs s t)
    {next : α → (k : Input) → k.ahead <:+ i.ahead → Step β k}
    {next' : α → (k : Input) → k.ahead <:+ j.ahead → Step β k}
    (hnext : ∀ a b k k' hk hk', obs a = obs b → k.Alike k' →
      Alike obs' (next a k hk) (next' b k' hk')) :
    Alike obs' (s.bind next) (t.bind next') := by
  have hvalue := h.value
  unfold Step.bind
  split <;> split
  · rename_i _ a ha _ b hb
    rw [ha, hb] at hvalue
    exact (hnext a b _ _ _ _ (Option.some.inj hvalue) h.rest).ofAfter h.events _ _
  · rename_i _ a ha _ hb
    rw [ha, hb] at hvalue
    cases hvalue
  · rename_i _ ha _ b hb
    rw [ha, hb] at hvalue
    cases hvalue
  · exact ⟨h.events, rfl, h.rest⟩

theorem ofYield {s : Step α i} {t : Step α j} (h : Alike obs s t) {event event' : α → Event}
    (hevent : ∀ a b, obs a = obs b → (event a).erase = (event' b).erase) :
    Alike (@id Unit) (s.yield event ()) (t.yield event' ()) := by
  have hvalue := h.value
  unfold Step.yield
  split <;> split
  · rename_i _ a ha _ b hb
    rw [ha, hb] at hvalue
    refine ⟨?_, rfl, h.rest⟩
    rw [List.map_append, List.map_append, h.events, List.map_singleton, List.map_singleton,
      hevent a b (Option.some.inj hvalue)]
  · rename_i _ a ha _ hb
    rw [ha, hb] at hvalue
    cases hvalue
  · rename_i _ ha _ b hb
    rw [ha, hb] at hvalue
    cases hvalue
  · exact ⟨h.events, rfl, h.rest⟩

/-- An operand in brackets that close, or are told not to. -/
theorem ofClosed {s : Step Unit i} {t : Step Unit j} (h : Alike (@id Unit) s t) (k : TokenKind)
    (code : Code) (m : Bytes) (ns ns' : List Note) {event event' : Token → Event}
    (hevent : ∀ a b, (event a).erase = (event' b).erase) :
    Alike (@id Unit) (s.bind fun _ j _ => (Step.expect j k code m ns).yield event ())
      (t.bind fun _ j _ => (Step.expect j k code m ns').yield event' ()) :=
  h.ofBind fun _ _ _ _ _ _ _ hrest =>
    (ofExpect hrest k code m m ns ns').ofYield fun a b _ => hevent a b

end Step.Alike

open Step (Alike)

variable {i j : Input} {l m : Lexeme} {rest rest' : List Lexeme}

theorem alike_parseInvalid (span span' : Span) (h : i.Alike j) :
    Alike (@id Unit) (parseInvalid span i) (parseInvalid span' j) := by
  have hend {i j : Input} (span span' : Span) (h : i.Alike j) (hk : i.kind ≠ .invalid) :
      Alike (@id Unit) (parseInvalid span i) (parseInvalid span' j) := by
    rw [parseInvalid_end span hk, parseInvalid_end span' (h.kind ▸ hk)]
    refine ⟨?_, rfl, h.look⟩
    rw [List.map_append, List.map_append, h.lookEvents]
    rfl
  induction span, i using parseInvalid.induct generalizing span' j with
  | case1 span i l rest hi hk ih =>
    obtain ⟨m, rest', hj, -, hkind, -⟩ := h.cons hi
    rw [parseInvalid_more span hi hk, parseInvalid_more span' hj (hkind.trans hk)]
    exact .ofBehind h (ih _ h.tail)
  | case2 span i l rest hi hk => exact hend span span' h (by rwa [Input.kind_of_ahead hi])
  | case3 span i hi => exact hend span span' h (by simp [Input.kind_of_nil hi])

/-- Reading at every level of the expression grammar does not read places. -/
theorem alike_expressions :
    (∀ p i j, i.Alike j → Alike (@id Unit) (parseBinary p i) (parseBinary p j)) ∧
      (∀ p i j, i.Alike j → Alike (@id Unit) (parseBinaryTail p i) (parseBinaryTail p j)) ∧
      (∀ p i j, i.Alike j → Alike (@id Unit) (parseNext p i) (parseNext p j)) ∧
      (∀ i j, i.Alike j → Alike (@id Unit) (parseUnary i) (parseUnary j)) ∧
      (∀ i j, i.Alike j → Alike (@id Unit) (parseOperand i) (parseOperand j)) ∧
      (∀ i j, i.Alike j → Alike (@id Unit) (parseIndex i) (parseIndex j)) := by
  apply parseExpr_induction
  case level =>
    intro p i hnext htail j h
    rw [parseBinary, parseBinary]
    exact .ofBind (hnext j h) fun _ _ k k' hk _ _ hkk => htail k hk k' hkk
  case operator =>
    intro p i l rest hi hk hnext htail j h
    obtain ⟨m, rest', hj, hm, hkind, -⟩ := h.cons hi
    rw [parseBinaryTail_operator p hi hk, parseBinaryTail_operator p hj (hkind ▸ hk)]
    exact .ofBehind h (((hnext _ h.tail).ofYield fun _ _ _ => by simp [Event.erase, hm]).ofBind
      fun _ _ k k' hk _ _ hkk => htail k hk k' hkk)
  case stop =>
    intro p i hk j h
    rw [parseBinaryTail_end p hk, parseBinaryTail_end p (h.kind ▸ hk)]
    exact ⟨h.lookEvents, rfl, h.look⟩
  case product =>
    intro i hproduct j h
    rw [parseNext, parseNext]
    exact hproduct j h
  case factor =>
    intro i hunary j h
    rw [parseNext, parseNext]
    exact hunary j h
  case unaryOperator =>
    intro i l rest hi hk hunary j h
    obtain ⟨m, rest', hj, hm, hkind, -⟩ := h.cons hi
    rw [parseUnary_operator hi hk, parseUnary_operator hj (hkind ▸ hk)]
    exact .ofBehind h ((hunary _ h.tail).ofYield fun _ _ _ => by simp [Event.erase, hm])
  case unaryOperand =>
    intro i hk hoperand j h
    rw [parseUnary_operand hk, parseUnary_operand (h.kind ▸ hk)]
    exact hoperand j h
  case none =>
    intro i hk j h
    rw [parseOperand_none hk, parseOperand_none (h.kind ▸ hk)]
    exact .ofComplain h _ _ _ _ _
  case group =>
    intro i l rest hi hk hexpr j h
    obtain ⟨m, rest', hj, hm, hkind, -⟩ := h.cons hi
    rw [parseOperand_group hi hk, parseOperand_group hj (hkind ▸ hk)]
    exact .ofBehind h ((hexpr _ h.tail).ofClosed _ _ _ _ _ fun _ _ => by rfl)
  case literal =>
    intro i l rest hi hk j h
    obtain ⟨m, rest', hj, hm, hkind, -⟩ := h.cons hi
    rw [parseOperand_literal hi hk, parseOperand_literal hj (hkind ▸ hk)]
    exact .ofTake h rfl (by simp [Event.erase, hm])
  case name =>
    intro i l rest hi hk hindex j h
    obtain ⟨m, rest', hj, hm, hkind, -⟩ := h.cons hi
    rw [parseOperand_name hi hk, parseOperand_name hj (hkind ▸ hk)]
    exact .ofBehind h (.ofAfter (hindex _ h.tail) (by simp [Event.erase, hm]) _ _)
  case invalid =>
    intro i l rest hi hk j h
    obtain ⟨m, rest', hj, hm, hkind, -⟩ := h.cons hi
    rw [parseOperand_invalid hi hk, parseOperand_invalid hj (hkind ▸ hk)]
    exact .ofBehind h (alike_parseInvalid _ _ h.tail)
  case indexOpen =>
    intro i l rest hi hk hexpr j h
    obtain ⟨m, rest', hj, hm, hkind, -⟩ := h.cons hi
    rw [parseIndex_open hi hk, parseIndex_open hj (hkind ▸ hk)]
    exact .ofBehind h ((hexpr _ h.tail).ofClosed _ _ _ _ _ fun _ _ => by rfl)
  case indexEnd =>
    intro i hk j h
    rw [parseIndex_end hk, parseIndex_end (h.kind ▸ hk)]
    exact ⟨h.lookEvents, rfl, h.look⟩

theorem alike_parseExpr (h : i.Alike j) : Alike (@id Unit) (parseExpr i) (parseExpr j) :=
  alike_expressions.1 .sum i j h

/-! ### Types -/

theorem alike_parseSize (h : i.Alike j) : Alike (@id UInt32) (parseSize i) (parseSize j) := by
  refine (Alike.ofExpect h _ _ _ _ _ _).ofBind fun size size' k k' _ _ hsize hk => ?_
  refine (Alike.ofExpect hk _ _ _ _ _ _).ofBind fun _ _ k k' _ _ _ hk => ?_
  have htext : size.text = size'.text := (congrArg Token.text hsize :)
  rw [htext]
  split
  · exact .ofPure hk rfl
  · exact .ofRemark hk rfl rfl

theorem alike_parseType (h : i.Alike j) : Alike (@id DataType) (parseType i) (parseType j) := by
  induction i using parseType_induction generalizing j with
  | none i ht =>
    have hkind : i.head.kind = j.head.kind := (congrArg Token.kind h.head :)
    have htext : i.head.text = j.head.text := (congrArg Token.text h.head :)
    have ht' : startsType j.head = false := by
      rwa [startsType, ← hkind, ← htext]
    rw [parseType_none ht, parseType_none ht']
    exact .ofComplain h _ _ _ _ _
  | array i l rest hi hk ih =>
    obtain ⟨m, rest', hj, -, hkind, -⟩ := h.cons hi
    rw [parseType_array hi hk, parseType_array hj (hkind.trans hk)]
    refine .ofBehind h ((alike_parseSize h.tail).ofBind fun n n' k k' hk _ hn hkk => ?_)
    obtain rfl : n = n' := hn
    refine (ih k hk hkk).ofBind fun elem elem' _ _ _ _ helem hrest => .ofPure hrest ?_
    rw [show elem = elem' from helem]
  | scalar i l rest t hi hk ht =>
    obtain ⟨m, rest', hj, hm, hkind, -⟩ := h.cons hi
    have htext : m.token.text = l.token.text := (congrArg Token.text hm :)
    rw [parseType_scalar hi hk ht, parseType_scalar hj (hkind.trans hk) (htext ▸ ht)]
    exact .ofTake h rfl rfl
  | string i l rest hi hk hstring =>
    obtain ⟨m, rest', hj, hm, hkind, -⟩ := h.cons hi
    have htext : m.token.text = l.token.text := (congrArg Token.text hm :)
    rw [parseType_string hi hk hstring,
      parseType_string hj (hkind.trans hk) (htext.trans hstring)]
    refine .ofBehind h ((Alike.ofExpect h.tail _ _ _ _ _ _).ofBind fun _ _ k k' _ _ _ hk => ?_)
    refine (alike_parseSize hk).ofBind fun n n' _ _ _ _ hn hrest => .ofPure hrest ?_
    rw [show n = n' from hn]

/-! ### Statements -/

theorem alike_skipStatement (h : i.Alike j) :
    Alike (@id Unit) (skipStatement i) (skipStatement j) := by
  induction i using skipStatement_induction generalizing j with
  | stop i hk =>
    have hk' : j.kind = .rightBrace ∨ j.ahead = [] := hk.imp h.kind.symm.trans h.nil
    rw [skipStatement_end hk, skipStatement_end hk']
    exact ⟨h.lookEvents, rfl, h.look⟩
  | semicolon i l rest hi hk =>
    obtain ⟨m, rest', hj, -, hkind, -⟩ := h.cons hi
    rw [skipStatement_semicolon hi hk, skipStatement_semicolon hj (hkind.trans hk)]
    exact .ofTake h rfl rfl
  | more i l rest hi hsemicolon hbrace ih =>
    obtain ⟨m, rest', hj, -, hkind, -⟩ := h.cons hi
    rw [skipStatement_more hi hsemicolon hbrace,
      skipStatement_more hj (hkind ▸ hsemicolon) (hkind ▸ hbrace)]
    exact .ofBehind h (ih h.tail)

theorem Step.Alike.orResync {α γ : Type} (obs : α → γ) {s : Step α i} {t : Step α j}
    (h : Alike obs s t) : Alike (@id Unit) s.orResync t.orResync := by
  have hvalue := h.value
  unfold Step.orResync
  split <;> split
  · exact ⟨h.events, rfl, h.rest⟩
  · rename_i _ a ha _ hb
    rw [ha, hb] at hvalue
    cases hvalue
  · rename_i _ ha _ b hb
    rw [ha, hb] at hvalue
    cases hvalue
  · exact ((alike_skipStatement h.rest).ofAfter rfl _ _).ofAfter h.events _ _

theorem alike_parseLet (h : i.Alike j) : Alike (@id Unit) (parseLet i) (parseLet j) := by
  refine .orResync Token.erase
    ((Alike.ofExpect h _ _ _ _ _ _).ofBind fun t t' k k' _ _ ht hk => ?_)
  refine (Alike.ofExpect hk _ _ _ _ _ _).ofBind fun _ _ k k' _ _ _ hk => ?_
  have hdeclare (a b : DataType) (hab : id a = id b) :
      (Event.declare t a).erase = (Event.declare t' b).erase := by
    rw [Event.erase, Event.erase, ht, show a = b from hab]
  exact ((alike_parseType hk).ofYield hdeclare).ofBind fun _ _ _ _ _ _ _ hrest =>
    .ofExpect hrest _ _ _ _ _ _

theorem alike_parseExprStmt (h : i.Alike j) :
    Alike (@id Unit) (parseExprStmt i) (parseExprStmt j) := by
  have hbody : Alike Token.erase (parseExprBody i) (parseExprBody j) :=
    (alike_parseExpr h).ofBind fun _ _ _ _ _ _ _ hrest => .ofExpect hrest _ _ _ _ _ _
  exact .orResync id (hbody.ofYield fun _ _ _ => by rfl)

/-- Reading a statement or a block does not read places. -/
theorem alike_statements :
    (∀ i j, i.Alike j → Alike (@id Unit) (parseStmt i).toStep (parseStmt j).toStep) ∧
      (∀ opening i opening' j, i.Alike j →
        Alike (@id Unit) (parseBlock opening i) (parseBlock opening' j)) := by
  apply parseStmt_induction
  case nil =>
    intro i hi j h
    rw [parseStmt_nil hi, parseStmt_nil (h.nil hi)]
    exact .ofPure h rfl
  case declaration =>
    intro i l rest hi hk j h
    obtain ⟨m, rest', hj, -, hkind, -⟩ := h.cons hi
    rw [parseStmt_let hi hk, parseStmt_let hj (hkind.trans hk)]
    exact .ofBehind h (alike_parseLet h.tail)
  case inner =>
    intro i l rest hi hk hblock j h
    obtain ⟨m, rest', hj, -, hkind, -⟩ := h.cons hi
    rw [parseStmt_block hi hk, parseStmt_block hj (hkind.trans hk)]
    exact .ofBehind h ((hblock _ _ h.tail).ofAfter rfl _ _)
  case brace =>
    intro i l rest hi hk j h
    obtain ⟨m, rest', hj, -, hkind, -⟩ := h.cons hi
    rw [parseStmt_brace hi hk, parseStmt_brace hj (hkind.trans hk)]
    refine ⟨?_, rfl, h.tail⟩
    simp only [strayBrace, List.map_append, h.lookEvents]
    rfl
  case expr =>
    intro i l rest hi hk j h
    obtain ⟨m, rest', hj, -, hkind, -⟩ := h.cons hi
    rw [parseStmt_expr hi hk, parseStmt_expr hj (hkind ▸ hk)]
    exact alike_parseExprStmt h
  case unclosed =>
    intro opening i hi opening' j h
    have hclose := Alike.ofExpect h .rightBrace .unclosedBrace (utf8 "expected '\x7d'")
      (utf8 "expected '\x7d'") [⟨opening, utf8 "block opened here"⟩]
      [⟨opening', utf8 "block opened here"⟩]
    rw [parseBlock_nil opening hi, parseBlock_nil opening' (h.nil hi)]
    refine ⟨?_, rfl, hclose.rest⟩
    simp only [unclosedBlock, List.map_append, hclose.events]
  case close =>
    intro opening i l rest hi hk opening' j h
    obtain ⟨m, rest', hj, -, hkind, -⟩ := h.cons hi
    rw [parseBlock_close opening hi hk, parseBlock_close opening' hj (hkind.trans hk)]
    exact .ofTake h rfl rfl
  case more =>
    intro opening i l rest hi hk hstmt hblock opening' j h
    obtain ⟨m, rest', hj, -, hkind, -⟩ := h.cons hi
    rw [parseBlock_more opening hi hk, parseBlock_more opening' hj (hkind ▸ hk)]
    exact (hblock _ _ (hstmt j h).rest).ofAfter (hstmt j h).events _ _

/-- The events of a source do not depend on where its tokens stand, but for the places in them. -/
theorem erase_parseProgram (i : Input) : ∀ j, i.Alike j →
    (parseProgram i).map Event.erase = (parseProgram j).map Event.erase := by
  induction i using parseProgram.induct with
  | case1 i hi =>
    intro j h
    rw [parseProgram_nil hi, parseProgram_nil (h.nil hi)]
  | case2 i l rest hi s ih =>
    intro j h
    obtain ⟨m, rest', hj, -, -, -⟩ := h.cons hi
    have hstmt := alike_statements.1 i j h
    rw [parseProgram_more hi, parseProgram_more hj, List.map_append, List.map_append,
      hstmt.events, ih _ hstmt.rest]

end Parse

end ThreeAddress
