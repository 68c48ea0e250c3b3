import ThreeAddress.Proofs.Parse.Combinators

/-!
# What parsing brings up

Two facts hold for every input, fitting the grammar or not: the tokens in the events of a step are
tokens that were ahead of it, and there are at most as many operators among its events as tokens
it has taken. A step without a value has complained. Each combinator of steps keeps these
facts, so they are shown once for each combinator and then follow the grammar.

## Main definitions

* `Event.From` : the tokens of an event come from a list of lexemes.
* `operators` : the number of operators among events.
* `Complains` : a syntax complaint is among events.
* `Step.Orderly` : the facts above, for one step.

## Main results

* `orderly_parseExpr`, `orderly_parseType` : reading expressions and types is orderly.
* `from_parseProgram`, `operators_parseProgram` : the events of a whole source.
-/

namespace ThreeAddress

/-- The codes of syntax complaints, from 2000 to 2999. -/
def Code.IsSyntax (c : Code) : Prop :=
  2000 ≤ c.number.toNat ∧ c.number.toNat ≤ 2999

instance (c : Code) : Decidable c.IsSyntax :=
  inferInstanceAs (Decidable (_ ∧ _))

namespace Parse

/-- A token is one of a list of lexemes. -/
def TokenFrom (ls : List Lexeme) (t : Token) : Prop :=
  ∃ l ∈ ls, l.token = t

/-- The names and literals of an event are tokens of a list of lexemes. -/
def Event.From (ls : List Lexeme) : Event → Prop
  | .look l => l ∈ ls
  | .declare t _ | .name t => t.kind = .identifier ∧ TokenFrom ls t
  | .literal t => t.kind.isLiteral = true ∧ TokenFrom ls t
  | _ => True

theorem Event.From.mono {ks ls : List Lexeme} (h : ks <:+ ls) {e : Event} (he : e.From ks) :
    e.From ls := by
  have htoken {t : Token} : TokenFrom ks t → TokenFrom ls t := by
    rintro ⟨l, hl, rfl⟩
    exact ⟨l, h.subset hl, rfl⟩
  cases e with
  | look l => exact h.subset he
  | declare t type => exact ⟨he.1, htoken he.2⟩
  | name t => exact ⟨he.1, htoken he.2⟩
  | literal t => exact ⟨he.1, htoken he.2⟩
  | _ => trivial

/-- Tests for an event that makes a node. -/
def Event.isOperator : Event → Bool
  | .binary _ | .unary _ | .index _ => true
  | _ => false

/-- The number of events that make a node. -/
def operators (es : List Event) : Nat :=
  es.countP Event.isOperator

@[simp] theorem operators_nil : operators [] = 0 := rfl

@[simp] theorem operators_append (es fs : List Event) :
    operators (es ++ fs) = operators es + operators fs :=
  List.countP_append

@[simp] theorem operators_lookEvents (i : Input) : operators i.lookEvents = 0 := by
  unfold Input.lookEvents
  split
  · split <;> rfl
  · rfl

theorem from_lookEvents (i : Input) : ∀ e ∈ i.lookEvents, e.From i.ahead := by
  unfold Input.lookEvents
  split
  · rename_i l rest h
    split
    · simp
    · simp [Event.From, h]
  · simp

/-- A syntax error is among the events. -/
def Complains (es : List Event) : Prop :=
  ∃ d, .complain d ∈ es ∧ d.code.IsSyntax

theorem Complains.append_left {es : List Event} (h : Complains es) (fs : List Event) :
    Complains (es ++ fs) := by
  obtain ⟨d, hd, hcode⟩ := h
  exact ⟨d, List.mem_append_left _ hd, hcode⟩

theorem Complains.append_right (es : List Event) {fs : List Event} (h : Complains fs) :
    Complains (es ++ fs) := by
  obtain ⟨d, hd, hcode⟩ := h
  exact ⟨d, List.mem_append_right _ hd, hcode⟩

namespace Step

variable {α β : Type} {i : Input}

/-- The events of a step are about tokens of a list, make at most `slack` more nodes than the step
takes tokens, and hold a complaint if the step has no value. -/
structure OrderlyIn (ls : List Lexeme) (slack : Nat) (s : Step α i) : Prop where
  /-- The events are about tokens of the list. -/
  mem : ∀ e ∈ s.events, e.From ls
  /-- Every token makes at most one node. -/
  count : operators s.events + s.rest.size ≤ i.size + slack
  /-- A step without a value has complained. -/
  told : s.value = none → Complains s.events

/-- The events of a step are about the tokens ahead. -/
abbrev Orderly (slack : Nat) (s : Step α i) : Prop :=
  s.OrderlyIn i.ahead slack

namespace OrderlyIn

variable {ls : List Lexeme} {k m : Nat} {s : Step α i}

theorem mono (h : s.OrderlyIn ls k) (hkm : k ≤ m) : s.OrderlyIn ls m :=
  ⟨h.mem, Nat.le_trans h.count (Nat.add_le_add_left hkm _), h.told⟩

theorem wide (h : s.OrderlyIn ls k) {ms : List Lexeme} (hls : ls <:+ ms) : s.OrderlyIn ms k :=
  ⟨fun e he => (h.mem e he).mono hls, h.count, h.told⟩

theorem ofPure (a : α) : (Step.pure a : Step α i).OrderlyIn ls 0 :=
  ⟨by simp [Step.pure], by simp [Step.pure], by simp [Step.pure]⟩

theorem ofRemark (a : α) {es : List Event} (hes : ∀ e ∈ es, e.From ls) (hops : operators es = 0) :
    (Step.remark es a : Step α i).OrderlyIn ls 0 :=
  ⟨hes, by simp [Step.remark, hops], by simp [Step.remark]⟩

theorem ofAfter {j : Input} {s : Step α j} (hs : s.OrderlyIn ls k) {es : List Event}
    (hes : ∀ e ∈ es, e.From ls) (hops : operators es = 0) (h : j.ahead <:+ i.ahead) :
    (s.after es h).OrderlyIn ls k where
  mem e he := by
    rcases List.mem_append.mp he with he | he
    · exact hes e he
    · exact hs.mem e he
  count := by
    have hlen : j.size ≤ i.size := h.length_le
    have := hs.count
    simp only [Step.after, operators_append, hops]
    omega
  told hv := (hs.told hv).append_right _

/-- Taking the next token pays for one node. -/
theorem ofTaken {s : Step α i.tail} (hs : s.Orderly (k + 1)) {es : List Event}
    (hes : ∀ e ∈ es, e.From i.ahead) (hops : operators es = 0) (hne : i.ahead ≠ []) :
    (s.after es (List.suffix_refl _)).behind.Orderly k where
  mem e he := by
    rcases List.mem_append.mp he with he | he
    · exact from_lookEvents i e he
    · rcases List.mem_append.mp he with he | he
      · exact hes e he
      · exact (hs.mem e he).mono (Input.tail_suffix i)
  count := by
    obtain ⟨l, rest, h⟩ := List.exists_cons_of_ne_nil hne
    have hlt := Input.size_tail_lt h
    have := hs.count
    simp only [Step.behind, Step.after, operators_append, operators_lookEvents, hops]
    omega
  told hv := ((hs.told hv).append_right _).append_right _

theorem ofBehind {s : Step α i.tail} (hs : s.Orderly (k + 1)) (hne : i.ahead ≠ []) :
    s.behind.Orderly k :=
  hs.ofTaken (List.forall_mem_nil _) rfl hne

theorem ofBindIn (hs : s.OrderlyIn ls k)
    {next : α → (j : Input) → j.ahead <:+ i.ahead → Step β j}
    (hnext : ∀ a j h, s.value = some a → (next a j h).OrderlyIn ls m) :
    (s.bind next).OrderlyIn ls (m + k) := by
  unfold Step.bind
  split
  · rename_i a ha
    have hn := hnext a s.rest s.suffix ha
    refine ⟨fun e he => ?_, ?_, fun hv => (hn.told hv).append_right _⟩
    · rcases List.mem_append.mp he with he | he
      · exact hs.mem e he
      · exact hn.mem e he
    · have := hs.count
      have := hn.count
      simp only [Step.after, operators_append]
      omega
  · rename_i hnone
    exact ⟨hs.mem, Nat.le_trans hs.count (by omega), fun _ => hs.told hnone⟩

theorem ofBind (hs : s.Orderly k) {next : α → (j : Input) → j.ahead <:+ i.ahead → Step β j}
    (hnext : ∀ a j h, (next a j h).Orderly m) : (s.bind next).Orderly (m + k) :=
  hs.ofBindIn fun a j hj _ => (hnext a j hj).wide hj

theorem ofYield (hs : s.OrderlyIn ls k) (event : α → Event)
    (hevent : ∀ a, (event a).From ls) (value : β) :
    (s.yield event value).OrderlyIn ls (k + 1) := by
  unfold Step.yield
  split
  · rename_i a ha
    refine ⟨fun e he => ?_, ?_, by simp⟩
    · rcases List.mem_append.mp he with he | he
      · exact hs.mem e he
      · obtain rfl := List.mem_singleton.mp he
        exact hevent a
    · have := hs.count
      have hone : operators [event a] ≤ 1 := List.countP_le_length
      simp only [operators_append]
      omega
  · rename_i hnone
    exact ⟨hs.mem, Nat.le_trans hs.count (by omega), fun _ => hs.told hnone⟩

/-- An event that makes no node costs nothing. -/
theorem ofYieldFree (hs : s.OrderlyIn ls k) (event : α → Event)
    (hevent : ∀ a, (event a).From ls) (hfree : ∀ a, (event a).isOperator = false) (value : β) :
    (s.yield event value).OrderlyIn ls k := by
  refine ⟨(hs.ofYield event hevent value).mem, ?_, (hs.ofYield event hevent value).told⟩
  have := hs.count
  unfold Step.yield
  split
  · simpa [operators, hfree] using this
  · exact this

theorem ofTake (a : α) {es : List Event} (hes : ∀ e ∈ es, e.From i.ahead)
    (hops : operators es = 0) : (Step.take i a es).Orderly 0 where
  mem e he := by
    rcases List.mem_append.mp he with he | he
    · exact from_lookEvents i e he
    · exact hes e he
  count := by
    have : i.tail.size ≤ i.size := (Input.tail_suffix i).length_le
    simp only [Step.take, operators_append, operators_lookEvents, hops]
    omega
  told hv := by simp [Step.take] at hv

/-- Looking at the next token. -/
theorem ofLook (a : α) (h : i.look.ahead <:+ i.ahead) :
    (⟨i.lookEvents, some a, i.look, h⟩ : Step α i).Orderly 0 :=
  ⟨from_lookEvents i, by simp [Input.size], by simp⟩

theorem ofComplain {code : Code} (hcode : code.IsSyntax) (message : Bytes) (notes : List Note) :
    (Step.complain i code message notes : Step α i).Orderly 0 where
  mem e he := by
    rcases List.mem_append.mp he with he | he
    · exact from_lookEvents i e he
    · obtain rfl := List.mem_singleton.mp he
      trivial
  count := by
    simp only [Step.complain, operators_append, operators_lookEvents]
    simp [operators, Event.isOperator, Input.size]
  told _ := ⟨_, List.mem_append_right _ List.mem_cons_self, hcode⟩

theorem ofExpect (k : TokenKind) {code : Code} (hcode : code.IsSyntax) (message : Bytes)
    (notes : List Note) : (Step.expect i k code message notes).Orderly 0 := by
  unfold Step.expect
  split
  · exact ofTake _ (by simp) rfl
  · exact ofComplain hcode _ _

end OrderlyIn

end Step

open Step (OrderlyIn)

/-! ### Expressions -/

theorem orderly_parseInvalid (span : Span) (i : Input) : (parseInvalid span i).Orderly 0 := by
  have hend {i : Input} (hk : i.kind ≠ .invalid) (span : Span) :
      (parseInvalid span i).Orderly 0 := by
    rw [parseInvalid_end span hk]
    refine ⟨fun e he => ?_, ?_, by simp⟩
    · rcases List.mem_append.mp he with he | he
      · exact from_lookEvents i e he
      · obtain rfl := List.mem_singleton.mp he
        trivial
    · simp only [operators_append, operators_lookEvents]
      simp [operators, Event.isOperator, Input.size]
  induction span, i using parseInvalid.induct with
  | case1 span i l rest h hk ih =>
    rw [parseInvalid_more span h hk]
    exact (ih.mono (Nat.zero_le _)).ofBehind (by simp [h])
  | case2 span i l rest h hk => exact hend (by rwa [Input.kind_of_ahead h]) span
  | case3 span i h => exact hend (by simp [Input.kind_of_nil h]) span

/-- Every alternative of the expression grammar is orderly. -/
theorem graded_orderly : Step.Graded fun _ _ {_ _} s => s.Orderly 0 where
  look _ _ := .ofLook () _
  nothing _ := .ofComplain (by decide) _ _
  literal _ hahead hk := .ofTake () (by simp [Event.From, TokenFrom, hk, hahead]) rfl
  name _ hahead hk hs := (hs.mono (Nat.zero_le _)).ofTaken
    (by simp [Event.From, TokenFrom, hk, hahead]) rfl (by simp [hahead])
  invalid _ hahead _ :=
    ((orderly_parseInvalid _ _).mono (Nat.zero_le _)).ofBehind (by simp [hahead])
  bind hs hnext := hs.ofBind hnext
  operator _ hahead _ hs hnext :=
    ((hs.ofYield (fun _ => .binary _) (fun _ => trivial) ()).ofBind hnext).ofBehind
      (by simp [hahead])
  unary _ hahead _ hs :=
    (hs.ofYield (fun _ => .unary _) (fun _ => trivial) ()).ofBehind (by simp [hahead])
  group _ hahead _ hs := (hs.ofBind fun _ _ _ => (OrderlyIn.ofExpect _ (by decide) _ _).ofYield
    (fun t => .group _ t.span) (fun _ => trivial) ()).ofBehind (by simp [hahead])
  index _ hahead _ hs := (hs.ofBind fun _ _ _ => (OrderlyIn.ofExpect _ (by decide) _ _).ofYield
    (fun t => .index t.span) (fun _ => trivial) ()).ofBehind (by simp [hahead])

theorem orderly_parseExpr (i : Input) : (parseExpr i).Orderly 0 :=
  graded_orderly.expression i 0

/-! ### Types -/

theorem orderly_parseSize (i : Input) : (parseSize i).Orderly 0 := by
  have hexpect : (Step.expect i .integer .expectType (utf8 "expected size") []).Orderly 0 :=
    .ofExpect _ (by decide) _ _
  refine hexpect.ofBind fun size j _ => ?_
  refine OrderlyIn.ofBind (.ofExpect _ (by decide) _ _) fun _ k _ => ?_
  split
  · exact .ofPure _
  · exact .ofRemark _ (by simp [Event.From]) rfl

theorem orderly_parseType (i : Input) : (parseType i).Orderly 0 := by
  induction i using parseType_induction with
  | none i hk =>
    rw [parseType_none hk]
    exact .ofComplain (by decide) _ _
  | array i l rest h hk ih =>
    rw [parseType_array h hk]
    have hsteps := (orderly_parseSize i.tail).ofBind fun n j hj =>
      (ih j hj).ofBind fun elem _ _ => .ofPure (DataType.array elem n)
    exact (hsteps.mono (Nat.zero_le _)).ofBehind (by simp [h])
  | scalar i l rest t h hk ht =>
    rw [parseType_scalar h hk ht]
    exact .ofTake t (by simp) rfl
  | string i l rest h hk ht =>
    rw [parseType_string h hk ht]
    have hsteps := (OrderlyIn.ofExpect (i := i.tail) .leftBracket
      (by decide : Code.expectType.IsSyntax) (utf8 "expected '[' after 'string'") []).ofBind
        fun _ j _ => (orderly_parseSize j).ofBind fun n _ _ => .ofPure (DataType.string n)
    exact (hsteps.mono (Nat.zero_le _)).ofBehind (by simp [h])

/-! ### Statements -/

theorem orderly_skipStatement (i : Input) : (skipStatement i).Orderly 0 := by
  induction i using skipStatement_induction with
  | stop i h =>
    rw [skipStatement_end h]
    exact .ofLook () _
  | semicolon i l rest h hk =>
    rw [skipStatement_semicolon h hk]
    exact .ofTake () (by simp) rfl
  | more i l rest h hs hb ih =>
    rw [skipStatement_more h hs hb]
    exact (ih.mono (Nat.zero_le _)).ofBehind (by simp [h])

theorem orderly_orResync {α : Type} {i : Input} {s : Step α i} (hs : s.Orderly 0) :
    s.orResync.Orderly 0 := by
  unfold Step.orResync
  split
  · exact ⟨hs.mem, hs.count, by simp⟩
  · rename_i hnone
    have hskip : (resync s.rest).Orderly 0 :=
      (orderly_skipStatement s.rest).ofAfter (by simp [Event.From]) rfl _
    refine ⟨fun e he => ?_, ?_, fun _ => (hs.told hnone).append_left _⟩
    · rcases List.mem_append.mp he with he | he
      · exact hs.mem e he
      · exact (hskip.mem e he).mono s.suffix
    · have := hs.count
      have := hskip.count
      simp only [Step.after, operators_append]
      omega

theorem kind_of_expect {i : Input} {k : TokenKind} {code : Code} {message : Bytes}
    {notes : List Note} {t : Token} (h : (Step.expect i k code message notes).value = some t) :
    t = i.head ∧ i.kind = k := by
  unfold Step.expect at h
  split at h
  · rename_i hk
    exact ⟨(Option.some.inj h).symm, hk⟩
  · cases h

/-- A declaration without its keyword, before it is skipped if it is broken. -/
theorem orderly_letBody (i : Input) :
    ((Step.expect i .identifier .expectIdentifier (utf8 "expected identifier after 'let'") []).bind
      fun name j _ =>
        (Step.expect j .colon .expectColon (utf8 "expected ':' after '" ++ name.text ++ utf8 "'")
          []).bind fun _ k _ =>
            ((parseType k).yield (fun type => .declare name type) ()).bind fun _ l _ =>
              Step.expect l .semicolon .expectSemicolon (utf8 "expected ';' after declaration")
                []).Orderly 0 := by
  have hexpect : (Step.expect i .identifier .expectIdentifier
      (utf8 "expected identifier after 'let'") []).Orderly 0 :=
    .ofExpect _ (by decide) _ _
  refine hexpect.ofBindIn fun name j hj hname => ?_
  refine OrderlyIn.ofBindIn (.wide (.ofExpect _ (by decide) _ _) hj) fun _ k hk _ => ?_
  have hfrom : name.kind = .identifier ∧ TokenFrom i.ahead name := by
    obtain ⟨rfl, hkind⟩ := kind_of_expect hname
    cases h : i.ahead with
    | nil => simp [Input.kind_of_nil h] at hkind
    | cons l rest =>
      rw [Input.kind_of_ahead h] at hkind
      rw [Input.head, h]
      exact ⟨hkind, l, List.mem_cons_self, rfl⟩
  have hki := hk.trans hj
  have hdeclare := ((orderly_parseType k).wide hki).ofYieldFree
    (fun type => .declare name type) (fun _ => hfrom) (fun _ => rfl) ()
  refine hdeclare.ofBindIn fun _ l hl _ => ?_
  exact .wide (.ofExpect _ (by decide) _ _) (hl.trans hki)

theorem orderly_parseLet (i : Input) : (parseLet i).Orderly 0 :=
  orderly_orResync (orderly_letBody i)

theorem orderly_exprBody (i : Input) :
    ((parseExprBody i).yield (fun _ => .finish) ()).Orderly 0 := by
  have hbody : (parseExprBody i).Orderly 0 :=
    (orderly_parseExpr i).ofBind fun _ j _ => .ofExpect _ (by decide) _ _
  exact hbody.ofYieldFree (fun _ => .finish) (fun _ => trivial) (fun _ => rfl) ()

theorem orderly_parseExprStmt (i : Input) : (parseExprStmt i).Orderly 0 :=
  orderly_orResync (orderly_exprBody i)

theorem orderly_statements :
    (∀ i, (parseStmt i).toStep.Orderly 0) ∧ ∀ opening i, (parseBlock opening i).Orderly 0 := by
  apply parseStmt_induction
  case nil =>
    intro i h
    rw [parseStmt_nil h]
    exact .ofPure ()
  case declaration =>
    intro i l rest h hk
    rw [parseStmt_let h hk]
    exact ((orderly_parseLet _).mono (Nat.zero_le _)).ofBehind (by simp [h])
  case inner =>
    intro i l rest h hk hblock
    rw [parseStmt_block h hk]
    exact (hblock.mono (Nat.zero_le _)).ofTaken (by simp [Event.From]) rfl (by simp [h])
  case brace =>
    intro i l rest h hk
    rw [parseStmt_brace h hk]
    refine ⟨fun e he => ?_, ?_, by simp [strayBrace]⟩
    · rcases List.mem_append.mp he with he | he
      · exact from_lookEvents i e he
      · obtain rfl := List.mem_singleton.mp he
        trivial
    · have : i.tail.size ≤ i.size := (Input.tail_suffix i).length_le
      simp only [strayBrace, operators_append, operators_lookEvents]
      simpa [operators, Event.isOperator] using this
  case expr =>
    intro i l rest h hk
    rw [parseStmt_expr h hk]
    exact orderly_parseExprStmt i
  case unclosed =>
    intro opening i h
    rw [parseBlock_nil opening h]
    have hexpect : (Step.expect i .rightBrace .unclosedBrace (utf8 "expected '\x7d'")
      [⟨opening, utf8 "block opened here"⟩]).Orderly 0 := .ofExpect _ (by decide) _ _
    refine ⟨fun e he => ?_, ?_, by simp [unclosedBlock]⟩
    · rcases List.mem_append.mp he with he | he
      · exact hexpect.mem e he
      · obtain rfl := List.mem_singleton.mp he
        trivial
    · have := hexpect.count
      simpa [unclosedBlock, operators, Event.isOperator] using this
  case close =>
    intro opening i l rest h hk
    rw [parseBlock_close opening h hk]
    exact .ofTake () (by simp [Event.From]) rfl
  case more =>
    intro opening i l rest h hk hstmt hblock
    rw [parseBlock_more opening h hk]
    replace hblock : (parseBlock opening (parseStmt i).rest).Orderly 0 := hblock
    refine ⟨fun e he => ?_, ?_, fun hv => (hblock.told hv).append_right _⟩
    · rcases List.mem_append.mp he with he | he
      · exact hstmt.mem e he
      · exact (hblock.mem e he).mono (parseStmt i).suffix
    · have := hstmt.count
      have := hblock.count
      simp only [Step.after, operators_append]
      omega

/-- The events of a source are about its tokens. -/
theorem from_parseProgram (i : Input) : ∀ e ∈ parseProgram i, e.From i.ahead := by
  induction i using parseProgram.induct with
  | case1 i h => simp [parseProgram_nil h]
  | case2 i l rest h s ih =>
    rw [parseProgram_more h]
    intro e he
    rcases List.mem_append.mp he with he | he
    · exact (orderly_statements.1 i).mem e he
    · exact (ih e he).mono (parseStmt i).suffix

/-- A source makes at most as many nodes as it has tokens. -/
theorem operators_parseProgram (i : Input) : operators (parseProgram i) ≤ i.size := by
  induction i using parseProgram.induct with
  | case1 i h => simp [parseProgram_nil h]
  | case2 i l rest h s ih =>
    rw [parseProgram_more h, operators_append]
    replace ih : operators (parseProgram (parseStmt i).rest) ≤ (parseStmt i).rest.size := ih
    have := (orderly_statements.1 i).count
    omega

end Parse

end ThreeAddress
