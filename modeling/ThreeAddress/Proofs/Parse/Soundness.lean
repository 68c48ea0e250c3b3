import ThreeAddress.Proofs.Parse.Events
import ThreeAddress.Proofs.Parse.Grammar

/-!
# What is read without a complaint is derived by the grammar

A step with a value has taken tokens that the grammar derives, as long as no token is invalid.
The tails of sums and of products, and the index behind a name, extend what stands in front of
them, so they are shown to complete a derivation that has begun.

## Main definitions

* `Input.tokens`, `Input.Valid` : the tokens ahead, none of them invalid.
* `Step.Completes` : a step completes a derivation.

## Main results

* `isBody_of_parseProgram` : a source without a syntax complaint is derived.
-/

namespace ThreeAddress.Parse

/-- The tokens ahead. -/
def Input.tokens (i : Input) : List Token :=
  i.ahead.map Lexeme.token

/-- No token ahead is invalid. -/
def Input.Valid (i : Input) : Prop :=
  ∀ t ∈ i.tokens, t.kind ≠ .invalid

namespace Input

variable {i j : Input} {l : Lexeme} {rest : List Lexeme}

theorem tokens_of_ahead (h : i.ahead = l :: rest) : i.tokens = l.token :: i.tail.tokens := by
  rw [tokens, tokens, ahead_tail, h, List.map_cons, List.tail_cons]

theorem tokens_of_nil (h : i.ahead = []) : i.tokens = [] := by
  rw [tokens, h, List.map_nil]

@[simp] theorem tokens_look (i : Input) : i.look.tokens = i.tokens := rfl

theorem Valid.mono (hi : i.Valid) (h : j.ahead <:+ i.ahead) : j.Valid :=
  fun t ht => hi t ((h.map Lexeme.token).subset ht)

theorem Valid.tail (hi : i.Valid) : i.tail.Valid :=
  hi.mono i.tail_suffix

theorem Valid.head (hi : i.Valid) (h : i.ahead = l :: rest) : l.token.kind ≠ .invalid :=
  hi l.token (by simp [tokens_of_ahead h])

end Input

namespace Step

variable {α β : Type} {i : Input}

/-- A chain of steps has a value if every step of it has one. -/
theorem exists_of_bind {s : Step α i} {next : α → (j : Input) → j.ahead <:+ i.ahead → Step β j}
    {b : β} (h : (s.bind next).value = some b) :
    ∃ a, s.value = some a ∧ (next a s.rest s.suffix).value = some b ∧
      (s.bind next).rest = (next a s.rest s.suffix).rest := by
  unfold bind at h ⊢
  split at h
  · rename_i a ha
    exact ⟨a, ha, h, rfl⟩
  · cases h

theorem exists_of_yield {s : Step α i} {event : α → Event} {value b : β}
    (h : (s.yield event value).value = some b) :
    ∃ a, s.value = some a ∧ (s.yield event value).rest = s.rest := by
  unfold yield at h ⊢
  split at h
  · rename_i a ha
    exact ⟨a, ha, rfl⟩
  · cases h

theorem tokens_of_expect {k : TokenKind} (hk : k ≠ .endOfFile) {code : Code} {message : Bytes}
    {notes : List Note} {t : Token} (h : (Step.expect i k code message notes).value = some t) :
    t.kind = k ∧ i.tokens = t :: (Step.expect i k code message notes).rest.tokens := by
  obtain ⟨rfl, hkind⟩ := kind_of_expect h
  unfold Step.expect
  rw [if_pos hkind]
  cases ha : i.ahead with
  | nil => exact absurd (hkind.symm.trans (Input.kind_of_nil ha)) hk
  | cons l rest =>
    have hhead : i.head = l.token := by rw [Input.head, ha]
    rw [hhead]
    exact ⟨(Input.kind_of_ahead ha).symm.trans hkind, Input.tokens_of_ahead ha⟩

/-- A step with a value completes a derivation, of which `front` has been read before. -/
def Completes (level : Level) (front : List Token) (s : Step Unit i) : Prop :=
  i.Valid → ∀ u, s.value = some u →
    ∃ ts e, IsExpr level (front ++ ts) e ∧ i.tokens = ts ++ s.rest.tokens

end Step

open Step (Completes)

/-! ### Expressions -/

namespace Precedence

/-- The level of what is read with operators of a level between. -/
def level : Precedence → Level
  | sum => .expr
  | product => .term

/-- The level of what stands between the operators. -/
def nextLevel : Precedence → Level
  | sum => .term
  | product => .unary

end Precedence

theorem IsExpr.ofNext (p : Precedence) {ts : List Token} {e : ExprTree}
    (h : IsExpr p.nextLevel ts e) : IsExpr p.level ts e := by
  cases p with
  | sum => exact .ofTerm h
  | product => exact .ofUnary h

theorem IsExpr.binary (p : Precedence) {ts us : List Token} {op : Token} {left right : ExprTree}
    (hleft : IsExpr p.level ts left) (hop : p.isOperator op.kind = true)
    (hright : IsExpr p.nextLevel us right) :
    IsExpr p.level (ts ++ op :: us) (.binary op left right) := by
  cases p with
  | sum => exact .sum hleft (by simpa [Precedence.isOperator] using hop) hright
  | product => exact .product hleft (by simpa [Precedence.isOperator] using hop) hright

section

variable {i : Input} {l : Lexeme} {rest : List Lexeme} {level : Level} {front : List Token}

/-- Reading nothing completes what has been read. -/
theorem completes_look {e : ExprTree} (h : IsExpr level front e) (es : List Event)
    (hlook : i.look.ahead <:+ i.ahead) :
    Completes level front (⟨es, some (), i.look, hlook⟩ : Step Unit i) := by
  intro _ _ _
  exact ⟨[], e, by rwa [List.append_nil], by simp⟩

/-- An operator and its right operand, and then the rest of the tail. -/
theorem completes_tail {inner outer : Level} {operand : Step Unit i.tail}
    {tail : (j : Input) → Step Unit j} (hi : i.ahead = l :: rest)
    (hoperand : Completes inner [] operand)
    (htail : ∀ j, j.ahead <:+ i.tail.ahead → ∀ ts e, IsExpr outer ts e →
      Completes outer ts (tail j))
    (hrule : ∀ ts e, IsExpr inner ts e → ∃ e', IsExpr outer (front ++ l.token :: ts) e') :
    Completes outer front ((operand.yield (fun _ => .binary l.token) ()).bind
      fun _ j _ => tail j).behind := by
  intro hvalid u hu
  obtain ⟨a, hyield, hv, hrest⟩ := Step.exists_of_bind (i := i.tail) hu
  obtain ⟨b, hb, hyrest⟩ := Step.exists_of_yield hyield
  obtain ⟨ts, e, he, hts⟩ := hoperand hvalid.tail b hb
  obtain ⟨e', he'⟩ := hrule ts e he
  have hsuffix := (operand.yield (fun _ => Event.binary l.token) ()).suffix
  obtain ⟨us, e'', he'', hus⟩ := htail _ hsuffix _ e' he' (hvalid.tail.mono hsuffix) u hv
  refine ⟨l.token :: ts ++ us, e'', by simpa using he'', ?_⟩
  show i.tokens = l.token :: ts ++ us ++ (Step.bind _ _).rest.tokens
  rw [hrest, Input.tokens_of_ahead hi, hts, ← hyrest, hus]
  simp

/-- An expression and the token that closes it. -/
theorem completes_closed {k : TokenKind} (hk : k ≠ .endOfFile) {code : Code} {message : Bytes}
    {notes : List Note} {event : Token → Event} (hi : i.ahead = l :: rest)
    (hexpr : Completes .expr [] (parseExpr i.tail))
    (hrule : ∀ ts e (closing : Token), IsExpr .expr ts e → closing.kind = k →
      ∃ e', IsExpr level (front ++ l.token :: ts ++ [closing]) e') :
    Completes level front (((parseExpr i.tail).bind fun _ j _ =>
      (Step.expect j k code message notes).yield event ()).behind) := by
  intro hvalid u hu
  obtain ⟨a, ha, hv, hrest⟩ := Step.exists_of_bind (i := i.tail) hu
  obtain ⟨t, ht, hyrest⟩ := Step.exists_of_yield hv
  obtain ⟨hkind, htokens⟩ := Step.tokens_of_expect hk ht
  obtain ⟨ts, e, he, hts⟩ := hexpr hvalid.tail a ha
  obtain ⟨e', he'⟩ := hrule ts e t he hkind
  refine ⟨l.token :: ts ++ [t], e', by simpa using he', ?_⟩
  show i.tokens = l.token :: ts ++ [t] ++ (Step.bind _ _).rest.tokens
  rw [hrest, hyrest, Input.tokens_of_ahead hi, hts, htokens]
  simp

/-- One level of expressions after a tighter one. -/
theorem completes_bind {inner outer : Level} {first : Step Unit i}
    {tail : (j : Input) → Step Unit j} (hfirst : Completes inner [] first)
    (htail : ∀ j, j.ahead <:+ i.ahead → ∀ ts e, IsExpr outer ts e → Completes outer ts (tail j))
    (hrule : ∀ ts e, IsExpr inner ts e → IsExpr outer ts e) :
    Completes outer [] (first.bind fun _ j _ => tail j) := by
  intro hvalid u hu
  obtain ⟨a, ha, hv, hrest⟩ := Step.exists_of_bind hu
  obtain ⟨ts, e, he, hts⟩ := hfirst hvalid a ha
  obtain ⟨us, e', he', hus⟩ := htail _ first.suffix ts e (hrule ts e he)
    (hvalid.mono first.suffix) u hv
  refine ⟨ts ++ us, e', he', ?_⟩
  rw [hrest, hts, hus, List.append_assoc]

end

/-- Reading at any level of the expression grammar completes a derivation. -/
theorem completes_expressions :
    (∀ (p : Precedence) i, Completes p.level [] (parseBinary p i)) ∧
      (∀ (p : Precedence) i ts e, IsExpr p.level ts e →
        Completes p.level ts (parseBinaryTail p i)) ∧
      (∀ (p : Precedence) i, Completes p.nextLevel [] (parseNext p i)) ∧
      (∀ i, Completes .unary [] (parseUnary i)) ∧ (∀ i, Completes .factor [] (parseOperand i)) ∧
      ∀ i (t : Token), t.kind = .identifier → Completes .factor [t] (parseIndex i) := by
  apply parseExpr_induction
  case level =>
    intro p i hnext htail
    rw [parseBinary]
    exact completes_bind hnext htail fun _ _ => .ofNext p
  case operator =>
    intro p i l rest h hk hnext htail ts e he
    rw [parseBinaryTail_operator p h hk]
    exact completes_tail h hnext htail fun us r hr => ⟨_, .binary p he hk hr⟩
  case stop =>
    intro p i hk ts e he
    rw [parseBinaryTail_end p hk]
    exact completes_look he _ _
  case product =>
    intro i hproduct
    rw [parseNext]
    exact hproduct
  case factor =>
    intro i hunary
    rw [parseNext]
    exact hunary
  case unaryOperator =>
    intro i l rest h hk hunary
    rw [parseUnary_operator h hk]
    intro hvalid u hu
    obtain ⟨a, ha, hrest⟩ := Step.exists_of_yield (i := i.tail) hu
    obtain ⟨ts, e, he, hts⟩ := hunary hvalid.tail a ha
    refine ⟨l.token :: ts, _, .unary hk he, ?_⟩
    show i.tokens = l.token :: ts ++ (Step.yield _ _ _).rest.tokens
    rw [hrest, Input.tokens_of_ahead h, hts, List.cons_append]
  case unaryOperand =>
    intro i hk hoperand
    rw [parseUnary_operand hk]
    intro hvalid u hu
    obtain ⟨ts, e, he, hts⟩ := hoperand hvalid u hu
    exact ⟨ts, e, .ofFactor he, hts⟩
  case none =>
    intro i hk
    rw [parseOperand_none hk]
    intro _ _ hu
    cases hu
  case group =>
    intro i l rest h hk hexpr
    rw [parseOperand_group h hk]
    exact completes_closed (by decide) h hexpr fun ts e closing he hclosing =>
      ⟨_, .group hk he hclosing⟩
  case literal =>
    intro i l rest h hk
    rw [parseOperand_literal h hk]
    intro _ _ _
    exact ⟨[l.token], _, .literal hk, Input.tokens_of_ahead h⟩
  case name =>
    intro i l rest h hk hindex
    rw [parseOperand_name h hk]
    intro hvalid u hu
    obtain ⟨ts, e, he, hts⟩ := hindex l.token hk hvalid.tail u hu
    exact ⟨l.token :: ts, e, he, by rw [Input.tokens_of_ahead h, hts]; rfl⟩
  case invalid =>
    intro i l rest h hk hvalid
    exact absurd hk (hvalid.head h)
  case indexOpen =>
    intro i l rest h hk hexpr t ht
    rw [parseIndex_open h hk]
    exact completes_closed (by decide) h hexpr fun ts e closing he hclosing =>
      ⟨_, .index ht hk he hclosing⟩
  case indexEnd =>
    intro i hk t ht
    rw [parseIndex_end hk]
    exact completes_look (.name ht) _ _

theorem completes_parseExpr (i : Input) : Completes .expr [] (parseExpr i) :=
  completes_expressions.1 .sum i

/-! ### Types -/

theorem tokens_of_parseSize {i : Input} {n : UInt32} (h : (parseSize i).value = some n) :
    ∃ size closing : Token, size.kind = .integer ∧ closing.kind = .rightBracket ∧
      i.tokens = size :: closing :: (parseSize i).rest.tokens := by
  obtain ⟨size, hsize, h, hrest⟩ := Step.exists_of_bind h
  obtain ⟨closing, hclosing, h, hrest'⟩ := Step.exists_of_bind h
  obtain ⟨hkind, hts⟩ := Step.tokens_of_expect (by decide) hsize
  obtain ⟨hkind', hts'⟩ := Step.tokens_of_expect (by decide) hclosing
  refine ⟨size, closing, hkind, hkind', ?_⟩
  rw [parseSize, hrest, hrest', hts, hts']
  split <;> rfl

/-- A type that is read is derived. -/
theorem isType_of_parseType {i : Input} {d : DataType} (h : (parseType i).value = some d) :
    ∃ ts type, IsType ts type ∧ i.tokens = ts ++ (parseType i).rest.tokens := by
  induction i using parseType_induction generalizing d with
  | none i hk =>
    rw [parseType_none hk] at h
    cases h
  | array i l rest ha hk ih =>
    rw [parseType_array ha hk] at h ⊢
    obtain ⟨n, hn, h, hrest⟩ := Step.exists_of_bind (i := i.tail) h
    obtain ⟨elem, helem, _, hrest'⟩ := Step.exists_of_bind h
    obtain ⟨size, closing, hsize, hclosing, hts⟩ := tokens_of_parseSize hn
    obtain ⟨ts, type, htype, hts'⟩ := ih _ (parseSize i.tail).suffix helem
    refine ⟨l.token :: size :: closing :: ts, _, .array hk hsize hclosing htype, ?_⟩
    show i.tokens = _ ++ (Step.bind _ _).rest.tokens
    rw [hrest, hrest', Input.tokens_of_ahead ha, hts, hts']
    rfl
  | scalar i l rest t ha hk ht =>
    rw [parseType_scalar ha hk ht]
    exact ⟨[l.token], _, .scalar hk ht, Input.tokens_of_ahead ha⟩
  | string i l rest ha hk ht =>
    rw [parseType_string ha hk ht] at h ⊢
    obtain ⟨opening, hopen, h, hrest⟩ := Step.exists_of_bind (i := i.tail) h
    obtain ⟨n, hn, _, hrest'⟩ := Step.exists_of_bind h
    obtain ⟨hopening, hts⟩ := Step.tokens_of_expect (by decide) hopen
    obtain ⟨size, closing, hsize, hclosing, hts'⟩ := tokens_of_parseSize hn
    refine ⟨[l.token, opening, size, closing], _,
      .string hk ht hopening hsize hclosing, ?_⟩
    show i.tokens = _ ++ (Step.bind _ _).rest.tokens
    rw [hrest, hrest', Input.tokens_of_ahead ha, hts, hts']
    rfl

/-! ### Statements -/

/-- A statement without a complaint has not been skipped. -/
theorem exists_of_orResync {α : Type} {i : Input} {s : Step α i} (hs : s.Orderly 0)
    (h : ¬ Complains s.orResync.events) :
    ∃ a, s.value = some a ∧ s.orResync.rest = s.rest := by
  unfold Step.orResync at h ⊢
  split at h
  · rename_i a ha
    exact ⟨a, ha, rfl⟩
  · rename_i hnone
    exact absurd ((hs.told hnone).append_left _) h

/-- Tokens that make a sequence of statements longer by one. -/
def IsStatement (ts : List Token) : Prop :=
  ∀ us b, IsBody us b → ∃ b', IsBody (ts ++ us) b'

theorem isStatement_of_parseLet {i : Input} {key : Token} (hkey : key.kind = .keywordLet)
    (h : ¬ Complains (parseLet i).events) :
    ∃ ts, IsStatement (key :: ts) ∧ i.tokens = ts ++ (parseLet i).rest.tokens := by
  obtain ⟨semicolon, h, hrest⟩ := exists_of_orResync (orderly_letBody i) h
  obtain ⟨name, hname, h, hrest₁⟩ := Step.exists_of_bind h
  obtain ⟨colon, hcolon, h, hrest₂⟩ := Step.exists_of_bind h
  obtain ⟨_, htype, hsemicolon, hrest₃⟩ := Step.exists_of_bind h
  obtain ⟨type, htype, hrest₄⟩ := Step.exists_of_yield htype
  obtain ⟨hname, hts₁⟩ := Step.tokens_of_expect (by decide) hname
  obtain ⟨hcolon, hts₂⟩ := Step.tokens_of_expect (by decide) hcolon
  obtain ⟨ts, tree, htree, hts₃⟩ := isType_of_parseType htype
  obtain ⟨hsemicolon, hts₄⟩ := Step.tokens_of_expect (by decide) hsemicolon
  refine ⟨name :: colon :: ts ++ [semicolon], fun us b hb => ⟨.declare name tree b, ?_⟩, ?_⟩
  · simpa using IsBody.declare hkey hname hcolon htree hsemicolon hb
  · rw [parseLet, hrest, hrest₁, hrest₂, hrest₃, hts₁, hts₂, hts₃, ← hrest₄, hts₄]
    simp

theorem isStatement_of_parseExprStmt {i : Input} (hi : i.Valid)
    (h : ¬ Complains (parseExprStmt i).events) :
    ∃ ts, IsStatement ts ∧ i.tokens = ts ++ (parseExprStmt i).rest.tokens := by
  obtain ⟨_, h, hrest⟩ := exists_of_orResync (orderly_exprBody i) h
  obtain ⟨semicolon, h, hrest₁⟩ := Step.exists_of_yield h
  obtain ⟨u, hu, hsemicolon, hrest₂⟩ := Step.exists_of_bind h
  obtain ⟨ts, e, he, hts⟩ := completes_parseExpr i hi u hu
  obtain ⟨hsemicolon, hts'⟩ := Step.tokens_of_expect (by decide) hsemicolon
  refine ⟨ts ++ [semicolon], fun us b hb => ⟨.expression e b, ?_⟩, ?_⟩
  · simpa using IsBody.expression he hsemicolon hb
  · rw [parseExprStmt, hrest, hrest₁, parseExprBody, hrest₂, hts, hts']
    simp

theorem complains_unclosedBlock {opening : Span} {i : Input} (h : i.ahead = []) :
    Complains (unclosedBlock opening i).events := by
  have hexpect : (Step.expect i .rightBrace .unclosedBrace (utf8 "expected '\x7d'")
      [⟨opening, utf8 "block opened here"⟩]).value = none := by
    rw [Step.expect, if_neg (by simp [Input.kind_of_nil h])]
    rfl
  exact ((Step.OrderlyIn.ofExpect _ (by decide) _ _).told hexpect).append_left _

theorem complains_strayBrace (i : Input) : Complains (strayBrace i).events :=
  ⟨_, List.mem_append_right _ List.mem_cons_self, (by decide : Code.unexpectedToken.IsSyntax)⟩

/-- Statements and blocks without a complaint are derived. -/
theorem isStatement_of_parseStmt :
    (∀ i : Input, i.Valid → ¬ Complains (parseStmt i).events →
      ∃ ts, IsStatement ts ∧ i.tokens = ts ++ (parseStmt i).rest.tokens) ∧
    ∀ (opening : Span) (i : Input), i.Valid → ¬ Complains (parseBlock opening i).events →
      ∃ ts b, ∃ closing : Token, IsBody ts b ∧ closing.kind = .rightBrace ∧
        i.tokens = ts ++ closing :: (parseBlock opening i).rest.tokens := by
  apply parseStmt_induction
  case nil =>
    intro i h _ _
    refine ⟨[], fun us b hb => ⟨b, hb⟩, ?_⟩
    rw [parseStmt_nil h]
    rfl
  case declaration =>
    intro i l rest h hk _ hno
    rw [parseStmt_let h hk] at hno ⊢
    obtain ⟨ts, hts, htokens⟩ :=
      isStatement_of_parseLet hk fun hc => hno (hc.append_right _)
    exact ⟨l.token :: ts, hts, by rw [Input.tokens_of_ahead h, htokens]; rfl⟩
  case inner =>
    intro i l rest h hk hblock hvalid hno
    rw [parseStmt_block h hk] at hno ⊢
    obtain ⟨ts, b, closing, hb, hclosing, htokens⟩ :=
      hblock hvalid.tail fun hc => hno ((hc.append_right _).append_right _)
    refine ⟨l.token :: ts ++ [closing], fun us c hc => ⟨.block b c, ?_⟩, ?_⟩
    · simpa using IsBody.block hk hb hclosing hc
    · rw [Input.tokens_of_ahead h, htokens]
      simp [Step.behind, Step.after]
  case brace =>
    intro i l rest h hk _ hno
    rw [parseStmt_brace h hk] at hno
    exact absurd (complains_strayBrace i) hno
  case expr =>
    intro i l rest h hk hvalid hno
    rw [parseStmt_expr h hk] at hno ⊢
    exact isStatement_of_parseExprStmt hvalid hno
  case unclosed =>
    intro opening i h _ hno
    rw [parseBlock_nil opening h] at hno
    exact absurd (complains_unclosedBlock h) hno
  case close =>
    intro opening i l rest h hk _ _
    rw [parseBlock_close opening h hk]
    exact ⟨[], .done, l.token, .done, hk, Input.tokens_of_ahead h⟩
  case more =>
    intro opening i l rest h hk hstmt hblock hvalid hno
    rw [parseBlock_more opening h hk] at hno ⊢
    obtain ⟨ts, hts, htokens⟩ := hstmt hvalid fun hc => hno (hc.append_left _)
    obtain ⟨us, b, closing, hb, hclosing, htokens'⟩ :=
      hblock (hvalid.mono (parseStmt i).suffix) fun hc => hno (hc.append_right _)
    obtain ⟨c, hc⟩ := hts us b hb
    refine ⟨ts ++ us, c, closing, hc, hclosing, ?_⟩
    rw [htokens, List.append_assoc]
    exact congrArg (ts ++ ·) htokens'

/-- A source without a syntax complaint is derived by the grammar. -/
theorem isBody_of_parseProgram {i : Input} (hvalid : i.Valid) (hno : ¬ Complains (parseProgram i)) :
    ∃ b, IsBody i.tokens b := by
  induction i using parseProgram.induct with
  | case1 i h =>
    rw [Input.tokens_of_nil h]
    exact ⟨.done, .done⟩
  | case2 i l rest h s ih =>
    rw [parseProgram_more h] at hno
    obtain ⟨ts, hts, htokens⟩ :=
      isStatement_of_parseStmt.1 i hvalid fun hc => hno (hc.append_left _)
    obtain ⟨b, hb⟩ := ih (hvalid.mono (parseStmt i).suffix) fun hc => hno (hc.append_right _)
    rw [htokens]
    exact hts _ b hb

end ThreeAddress.Parse
