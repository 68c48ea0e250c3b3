import ThreeAddress.Proofs.Parse.Unfold

/-!
# Properties that combining steps keeps

Expressions are read by few combinators of steps. A property of steps that each alternative of the
grammar keeps, or even each combinator, holds for reading at every level, so it need not be shown
level by level.

## Main definitions

* `Step.Graded` : a property that the alternatives keep, with numbers of operands.
* `Step.Kept` : a property that the combinators keep.

## Main results

* `Step.Graded.expression`, `Step.Kept.expression` : such properties hold for reading expressions.
* `Step.Kept.type` : a property that the combinators keep holds for reading types.
-/

namespace ThreeAddress.Parse

/-- The kinds of the tokens that an expression is made of, apart from invalid ones. -/
def isExpressionKind (k : TokenKind) : Bool :=
  Precedence.sum.isOperator k || Precedence.product.isOperator k || k == .tilde || k.isLiteral ||
    k == .identifier || k == .leftParen || k == .rightParen || k == .leftBracket ||
    k == .rightBracket

theorem ne_invalid_of_isExpressionKind {k : TokenKind} (hk : isExpressionKind k = true) :
    k ≠ .invalid := by
  rintro rfl
  cases hk

theorem isExpressionKind_of_isLiteral {k : TokenKind} (hk : k.isLiteral = true) :
    isExpressionKind k = true := by
  simp [isExpressionKind, hk]

theorem isExpressionKind_of_isOperator {p : Precedence} {k : TokenKind}
    (hk : p.isOperator k = true) : isExpressionKind k = true := by
  cases p <;> simp [isExpressionKind, hk]

/-- Tests for an event that makes an operand out of earlier ones. -/
def Event.isCombining : Event → Bool
  | .binary _ | .unary _ | .group _ _ | .index _ => true
  | _ => false

namespace Step

/-- One step after another, if the first one yields a value. -/
theorem bind_of_some {α β : Type} {i : Input} {s : Step α i} {a : α} (h : s.value = some a)
    (next : α → (j : Input) → j.ahead <:+ i.ahead → Step β j) :
    s.bind next = (next a s.rest s.suffix).after s.events s.suffix := by
  unfold bind
  split
  · rename_i b hb
    obtain rfl := Option.some.inj (h.symm.trans hb)
    rfl
  · rename_i hnone
    exact absurd (h.symm.trans hnone) (Option.some_ne_none a)

/-- A property of steps that the alternatives of the expression grammar keep. It may tell the number
of operands in front of a step and behind it. -/
structure Graded (P : Nat → Nat → {α : Type} → {i : Input} → Step α i → Prop) : Prop where
  /-- Looking at a token that does not go on. -/
  look {i : Input} (n : Nat) (h : i.look.ahead <:+ i.ahead) :
    P n n (⟨i.lookEvents, some (), i.look, h⟩ : Step Unit i)
  /-- Complaining about a token that starts no operand. -/
  nothing {i : Input} (n : Nat) : P n (n + 1) (noOperand i)
  /-- A literal. -/
  literal {i : Input} {l : Lexeme} {rest : List Lexeme} (n : Nat) (hahead : i.ahead = l :: rest)
    (hk : l.token.kind.isLiteral = true) : P n (n + 1) (Step.take i () [.literal l.token])
  /-- A name with what follows it. -/
  name {i : Input} {l : Lexeme} {rest : List Lexeme} {s : Step Unit i.tail} (n : Nat)
    (hahead : i.ahead = l :: rest) (hk : l.token.kind = .identifier)
    (hs : P (n + 1) (n + 1) s) :
    P n (n + 1) (s.after [.name l.token] (List.suffix_refl _)).behind
  /-- A run of invalid tokens. -/
  invalid {i : Input} {l : Lexeme} {rest : List Lexeme} (n : Nat) (hahead : i.ahead = l :: rest)
    (hk : l.token.kind = .invalid) : P n (n + 1) (parseInvalid l.token.span i.tail).behind
  /-- One step after another. -/
  bind {m k n : Nat} {i : Input} {s : Step Unit i}
    {next : Unit → (j : Input) → j.ahead <:+ i.ahead → Step Unit j} (hs : P m k s)
    (hnext : ∀ a j h, P k n (next a j h)) : P m n (s.bind next)
  /-- A binary operator with its right operand, and what follows. -/
  operator {i : Input} {l : Lexeme} {rest : List Lexeme} {s : Step Unit i.tail}
    {next : Unit → (j : Input) → j.ahead <:+ i.tail.ahead → Step Unit j} (n : Nat)
    (hahead : i.ahead = l :: rest) (hk : isExpressionKind l.token.kind = true)
    (hs : P (n + 1) (n + 2) s)
    (hnext : ∀ a j h, P (n + 1) (n + 1) (next a j h)) :
    P (n + 1) (n + 1) ((s.yield (fun _ => .binary l.token) ()).bind next).behind
  /-- A unary operator with its operand. -/
  unary {i : Input} {l : Lexeme} {rest : List Lexeme} {s : Step Unit i.tail} (n : Nat)
    (hahead : i.ahead = l :: rest) (hk : isExpressionKind l.token.kind = true)
    (hs : P n (n + 1) s) :
    P n (n + 1) (s.yield (fun _ => .unary l.token) ()).behind
  /-- An expression in parentheses. -/
  group {i : Input} {l : Lexeme} {rest : List Lexeme} {s : Step Unit i.tail} (n : Nat)
    (hahead : i.ahead = l :: rest) (hk : l.token.kind = .leftParen) (hs : P n (n + 1) s) :
    P n (n + 1) (s.bind fun _ j _ =>
      (Step.expect j .rightParen .unclosedParen (utf8 "expected ')'")
        (openedHere l.token.span)).yield (fun t => .group l.token.span t.span) ()).behind
  /-- An index in brackets. -/
  index {i : Input} {l : Lexeme} {rest : List Lexeme} {s : Step Unit i.tail} (n : Nat)
    (hahead : i.ahead = l :: rest) (hk : l.token.kind = .leftBracket)
    (hs : P (n + 1) (n + 2) s) :
    P (n + 1) (n + 1) (s.bind fun _ j _ =>
      (Step.expect j .rightBracket .unclosedBracket (utf8 "expected ']'")
        (openedHere l.token.span)).yield (fun t => .index t.span) ()).behind

/-- A property of steps that the combinators of the expression grammar keep. -/
structure Kept (P : {α : Type} → {i : Input} → Step α i → Prop) : Prop where
  /-- Looking at the next token. -/
  look {α : Type} {i : Input} (a : α) (h : i.look.ahead <:+ i.ahead) :
    P (⟨i.lookEvents, some a, i.look, h⟩ : Step α i)
  /-- Looking at the token behind invalid ones. -/
  invalid {i : Input} (span : Span) (h : i.look.ahead <:+ i.ahead) :
    P (⟨i.lookEvents ++ [.invalid span], some (), i.look, h⟩ : Step Unit i)
  /-- Going on behind an invalid token. -/
  skip {i : Input} (span : Span) (hk : i.kind = .invalid) (hs : P (parseInvalid span i.tail)) :
    P (parseInvalid span i.tail).behind
  /-- Taking a token that makes no operand. -/
  take {α : Type} {i : Input} (a : α) (hk : isExpressionKind i.kind = true) : P (Step.take i a [])
  /-- Taking a literal. -/
  literal {i : Input} (t : Token) (hk : isExpressionKind i.kind = true) :
    P (Step.take i () [.literal t])
  /-- Taking a name. -/
  name {α : Type} {i : Input} {s : Step α i} (t : Token) (hs : P s) :
    P (s.after [.name t] (List.suffix_refl _))
  /-- Complaining about the next token. -/
  complain {α : Type} {i : Input} (code : Code) (message : Bytes) (notes : List Note) :
    P (Step.complain i code message notes : Step α i)
  /-- Going on behind the next token. -/
  behind {α : Type} {i : Input} {s : Step α i.tail} (hk : isExpressionKind i.kind = true)
    (hs : P s) : P s.behind
  /-- One step after another. -/
  bind {α β : Type} {i : Input} {s : Step α i}
    {next : α → (j : Input) → j.ahead <:+ i.ahead → Step β j} (hs : P s)
    (hnext : ∀ a j h, P (next a j h)) : P (s.bind next)
  /-- Making an operand out of earlier ones. -/
  yield {α β : Type} {i : Input} {s : Step α i} (event : α → Event)
    (hevent : ∀ a, (event a).isCombining = true) (value : β) (hs : P s) : P (s.yield event value)

/-- Reading at every level of the expression grammar adds one operand, and the tail of a level
leaves one in place of those that it takes. -/
theorem Graded.expressions {P : Nat → Nat → {α : Type} → {i : Input} → Step α i → Prop}
    (h : Graded P) :
    (∀ p i n, P n (n + 1) (parseBinary p i)) ∧
      (∀ p i n, P (n + 1) (n + 1) (parseBinaryTail p i)) ∧
      (∀ p i n, P n (n + 1) (parseNext p i)) ∧ (∀ i n, P n (n + 1) (parseUnary i)) ∧
      (∀ i n, P n (n + 1) (parseOperand i)) ∧ (∀ i n, P (n + 1) (n + 1) (parseIndex i)) := by
  apply parseExpr_induction
  case level =>
    intro p i hnext htail n
    rw [parseBinary]
    exact h.bind (hnext n) fun _ j hj => htail j hj n
  case operator =>
    intro p i l rest hahead hk hnext htail n
    rw [parseBinaryTail_operator p hahead hk]
    exact h.operator n hahead (isExpressionKind_of_isOperator hk) (hnext (n + 1))
      fun _ j hj => htail j hj n
  case stop =>
    intro p i hk n
    rw [parseBinaryTail_end p hk]
    exact h.look (n + 1) _
  case product =>
    intro i hproduct n
    rw [parseNext]
    exact hproduct n
  case factor =>
    intro i hunary n
    rw [parseNext]
    exact hunary n
  case unaryOperator =>
    intro i l rest hahead hk hunary n
    rw [parseUnary_operator hahead hk]
    exact h.unary n hahead (by rcases hk with hk | hk <;> rw [hk] <;> rfl) (hunary n)
  case unaryOperand =>
    intro i hk hoperand n
    rw [parseUnary_operand hk]
    exact hoperand n
  case none =>
    intro i hk n
    rw [parseOperand_none hk]
    exact h.nothing n
  case group =>
    intro i l rest hahead hk hexpr n
    rw [parseOperand_group hahead hk]
    exact h.group n hahead hk (hexpr n)
  case literal =>
    intro i l rest hahead hk n
    rw [parseOperand_literal hahead hk]
    exact h.literal n hahead hk
  case name =>
    intro i l rest hahead hk hindex n
    rw [parseOperand_name hahead hk]
    exact h.name n hahead hk (hindex n)
  case invalid =>
    intro i l rest hahead hk n
    rw [parseOperand_invalid hahead hk]
    exact h.invalid n hahead hk
  case indexOpen =>
    intro i l rest hahead hk hexpr n
    rw [parseIndex_open hahead hk]
    exact h.index n hahead hk (hexpr (n + 1))
  case indexEnd =>
    intro i hk n
    rw [parseIndex_end hk]
    exact h.look (n + 1) _

/-- Reading an expression adds one operand. -/
theorem Graded.expression {P : Nat → Nat → {α : Type} → {i : Input} → Step α i → Prop}
    (h : Graded P) (i : Input) (n : Nat) : P n (n + 1) (parseExpr i) :=
  h.expressions.1 .sum i n

namespace Kept

variable {P : {α : Type} → {i : Input} → Step α i → Prop}

theorem expect (h : Kept P) {i : Input} {k : TokenKind} (hk : isExpressionKind k = true)
    (code : Code) (message : Bytes) (notes : List Note) :
    P (Step.expect i k code message notes) := by
  unfold Step.expect
  split
  · rename_i hkind
    exact h.take _ (by rwa [hkind])
  · exact h.complain _ _ _

theorem parseInvalid (h : Kept P) (span : Span) (i : Input) : P (parseInvalid span i) := by
  have hend {i : Input} (hk : i.kind ≠ .invalid) (span : Span) : P (Parse.parseInvalid span i) := by
    rw [parseInvalid_end span hk]
    exact h.invalid _ _
  induction span, i using parseInvalid.induct with
  | case1 span i l rest hahead hk ih =>
    rw [parseInvalid_more span hahead hk]
    exact h.skip _ (by rwa [Input.kind_of_ahead hahead]) ih
  | case2 span i l rest hahead hk => exact hend (by rwa [Input.kind_of_ahead hahead]) span
  | case3 span i hahead => exact hend (by simp [Input.kind_of_nil hahead]) span

/-- The combinators make up the alternatives of the grammar. -/
theorem graded (h : Kept P) : Graded fun _ _ => P where
  look _ hlook := h.look () hlook
  nothing _ := h.complain _ _ _
  literal _ hahead hk := h.literal _ (by
    rw [Input.kind_of_ahead hahead]
    exact isExpressionKind_of_isLiteral hk)
  name _ hahead hk hs := h.behind (by rw [Input.kind_of_ahead hahead, hk]; rfl) (h.name _ hs)
  invalid _ hahead hk := h.skip _ ((Input.kind_of_ahead hahead).trans hk) (h.parseInvalid _ _)
  bind hs hnext := h.bind hs hnext
  operator _ hahead hk hs hnext := h.behind (by rwa [Input.kind_of_ahead hahead])
    (h.bind (h.yield _ (fun _ => rfl) () hs) hnext)
  unary _ hahead hk hs := h.behind (by rwa [Input.kind_of_ahead hahead])
    (h.yield _ (fun _ => rfl) () hs)
  group _ hahead hk hs := h.behind (by rw [Input.kind_of_ahead hahead, hk]; rfl)
    (h.bind hs fun _ _ _ => h.yield _ (fun _ => rfl) () (h.expect (by decide) _ _ _))
  index _ hahead hk hs := h.behind (by rw [Input.kind_of_ahead hahead, hk]; rfl)
    (h.bind hs fun _ _ _ => h.yield _ (fun _ => rfl) () (h.expect (by decide) _ _ _))

/-- Such a property holds for reading an expression. -/
theorem expression (h : Kept P) (i : Input) : P (parseExpr i) :=
  h.graded.expression i 0

/-- A property that is kept for expressions is kept for a size as well, if a size out of range is
no exception. -/
theorem size (h : Kept P) (hpure : ∀ {α : Type} {i : Input} (a : α), P (Step.pure a : Step α i))
    (hbad : ∀ {i : Input} (size : Token),
      P (Step.remark [.complain (badSize size)] 0 : Step UInt32 i)) (i : Input) :
    P (parseSize i) := by
  refine h.bind (h.expect rfl _ _ _) fun size _ _ => h.bind (h.expect rfl _ _ _) fun _ _ _ => ?_
  split
  · exact hpure _
  · exact hbad size

/-- The same for a type. -/
theorem type (h : Kept P) (hpure : ∀ {α : Type} {i : Input} (a : α), P (Step.pure a : Step α i))
    (hbad : ∀ {i : Input} (size : Token),
      P (Step.remark [.complain (badSize size)] 0 : Step UInt32 i)) (i : Input) :
    P (parseType i) := by
  induction i using parseType_induction with
  | none i hk =>
    rw [parseType_none hk]
    exact h.complain _ _ _
  | array i l rest hahead hk ih =>
    rw [parseType_array hahead hk]
    exact h.behind (by rw [Input.kind_of_ahead hahead, hk]; rfl) <|
      h.bind (h.size hpure hbad i.tail) fun _ j hj => h.bind (ih j hj) fun _ _ _ => hpure _
  | scalar i l rest t hahead hk ht =>
    rw [parseType_scalar hahead hk ht]
    exact h.take t (by rw [Input.kind_of_ahead hahead, hk]; rfl)
  | string i l rest hahead hk ht =>
    rw [parseType_string hahead hk ht]
    exact h.behind (by rw [Input.kind_of_ahead hahead, hk]; rfl) <|
      h.bind (h.expect rfl _ _ _) fun _ j _ =>
        h.bind (h.size hpure hbad j) fun _ _ _ => hpure _

end Kept

end Step

end ThreeAddress.Parse
