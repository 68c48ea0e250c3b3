import ThreeAddress.Parse.Step

/-!
# Parsing expressions

Products bind tighter than sums, unary operators tighter than products, and operators of one level
group to the left. An operand is a literal, a name with at most one index, or an expression in
parentheses. A run of invalid tokens, which lexing has complained about, passes for an operand.

## Main definitions

* `Precedence` : the levels of binary operators.
* `parseExpr` : sums of products, read into postfix events.
-/

namespace ThreeAddress.Parse

/-- The note at the opening bracket of something that is not closed. -/
def openedHere (opening : Span) : List Note :=
  [⟨opening, utf8 "opened here"⟩]

/-- The two levels of binary operators. -/
inductive Precedence where
  /-- Additive operators, between products. -/
  | sum
  /-- Multiplicative operators, between operands with their unary operators. -/
  | product
deriving Repr, DecidableEq

namespace Precedence

/-- Tests for an operator of a level. -/
def isOperator : Precedence → TokenKind → Bool
  | sum, k => k == .plus || k == .minus
  | product, k => k == .star || k == .slash

@[simp] theorem isOperator_endOfFile (p : Precedence) : p.isOperator .endOfFile = false := by
  cases p <;> rfl

/-- How many levels of binary operators bind tighter. -/
def rank : Precedence → Nat
  | sum => 1
  | product => 0

theorem rank_le (p : Precedence) : p.rank ≤ 1 := by
  cases p <;> decide

end Precedence

/-- Complains that the next token starts no operand. -/
def noOperand (i : Input) : Step Unit i :=
  .complain i .expectExpression (utf8 "expected expression, got " ++ i.head.describe) []

/-- Takes the invalid tokens ahead; `span` covers those taken before. -/
def parseInvalid (span : Span) (i : Input) : Step Unit i :=
  match _h : i.ahead with
  | l :: _ =>
    if l.token.kind = .invalid then (parseInvalid (span.cover l.token.span) i.tail).behind
    else ⟨i.lookEvents ++ [.invalid span], some (), i.look, List.suffix_refl _⟩
  | [] => ⟨[.invalid span], some (), i.look, List.suffix_refl _⟩
termination_by i.size
decreasing_by exact Input.size_tail_lt _h

section

variable {i j : Input} {l : Lexeme} {rest : List Lexeme} {m n : Nat}

/-- As many tokens or fewer at a lower level of the grammar is progress. -/
theorem measure_lt_of_level (h : j.ahead <:+ i.ahead) (hmn : m < n) :
    8 * j.size + m < 8 * i.size + n := by
  have hsize : j.size ≤ i.size := h.length_le
  omega

/-- A token less is progress, at whatever level of the grammar. -/
theorem measure_lt_of_token (hi : i.ahead = l :: rest) (h : j.ahead <:+ i.tail.ahead)
    (hm : m < 8) : 8 * j.size + m < 8 * i.size + n := by
  have hsize : j.size < i.size := Nat.lt_of_le_of_lt h.length_le (Input.size_tail_lt hi)
  omega

end

mutual

/-- Reads operands with operators of a level between them. -/
def parseBinary (p : Precedence) (i : Input) : Step Unit i :=
  (parseNext p i).bind fun _ j _hj => parseBinaryTail p j
termination_by 8 * i.size + (2 * p.rank + 4)
decreasing_by
  · exact measure_lt_of_level (List.suffix_refl _) (by omega)
  · exact measure_lt_of_level _hj (by omega)

/-- Reads the operators of a level, and their right operands, behind an operand. -/
def parseBinaryTail (p : Precedence) (i : Input) : Step Unit i :=
  match _h : i.ahead with
  | l :: _ =>
    if p.isOperator l.token.kind then
      Step.behind <| ((parseNext p i.tail).yield (fun _ => .binary l.token) ()).bind
        fun _ j _hj => parseBinaryTail p j
    else ⟨i.lookEvents, some (), i.look, List.suffix_refl _⟩
  | [] => ⟨[], some (), i.look, List.suffix_refl _⟩
termination_by 8 * i.size + 2
decreasing_by
  · exact measure_lt_of_token _h (List.suffix_refl _) (by have := p.rank_le; omega)
  · exact measure_lt_of_token _h _hj (by decide)

/-- Reads what stands between the operators of a level. -/
def parseNext (p : Precedence) (i : Input) : Step Unit i :=
  match p with
  | .sum => parseBinary .product i
  | .product => parseUnary i
termination_by 8 * i.size + (2 * p.rank + 3)
decreasing_by
  · exact measure_lt_of_level (List.suffix_refl _) (by decide)
  · exact measure_lt_of_level (List.suffix_refl _) (by decide)

/-- Reads an operand with the unary operators in front of it. -/
def parseUnary (i : Input) : Step Unit i :=
  match _h : i.ahead with
  | l :: _ =>
    if l.token.kind = .minus ∨ l.token.kind = .tilde then
      Step.behind <| (parseUnary i.tail).yield (fun _ => .unary l.token) ()
    else parseOperand i
  | [] => parseOperand i
termination_by 8 * i.size + 2
decreasing_by
  · exact measure_lt_of_token _h (List.suffix_refl _) (by decide)
  · exact measure_lt_of_level (List.suffix_refl _) (by decide)
  · exact measure_lt_of_level (List.suffix_refl _) (by decide)

/-- Reads an operand. -/
def parseOperand (i : Input) : Step Unit i :=
  match _h : i.ahead with
  | [] => noOperand i
  | l :: _ =>
    match l.token.kind with
    | .leftParen =>
      Step.behind <| (parseBinary .sum i.tail).bind fun _ j _ =>
        (Step.expect j .rightParen .unclosedParen (utf8 "expected ')'")
          (openedHere l.token.span)).yield (fun t => .group l.token.span t.span) ()
    | .integer | .float | .char | .keywordTrue | .keywordFalse =>
      Step.take i () [.literal l.token]
    | .identifier =>
      Step.behind <| (parseIndex i.tail).after [.name l.token] (List.suffix_refl _)
    | .invalid => (parseInvalid l.token.span i.tail).behind
    | _ => noOperand i
termination_by 8 * i.size + 1
decreasing_by
  · exact measure_lt_of_token _h (List.suffix_refl _) (by decide)
  · exact measure_lt_of_token _h (List.suffix_refl _) (by decide)

/-- Reads the index behind a name, if there is one. -/
def parseIndex (i : Input) : Step Unit i :=
  match _h : i.ahead with
  | l :: _ =>
    if l.token.kind = .leftBracket then
      Step.behind <| (parseBinary .sum i.tail).bind fun _ j _ =>
        (Step.expect j .rightBracket .unclosedBracket (utf8 "expected ']'")
          (openedHere l.token.span)).yield (fun t => .index t.span) ()
    else ⟨i.lookEvents, some (), i.look, List.suffix_refl _⟩
  | [] => ⟨[], some (), i.look, List.suffix_refl _⟩
termination_by 8 * i.size + 0
decreasing_by exact measure_lt_of_token _h (List.suffix_refl _) (by decide)

end

/-- Reads an expression: products with additive operators between them. -/
def parseExpr (i : Input) : Step Unit i :=
  parseBinary .sum i

end ThreeAddress.Parse
