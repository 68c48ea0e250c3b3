import ThreeAddress.Proofs.Lexer.Separation
import ThreeAddress.Proofs.Parse.Completeness

/-!
# Printing expressions

An expression is printed as words with blanks between them. An operand that binds more loosely than
its place allows stands in parentheses: a sum under a product, and anything but a name, a literal or
an element under a unary operator. The right operand of a binary operator binds more tightly than
the operator itself, since operators of one level group to the left. Any subexpression may stand in
further pairs of parentheses; these are told by a number for every path through the expression.

The printed words are derived by the grammar, and the tree that they make is the expression with the
parentheses in it.

## Main definitions

* `Expr.words`, `Expr.print` : the words of an expression, and its source text.
* `Parse.Spells` : a syntax tree is an expression with parentheses in it.

## Main results

* `Expr.derives_words` : the printed words are derived with a tree that spells the expression.
-/

namespace ThreeAddress

open Parse (ExprTree IsExpr Level)

/-- The word of a mark or an operator. -/
def Word.mark (k : TokenKind) : Word :=
  ⟨k, k.fixedText?.getD []⟩

/-- The word of a name. -/
def Word.name (name : Bytes) : Word :=
  ⟨.identifier, name⟩

/-- Words in so many pairs of parentheses. -/
def Word.parens : Nat → List Word → List Word
  | 0, ws => ws
  | n + 1, ws => mark .leftParen :: parens n ws ++ [mark .rightParen]

namespace Parse

namespace Level

/-- How tightly a level binds. -/
def rank : Level → Nat
  | expr => 0
  | term => 1
  | unary => 2
  | factor => 3

/-- The next level that binds more tightly. -/
def tighter : Level → Level
  | expr => term
  | term => unary
  | _ => factor

end Level

/-- A path through an expression: the numbers of the operands on the way. -/
abbrev Path := List Nat

/-- How many further pairs of parentheses stand around the subexpression at a path. -/
abbrev Parens := Path → Nat

/-- The parentheses around and in an operand. -/
def Parens.operand (extra : Parens) (number : Nat) : Parens :=
  fun path => extra (number :: path)

/-- No further parentheses. -/
def Parens.none : Parens :=
  fun _ => 0

end Parse

namespace Expr

/-- The level of the outermost operator of an expression. -/
def level : Expr → Level
  | arithmetic op _ _ _ => if op = .plus ∨ op = .minus then .expr else .term
  | unary _ _ _ => .unary
  | _ => .factor

/-- The words of an expression in a place that allows operators of a level. -/
def words (extra : Parse.Parens) (place : Level) (e : Expr) : List Word :=
  Word.parens (extra [] + if e.level.rank < place.rank then 1 else 0) <|
    match e with
    | absent | temporary _ _ => []
    | identifier id => [.name id.name]
    | constant t _ => [t.word]
    | arithmetic op type l r =>
      let level := (arithmetic op type l r).level
      l.words (extra.operand 0) level ++ .mark op :: r.words (extra.operand 1) level.tighter
    | unary op _ x => .mark op :: x.words (extra.operand 0) .unary
    | index a i => .name a.name :: .mark .leftBracket :: i.words (extra.operand 0) .expr ++
        [.mark .rightBracket]

/-- The source text of an expression. -/
def print (extra : Parse.Parens) (e : Expr) : Bytes :=
  Word.spaced (e.words extra .expr)

/-- The words of the names and literals of an expression. -/
def leafWords : Expr → List Word
  | absent | temporary _ _ => []
  | identifier id => [.name id.name]
  | constant t _ => [t.word]
  | arithmetic _ _ l r => l.leafWords ++ r.leafWords
  | unary _ _ x => x.leafWords
  | index a i => .name a.name :: i.leafWords

/-- The operators and the literals of an expression are those of the language, and it holds no
temporary. -/
def IsSource : Expr → Prop
  | absent | temporary _ _ => False
  | identifier _ => True
  | constant t _ => t.kind.isLiteral = true
  | arithmetic op _ l r => op.isArithmetic = true ∧ l.IsSource ∧ r.IsSource
  | unary op _ x => isUnaryOperator op = true ∧ x.IsSource
  | index _ i => i.IsSource

end Expr

namespace Parse

/-- A syntax tree is an expression with parentheses in it. -/
inductive Spells : ExprTree → Expr → Prop where
  | name {t : Token} {id : Identifier} (ht : t.word = .name id.name) :
      Spells (.name t) (.identifier id)
  | literal {t token : Token} {type : DataType} (ht : t.word = token.word) :
      Spells (.literal t) (.constant token type)
  | group {opening closing : Token} {inner : ExprTree} {e : Expr} (h : Spells inner e) :
      Spells (.group opening inner closing) e
  | unary {op : Token} {inner : ExprTree} {type : DataType} {x : Expr} (h : Spells inner x) :
      Spells (.unary op inner) (.unary op.kind type x)
  | binary {op : Token} {left right : ExprTree} {type : DataType} {l r : Expr}
      (hl : Spells left l) (hr : Spells right r) :
      Spells (.binary op left right) (.arithmetic op.kind type l r)
  | index {array closing : Token} {place : ExprTree} {a : Identifier} {i : Expr}
      (harray : array.word = .name a.name) (h : Spells place i) :
      Spells (.index array place closing) (.index a i)

/-- A derivation at a level is one at every looser level. -/
theorem IsExpr.loosen {tight loose : Level} {ts : List Token} {tree : ExprTree}
    (h : IsExpr tight ts tree) (hrank : loose.rank ≤ tight.rank) : IsExpr loose ts tree := by
  cases tight <;> cases loose
  case expr.expr => exact h
  case term.expr => exact .ofTerm h
  case term.term => exact h
  case unary.expr => exact .ofTerm (.ofUnary h)
  case unary.term => exact .ofUnary h
  case unary.unary => exact h
  case factor.expr => exact .ofTerm (.ofUnary (.ofFactor h))
  case factor.term => exact .ofUnary (.ofFactor h)
  case factor.unary => exact .ofFactor h
  case factor.factor => exact h
  all_goals exact absurd hrank (by decide)

end Parse

open Parse (Spells)

/-- Words are derived at a level with a tree that spells an expression, whatever places their tokens
have. -/
def Word.Derives (ws : List Word) (level : Level) (e : Expr) : Prop :=
  ∀ ts : List Token, ts.map Token.word = ws → ∃ tree, IsExpr level ts tree ∧ Spells tree e

namespace Word.Derives

variable {ws : List Word} {tight loose : Level} {e : Expr}

theorem loosen (h : Derives ws tight e) (hrank : loose.rank ≤ tight.rank) :
    Derives ws loose e := fun ts hts => by
  obtain ⟨tree, htree, hspells⟩ := h ts hts
  exact ⟨tree, htree.loosen hrank, hspells⟩

theorem kind_of_word {t : Token} {k : TokenKind} (h : t.word = mark k) : t.kind = k :=
  congrArg Word.kind h

/-- Words in parentheses are derived everywhere, and without parentheses where their level is
allowed. -/
theorem parens (h : Derives ws tight e) {n : Nat} (hn : n = 0 → loose.rank ≤ tight.rank) :
    Derives (Word.parens n ws) loose e := by
  induction n generalizing loose with
  | zero => exact h.loosen (hn rfl)
  | succ n ih =>
    intro ts hts
    obtain ⟨opening, rest, rfl, hopening, hrest⟩ := List.map_eq_cons_iff.mp hts
    obtain ⟨us, last, rfl, hus, hlast⟩ := List.map_eq_append_iff.mp hrest
    obtain ⟨closing, rfl, hclosing⟩ := List.map_eq_singleton_iff.mp hlast
    have hinner : Derives (Word.parens n ws) .expr e := ih fun _ => Nat.zero_le _
    obtain ⟨tree, htree, hspells⟩ := hinner us hus
    have hgroup := IsExpr.group (kind_of_word hopening) htree (kind_of_word hclosing)
    exact ⟨_, hgroup.loosen (by cases loose <;> decide), .group hspells⟩

end Word.Derives

namespace Expr

open Word (Derives)

theorem derives_leaf {w : Word} {e : Expr} (h : ∀ t : Token, t.word = w →
    ∃ tree, IsExpr .factor [t] tree ∧ Spells tree e) : Derives [w] .factor e := by
  intro ts hts
  obtain ⟨t, rfl, ht⟩ := List.map_eq_singleton_iff.mp hts
  exact h t ht

theorem derives_arithmetic {op : TokenKind} {type : DataType} {l r : Expr}
    (hop : op.isArithmetic = true) {vs ws : List Word}
    (hl : Derives vs (arithmetic op type l r).level l)
    (hr : Derives ws (arithmetic op type l r).level.tighter r) :
    Derives (vs ++ .mark op :: ws) (arithmetic op type l r).level (arithmetic op type l r) := by
  intro ts hts
  obtain ⟨us, rest, rfl, hus, hrest⟩ := List.map_eq_append_iff.mp hts
  obtain ⟨t, us', rfl, ht, hus'⟩ := List.map_eq_cons_iff.mp hrest
  obtain ⟨left, hleft, hspellsLeft⟩ := hl us hus
  obtain ⟨right, hright, hspellsRight⟩ := hr us' hus'
  obtain rfl : t.kind = op := Derives.kind_of_word ht
  refine ⟨.binary t left right, ?_, .binary hspellsLeft hspellsRight⟩
  by_cases hsum : t.kind = .plus ∨ t.kind = .minus
  · simp only [level, if_pos hsum] at hleft hright ⊢
    exact .sum hleft hsum hright
  · simp only [level, if_neg hsum] at hleft hright ⊢
    refine .product hleft ?_ hright
    unfold TokenKind.isArithmetic at hop
    split at hop <;> simp_all

theorem derives_unary {op : TokenKind} {type : DataType} {x : Expr}
    (hop : isUnaryOperator op = true) {ws : List Word} (hx : Derives ws .unary x) :
    Derives (.mark op :: ws) .unary (unary op type x) := by
  intro ts hts
  obtain ⟨t, us, rfl, ht, hus⟩ := List.map_eq_cons_iff.mp hts
  obtain ⟨tree, htree, hspells⟩ := hx us hus
  obtain rfl : t.kind = op := Derives.kind_of_word ht
  refine ⟨.unary t tree, .unary ?_ htree, .unary hspells⟩
  simpa [isUnaryOperator] using hop

theorem derives_index {a : Identifier} {i : Expr} {ws : List Word} (hi : Derives ws .expr i) :
    Derives (.name a.name :: .mark .leftBracket :: ws ++ [Word.mark .rightBracket]) .factor
      (index a i) := by
  intro ts hts
  obtain ⟨array, rest, rfl, harray, hrest⟩ := List.map_eq_cons_iff.mp hts
  obtain ⟨opening, rest, rfl, hopening, hrest⟩ := List.map_eq_cons_iff.mp hrest
  obtain ⟨us, last, rfl, hus, hlast⟩ := List.map_eq_append_iff.mp hrest
  obtain ⟨closing, rfl, hclosing⟩ := List.map_eq_singleton_iff.mp hlast
  obtain ⟨tree, htree, hspells⟩ := hi us hus
  exact ⟨.index array tree closing, .index (congrArg Word.kind harray)
    (Derives.kind_of_word hopening) htree (Derives.kind_of_word hclosing), .index harray hspells⟩

/-- The printed words of an expression are derived. -/
theorem derives_words {e : Expr} (h : e.IsSource) (extra : Parse.Parens) (place : Level) :
    Derives (e.words extra place) place e := by
  have hn (e : Expr) (extra : Parse.Parens) (place : Level)
      (hzero : extra [] + (if e.level.rank < place.rank then 1 else 0) = 0) :
      place.rank ≤ e.level.rank := by
    split at hzero <;> omega
  induction e generalizing extra place with
  | absent => cases h
  | temporary => cases h
  | identifier id =>
    have hleaf : Derives [.name id.name] .factor (identifier id) := derives_leaf fun t ht =>
      ⟨.name t, .name (congrArg Word.kind ht), .name ht⟩
    exact hleaf.parens (hn (identifier id) extra place)
  | constant token type =>
    have hleaf : Derives [token.word] .factor (constant token type) := derives_leaf fun t ht => by
      have hkind : t.kind = token.kind := congrArg Word.kind ht
      have hliteral : t.kind.isLiteral = true := hkind ▸ h
      exact ⟨.literal t, .literal hliteral, .literal ht⟩
    exact hleaf.parens (hn (constant token type) extra place)
  | arithmetic op type l r ihl ihr =>
    obtain ⟨hop, hl, hr⟩ := h
    exact (derives_arithmetic hop (ihl hl _ _) (ihr hr _ _)).parens
      (hn (arithmetic op type l r) extra place)
  | unary op type x ih =>
    obtain ⟨hop, hx⟩ := h
    exact (derives_unary hop (ih hx _ _)).parens (hn (unary op type x) extra place)
  | index a i ih =>
    exact (derives_index (ih h _ _)).parens (hn (index a i) extra place)

/-! ### What the words are -/

/-- The marks and operators of expressions. -/
def marks : List TokenKind :=
  [.plus, .minus, .star, .slash, .tilde, .leftParen, .rightParen, .leftBracket, .rightBracket]

/-- A property of the marks and operators holds for all words of an expression if and only if it
holds for its names and literals. -/
theorem forall_words_iff {p : Word → Prop} (hmark : ∀ k ∈ marks, p (.mark k)) {e : Expr}
    (h : e.IsSource) (extra : Parse.Parens) (place : Level) :
    (∀ w ∈ e.words extra place, p w) ↔ ∀ w ∈ e.leafWords, p w := by
  have hparens (ws : List Word) (n : Nat) :
      (∀ w ∈ Word.parens n ws, p w) ↔ ∀ w ∈ ws, p w := by
    induction n with
    | zero => rfl
    | succ n ih =>
      have hopening : p (.mark .leftParen) := hmark _ (by decide)
      have hclosing : p (.mark .rightParen) := hmark _ (by decide)
      simp only [Word.parens, List.cons_append, List.forall_mem_cons, List.forall_mem_append,
        List.not_mem_nil, false_implies,
        implies_true, ih, hopening, hclosing, true_and, and_true]
  induction e generalizing extra place with
  | absent => cases h
  | temporary => cases h
  | identifier id => exact hparens _ _
  | constant t type => exact hparens _ _
  | arithmetic op type l r ihl ihr =>
    obtain ⟨hop, hl, hr⟩ := h
    have hword : p (.mark op) := by
      refine hmark op ?_
      unfold TokenKind.isArithmetic at hop
      split at hop
      all_goals first | decide | cases hop
    rw [words, hparens]
    simp only [leafWords, List.forall_mem_append, List.forall_mem_cons, ihl hl, ihr hr, hword,
      true_and]
  | unary op type x ih =>
    obtain ⟨hop, hx⟩ := h
    have hword : p (.mark op) := by
      refine hmark op ?_
      simp only [isUnaryOperator, Bool.or_eq_true, beq_iff_eq] at hop
      rcases hop with rfl | rfl <;> decide
    rw [words, hparens]
    simp only [leafWords, List.forall_mem_cons, ih hx, hword, true_and]
  | index a i ih =>
    have hopening : p (.mark .leftBracket) := hmark _ (by decide)
    have hclosing : p (.mark .rightBracket) := hmark _ (by decide)
    rw [words, hparens]
    simp only [leafWords, List.cons_append, List.forall_mem_append, List.forall_mem_cons,
      List.not_mem_nil,
      false_implies, implies_true, ih h, hopening, hclosing, true_and, and_true]

/-- The marks and operators of expressions are words. -/
theorem lexes_mark : ∀ k ∈ marks, (Word.mark k).Lexes [] := by
  decide

end Expr

end ThreeAddress
