import ThreeAddress.Parse.Statement

/-!
# One equation for each alternative of the grammar

The parsing functions look at the next token and go on accordingly. Each equation here says what a
function does for one kind of next token; no later proof opens the functions themselves.
-/

namespace ThreeAddress.Parse

variable {i : Input} {l : Lexeme} {rest : List Lexeme}

namespace Input

theorem kind_of_ahead (h : i.ahead = l :: rest) : i.kind = l.token.kind := by
  rw [kind, h]

theorem kind_of_nil (h : i.ahead = []) : i.kind = .endOfFile := by
  rw [kind, h]

theorem lookEvents_of_nil (h : i.ahead = []) : i.lookEvents = [] := by
  rw [lookEvents, h]

end Input

/-! ### Expressions -/

theorem parseBinaryTail_operator (p : Precedence) (h : i.ahead = l :: rest)
    (hk : p.isOperator l.token.kind = true) :
    parseBinaryTail p i = (((parseNext p i.tail).yield (fun _ => .binary l.token) ()).bind
      fun _ j _ => parseBinaryTail p j).behind := by
  cases i
  obtain rfl := h
  rw [parseBinaryTail]
  exact if_pos hk

theorem parseBinaryTail_end (p : Precedence) (hk : p.isOperator i.kind = false) :
    parseBinaryTail p i = ⟨i.lookEvents, some (), i.look, List.suffix_refl _⟩ := by
  rw [parseBinaryTail]
  split
  · rename_i l rest h
    rw [Input.kind_of_ahead h] at hk
    rw [if_neg (by simp [hk])]
  · rename_i h
    rw [Input.lookEvents_of_nil h]

theorem parseUnary_operator (h : i.ahead = l :: rest)
    (hk : l.token.kind = .minus ∨ l.token.kind = .tilde) :
    parseUnary i = ((parseUnary i.tail).yield (fun _ => .unary l.token) ()).behind := by
  cases i
  obtain rfl := h
  rw [parseUnary]
  exact if_pos hk

theorem parseUnary_operand (hk : ¬(i.kind = .minus ∨ i.kind = .tilde)) :
    parseUnary i = parseOperand i := by
  rw [parseUnary]
  split
  · rename_i l rest h
    rw [Input.kind_of_ahead h] at hk
    rw [if_neg hk]
  · rfl

theorem parseOperand_group (h : i.ahead = l :: rest) (hk : l.token.kind = .leftParen) :
    parseOperand i = ((parseExpr i.tail).bind fun _ j _ =>
      (Step.expect j .rightParen .unclosedParen (utf8 "expected ')'")
        (openedHere l.token.span)).yield (fun t => .group l.token.span t.span) ()).behind := by
  cases i
  obtain rfl := h
  rw [parseOperand]
  simp only [hk]
  rfl

theorem parseOperand_literal (h : i.ahead = l :: rest) (hk : l.token.kind.isLiteral = true) :
    parseOperand i = Step.take i () [.literal l.token] := by
  cases i
  obtain rfl := h
  rw [parseOperand]
  dsimp only
  revert hk
  cases hkind : l.token.kind <;> simp [TokenKind.isLiteral]

theorem parseOperand_name (h : i.ahead = l :: rest) (hk : l.token.kind = .identifier) :
    parseOperand i =
      ((parseIndex i.tail).after [.name l.token] (List.suffix_refl _)).behind := by
  cases i
  obtain rfl := h
  rw [parseOperand]
  simp only [hk]

theorem parseOperand_invalid (h : i.ahead = l :: rest) (hk : l.token.kind = .invalid) :
    parseOperand i = (parseInvalid l.token.span i.tail).behind := by
  cases i
  obtain rfl := h
  rw [parseOperand]
  simp only [hk]

theorem parseInvalid_more (span : Span) (h : i.ahead = l :: rest)
    (hk : l.token.kind = .invalid) :
    parseInvalid span i = (parseInvalid (span.cover l.token.span) i.tail).behind := by
  cases i
  obtain rfl := h
  rw [parseInvalid]
  exact if_pos hk

theorem parseInvalid_end (span : Span) (hk : i.kind ≠ .invalid) :
    parseInvalid span i =
      ⟨i.lookEvents ++ [Event.invalid span], some (), i.look, List.suffix_refl _⟩ := by
  rw [parseInvalid]
  split
  · rename_i l rest h
    rw [Input.kind_of_ahead h] at hk
    rw [if_neg hk]
  · rename_i h
    simp only [Input.lookEvents_of_nil h, List.nil_append]

/-- The kinds that an operand starts with. -/
def startsOperand (k : TokenKind) : Bool :=
  k == .leftParen || k.isLiteral || k == .identifier || k == .invalid

theorem startsOperand_eq_false {k : TokenKind} (hparen : k ≠ .leftParen) (hint : k ≠ .integer)
    (hfloat : k ≠ .float) (hchar : k ≠ .char) (htrue : k ≠ .keywordTrue)
    (hfalse : k ≠ .keywordFalse) (hname : k ≠ .identifier) (hinvalid : k ≠ .invalid) :
    startsOperand k = false := by
  cases k <;> first | rfl | contradiction

theorem parseOperand_none (hk : startsOperand i.kind = false) : parseOperand i = noOperand i := by
  rw [parseOperand]
  split
  · rfl
  · rename_i l rest h
    rw [Input.kind_of_ahead h] at hk
    revert hk
    cases hkind : l.token.kind <;> simp [startsOperand, TokenKind.isLiteral]

theorem parseIndex_open (h : i.ahead = l :: rest) (hk : l.token.kind = .leftBracket) :
    parseIndex i = ((parseExpr i.tail).bind fun _ j _ =>
      (Step.expect j .rightBracket .unclosedBracket (utf8 "expected ']'")
        (openedHere l.token.span)).yield (fun t => .index t.span) ()).behind := by
  cases i
  obtain rfl := h
  rw [parseIndex]
  exact if_pos hk

theorem parseIndex_end (hk : i.kind ≠ .leftBracket) :
    parseIndex i = ⟨i.lookEvents, some (), i.look, List.suffix_refl _⟩ := by
  rw [parseIndex]
  split
  · rename_i l rest h
    rw [Input.kind_of_ahead h] at hk
    rw [if_neg hk]
  · rename_i h
    rw [Input.lookEvents_of_nil h]

/-- Induction along the reading of an expression, with one case for each alternative of each level
of the grammar. -/
theorem parseExpr_induction
    {binary tail next : Precedence → Input → Prop} {unary operand index : Input → Prop}
    (level : ∀ (p : Precedence) (i : Input), next p i →
      (∀ j : Input, j.ahead <:+ i.ahead → tail p j) → binary p i)
    (operator : ∀ (p : Precedence) (i : Input) l rest, i.ahead = l :: rest →
      p.isOperator l.token.kind = true → next p i.tail →
      (∀ j : Input, j.ahead <:+ i.tail.ahead → tail p j) → tail p i)
    (stop : ∀ (p : Precedence) (i : Input), p.isOperator i.kind = false → tail p i)
    (product : ∀ i : Input, binary .product i → next .sum i)
    (factor : ∀ i : Input, unary i → next .product i)
    (unaryOperator : ∀ (i : Input) l rest, i.ahead = l :: rest →
      (l.token.kind = .minus ∨ l.token.kind = .tilde) → unary i.tail → unary i)
    (unaryOperand : ∀ i : Input, ¬(i.kind = .minus ∨ i.kind = .tilde) → operand i → unary i)
    (none : ∀ i : Input, startsOperand i.kind = false → operand i)
    (group : ∀ (i : Input) l rest, i.ahead = l :: rest → l.token.kind = .leftParen →
      binary .sum i.tail → operand i)
    (literal : ∀ (i : Input) l rest, i.ahead = l :: rest → l.token.kind.isLiteral = true →
      operand i)
    (name : ∀ (i : Input) l rest, i.ahead = l :: rest → l.token.kind = .identifier →
      index i.tail → operand i)
    (invalid : ∀ (i : Input) l rest, i.ahead = l :: rest → l.token.kind = .invalid → operand i)
    (indexOpen : ∀ (i : Input) l rest, i.ahead = l :: rest → l.token.kind = .leftBracket →
      binary .sum i.tail → index i)
    (indexEnd : ∀ i : Input, i.kind ≠ .leftBracket → index i) :
    (∀ p i, binary p i) ∧ (∀ p i, tail p i) ∧ (∀ p i, next p i) ∧ (∀ i, unary i) ∧
      (∀ i, operand i) ∧ ∀ i, index i := by
  refine parseBinary.mutual_induct binary tail next unary operand index
    level operator ?_ ?_ product factor unaryOperator ?_ ?_ ?_ group
    ?_ ?_ ?_ ?_ ?_ name invalid ?_ indexOpen ?_ ?_
  -- the ends of a tail, at another token and at the end of the source
  · exact fun p i l rest h hk => stop p i (by simpa [Input.kind_of_ahead h] using hk)
  · exact fun p i h => stop p i (by simp [Input.kind_of_nil h])
  · exact fun i l rest h hk => unaryOperand i (by rwa [Input.kind_of_ahead h])
  · exact fun i h => unaryOperand i (by simp [Input.kind_of_nil h])
  · exact fun i h => none i (by rw [Input.kind_of_nil h]; rfl)
  -- the five kinds of literals
  · exact fun i l rest h hk => literal i l rest h (by rw [hk]; rfl)
  · exact fun i l rest h hk => literal i l rest h (by rw [hk]; rfl)
  · exact fun i l rest h hk => literal i l rest h (by rw [hk]; rfl)
  · exact fun i l rest h hk => literal i l rest h (by rw [hk]; rfl)
  · exact fun i l rest h hk => literal i l rest h (by rw [hk]; rfl)
  · intro i l rest h hparen hint hfloat hchar htrue hfalse hname hinvalid
    refine none i ?_
    rw [Input.kind_of_ahead h]
    exact startsOperand_eq_false hparen hint hfloat hchar htrue hfalse hname hinvalid
  · exact fun i l rest h hk => indexEnd i (by rwa [Input.kind_of_ahead h])
  · exact fun i h => indexEnd i (by simp [Input.kind_of_nil h])

/-! ### Types -/

theorem parseType_array (h : i.ahead = l :: rest) (hk : l.token.kind = .leftBracket) :
    parseType i = ((parseSize i.tail).bind fun n j _ =>
      (parseType j).bind fun elem _ _ => Step.pure (.array elem n)).behind := by
  cases i
  obtain rfl := h
  rw [parseType]
  simp only [hk]

theorem parseType_scalar (h : i.ahead = l :: rest) (hk : l.token.kind = .identifier)
    {t : DataType} (ht : DataType.ofName? l.token.text = some t) :
    parseType i = Step.take i t [] := by
  cases i
  obtain rfl := h
  rw [parseType]
  simp only [hk, ht]

theorem parseType_string (h : i.ahead = l :: rest) (hk : l.token.kind = .identifier)
    (ht : l.token.text = utf8 "string") :
    parseType i = ((Step.expect i.tail .leftBracket .expectType
      (utf8 "expected '[' after 'string'") []).bind fun _ j _ =>
        (parseSize j).bind fun n _ _ => Step.pure (.string n)).behind := by
  have hnone : DataType.ofName? (utf8 "string") = none := by decide
  cases i
  obtain rfl := h
  rw [parseType]
  simp only [hk, ht, hnone, if_true]

/-- The tokens that a type starts with. -/
def startsType (t : Token) : Bool :=
  t.kind == .leftBracket || (t.kind == .identifier &&
    ((DataType.ofName? t.text).isSome || t.text == utf8 "string"))

theorem parseType_none (hk : startsType i.head = false) : parseType i = noType i := by
  rw [parseType]
  split
  · rfl
  · rename_i l rest h
    have hhead : i.head = l.token := by rw [Input.head, h]
    rw [hhead] at hk
    simp only [startsType, Bool.or_eq_false_iff, Bool.and_eq_false_iff, beq_eq_false_iff_ne,
      Option.isSome_eq_false_iff, Option.isNone_iff_eq_none] at hk
    obtain ⟨hbracket, hname⟩ := hk
    split
    · rename_i hkind
      exact absurd hkind hbracket
    · rename_i hkind
      obtain ⟨hscalar, hstring⟩ := hname.resolve_left (by simp [hkind])
      rw [hscalar]
      exact if_neg hstring
    · rfl

/-- Induction along the reading of a type, with one case for each alternative of the grammar. -/
@[elab_as_elim]
theorem parseType_induction {motive : Input → Prop}
    (none : ∀ i : Input, startsType i.head = false → motive i)
    (array : ∀ (i : Input) l rest, i.ahead = l :: rest → l.token.kind = .leftBracket →
      (∀ j : Input, j.ahead <:+ i.tail.ahead → motive j) → motive i)
    (scalar : ∀ (i : Input) l rest t, i.ahead = l :: rest → l.token.kind = .identifier →
      DataType.ofName? l.token.text = some t → motive i)
    (string : ∀ (i : Input) l rest, i.ahead = l :: rest → l.token.kind = .identifier →
      l.token.text = utf8 "string" → motive i)
    (i : Input) : motive i := by
  induction i using parseType.induct with
  | case1 i h => exact none i (by rw [Input.head, h]; rfl)
  | case2 i l rest h hk ih => exact array i l rest h hk ih
  | case3 i l rest h hk t ht => exact scalar i l rest t h hk ht
  | case4 i l rest h hk _ ht => exact string i l rest h hk ht
  | case5 i l rest h hk hscalar hstring =>
    exact none i (by rw [Input.head, h]; simp [startsType, hk, hscalar, hstring])
  | case6 i l rest h hbracket hname =>
    refine none i ?_
    rw [Input.head, h]
    simp only [startsType, Bool.or_eq_false_iff, beq_eq_false_iff_ne]
    exact ⟨hbracket, by simp [beq_eq_false_iff_ne.mpr hname]⟩

/-! ### Statements -/

theorem skipStatement_semicolon (h : i.ahead = l :: rest) (hk : l.token.kind = .semicolon) :
    skipStatement i = Step.take i () [] := by
  cases i
  obtain rfl := h
  rw [skipStatement]
  simp only [hk]

theorem skipStatement_end (hk : i.kind = .rightBrace ∨ i.ahead = []) :
    skipStatement i = ⟨i.lookEvents, some (), i.look, List.suffix_refl _⟩ := by
  rw [skipStatement]
  split
  · rename_i h
    rw [Input.lookEvents_of_nil h]
  · rename_i l rest h
    have hbrace := hk.resolve_right (by simp [h])
    rw [Input.kind_of_ahead h] at hbrace
    simp only [hbrace]

theorem skipStatement_more (h : i.ahead = l :: rest) (hs : l.token.kind ≠ .semicolon)
    (hb : l.token.kind ≠ .rightBrace) : skipStatement i = (skipStatement i.tail).behind := by
  cases i
  obtain rfl := h
  rw [skipStatement]
  dsimp only
  split
  · rename_i hkind
    exact absurd hkind hb
  · rename_i hkind
    exact absurd hkind hs
  · rfl

/-- Induction along the tokens that a statement skips. -/
@[elab_as_elim]
theorem skipStatement_induction {motive : Input → Prop}
    (stop : ∀ i : Input, i.kind = .rightBrace ∨ i.ahead = [] → motive i)
    (semicolon : ∀ (i : Input) l rest, i.ahead = l :: rest → l.token.kind = .semicolon → motive i)
    (more : ∀ (i : Input) l rest, i.ahead = l :: rest → l.token.kind ≠ .semicolon →
      l.token.kind ≠ .rightBrace → motive i.tail → motive i)
    (i : Input) : motive i := by
  induction i using skipStatement.induct with
  | case1 i h => exact stop i (.inr h)
  | case2 i l rest h hk => exact stop i (.inl ((Input.kind_of_ahead h).trans hk))
  | case3 i l rest h hk => exact semicolon i l rest h hk
  | case4 i l rest h hb hs ih => exact more i l rest h hs hb ih

theorem parseStmt_nil (h : i.ahead = []) : (parseStmt i).toStep = Step.pure () := by
  cases i
  obtain rfl := h
  rw [parseStmt]

theorem parseStmt_let (h : i.ahead = l :: rest) (hk : l.token.kind = .keywordLet) :
    (parseStmt i).toStep = (parseLet i.tail).behind := by
  cases i
  obtain rfl := h
  rw [parseStmt]
  simp only [hk, if_true]

theorem parseStmt_block (h : i.ahead = l :: rest) (hk : l.token.kind = .leftBrace) :
    (parseStmt i).toStep = ((parseBlock l.token.span i.tail).after [.openBlock]
      (List.suffix_refl _)).behind := by
  cases i
  obtain rfl := h
  rw [parseStmt]
  simp only [hk, reduceCtorEq, if_false, if_true]

theorem parseStmt_brace (h : i.ahead = l :: rest) (hk : l.token.kind = .rightBrace) :
    (parseStmt i).toStep = strayBrace i := by
  cases i
  obtain rfl := h
  rw [parseStmt]
  simp only [hk, reduceCtorEq, if_false, dite_true]

/-- The kinds that a statement other than an expression starts with. -/
def startsStatement (k : TokenKind) : Bool :=
  k == .keywordLet || k == .leftBrace || k == .rightBrace

theorem parseStmt_expr (h : i.ahead = l :: rest) (hk : startsStatement l.token.kind = false) :
    (parseStmt i).toStep = parseExprStmt i := by
  simp only [startsStatement, Bool.or_eq_false_iff, beq_eq_false_iff_ne] at hk
  cases i
  obtain rfl := h
  rw [parseStmt]
  simp only [hk.1.1, hk.1.2, hk.2, if_false, dite_false]

theorem parseBlock_nil (opening : Span) (h : i.ahead = []) :
    parseBlock opening i = unclosedBlock opening i := by
  cases i
  obtain rfl := h
  rw [parseBlock]

theorem parseBlock_close (opening : Span) (h : i.ahead = l :: rest)
    (hk : l.token.kind = .rightBrace) :
    parseBlock opening i = Step.take i () [.closeBlock] := by
  cases i
  obtain rfl := h
  rw [parseBlock]
  exact if_pos hk

theorem parseBlock_more (opening : Span) (h : i.ahead = l :: rest)
    (hk : l.token.kind ≠ .rightBrace) :
    parseBlock opening i =
      (parseBlock opening (parseStmt i).rest).after (parseStmt i).events (parseStmt i).suffix := by
  cases i
  obtain rfl := h
  rw [parseBlock]
  exact if_neg hk

/-- Induction along the reading of statements and blocks, with one case for each alternative of the
grammar. -/
theorem parseStmt_induction {stmt : Input → Prop} {block : Span → Input → Prop}
    (nil : ∀ i : Input, i.ahead = [] → stmt i)
    (declaration : ∀ (i : Input) l rest, i.ahead = l :: rest → l.token.kind = .keywordLet → stmt i)
    (inner : ∀ (i : Input) l rest, i.ahead = l :: rest → l.token.kind = .leftBrace →
      block l.token.span i.tail → stmt i)
    (brace : ∀ (i : Input) l rest, i.ahead = l :: rest → l.token.kind = .rightBrace → stmt i)
    (expr : ∀ (i : Input) l rest, i.ahead = l :: rest → startsStatement l.token.kind = false →
      stmt i)
    (unclosed : ∀ opening (i : Input), i.ahead = [] → block opening i)
    (close : ∀ opening (i : Input) l rest, i.ahead = l :: rest → l.token.kind = .rightBrace →
      block opening i)
    (more : ∀ opening (i : Input) l rest, i.ahead = l :: rest → l.token.kind ≠ .rightBrace →
      stmt i → block opening (parseStmt i).rest → block opening i) :
    (∀ i, stmt i) ∧ ∀ opening i, block opening i := by
  refine parseStmt.mutual_induct stmt block nil declaration
    (fun i l rest h _ => inner i l rest h) (fun i l rest h _ _ => brace i l rest h)
    (fun i l rest h hlet hopen hclose => ?_) unclosed close more
  exact expr i l rest h (by simp [startsStatement, hlet, hopen, hclose])

theorem parseBlock_next {j : Input} (opening : Span) (h : i.ahead = l :: rest)
    (hk : l.token.kind ≠ .rightBrace) (hj : (parseStmt i).rest = j) :
    (parseBlock opening i).events = (parseStmt i).events ++ (parseBlock opening j).events ∧
      (parseBlock opening i).rest = (parseBlock opening j).rest := by
  subst hj
  rw [parseBlock_more opening h hk]
  exact ⟨rfl, rfl⟩

theorem parseProgram_nil (h : i.ahead = []) : parseProgram i = [] := by
  cases i
  obtain rfl := h
  rw [parseProgram]

theorem parseProgram_more (h : i.ahead = l :: rest) :
    parseProgram i = (parseStmt i).events ++ parseProgram (parseStmt i).rest := by
  cases i
  obtain rfl := h
  rw [parseProgram]

end ThreeAddress.Parse
