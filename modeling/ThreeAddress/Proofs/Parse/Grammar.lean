import ThreeAddress.Parse.Statement

/-!
# The grammar of the source language

The grammar is stated on its own, as derivations of lists of tokens, with the tree that a
derivation makes:

```
program = { stmt } EOF
stmt    = "let" IDENT ":" type ";"  |  "{" { stmt } "}"  |  expr ";"
type    = scalar name  |  "string" "[" INT "]"  |  "[" INT "]" type
expr    = term { ("+" | "-") term }
term    = unary { ("*" | "/") unary }
unary   = ("-" | "~") unary  |  factor
factor  = "(" expr ")"  |  literal  |  IDENT [ "[" expr "]" ]
```

A repetition at one level of expressions is written as a rule with the level itself on its left, so
that operators of one level group to the left.

## Main definitions

* `TypeTree`, `ExprTree`, `Body` : what derivations make.
* `IsType`, `IsExpr`, `IsBody`, `IsProgram` : the derivations.
* `TypeTree.events`, `ExprTree.events`, `Body.events` : the events of reading a tree, in order.
-/

namespace ThreeAddress.Parse

/-! ### Trees -/

/-- The tree of a type. -/
inductive TypeTree where
  /-- A scalar. -/
  | scalar (type : DataType)
  /-- A byte string of a size. -/
  | string (size : Token)
  /-- An array of a size. -/
  | array (size : Token) (elem : TypeTree)
deriving Repr, DecidableEq

/-- The tree of an expression. -/
inductive ExprTree where
  /-- A literal. -/
  | literal (token : Token)
  /-- A name. -/
  | name (token : Token)
  /-- A name with an index. -/
  | index (array : Token) (place : ExprTree) (closing : Token)
  /-- An expression in parentheses. -/
  | group (opening : Token) (inner : ExprTree) (closing : Token)
  /-- A unary operator. -/
  | unary (op : Token) (inner : ExprTree)
  /-- A binary operator. -/
  | binary (op : Token) (left right : ExprTree)
deriving Repr, DecidableEq

/-- The tree of a sequence of statements: its first statement and the others. -/
inductive Body where
  /-- No statement. -/
  | done
  /-- A declaration. -/
  | declare (name : Token) (type : TypeTree) (next : Body)
  /-- A block. -/
  | block (inner next : Body)
  /-- An expression statement. -/
  | expression (e : ExprTree) (next : Body)
deriving Repr, DecidableEq

/-! ### Derivations -/

/-- The tokens of a type. -/
inductive IsType : List Token → TypeTree → Prop where
  | scalar {name : Token} {type : DataType} (hname : name.kind = .identifier)
      (htype : DataType.ofName? name.text = some type) : IsType [name] (.scalar type)
  | string {name opening size closing : Token} (hname : name.kind = .identifier)
      (htext : name.text = utf8 "string") (hopening : opening.kind = .leftBracket)
      (hsize : size.kind = .integer) (hclosing : closing.kind = .rightBracket) :
      IsType [name, opening, size, closing] (.string size)
  | array {opening size closing : Token} {ts : List Token} {elem : TypeTree}
      (hopening : opening.kind = .leftBracket) (hsize : size.kind = .integer)
      (hclosing : closing.kind = .rightBracket) (helem : IsType ts elem) :
      IsType (opening :: size :: closing :: ts) (.array size elem)

/-- The levels of the expression grammar, the loosest operators first. -/
inductive Level where
  /-- Terms with additive operators between them. -/
  | expr
  /-- Unary expressions with multiplicative operators between them. -/
  | term
  /-- Factors with unary operators in front. -/
  | unary
  /-- Parentheses, literals and names. -/
  | factor
deriving Repr, DecidableEq

/-- The tokens of an expression at a level. -/
inductive IsExpr : Level → List Token → ExprTree → Prop where
  | ofTerm {ts : List Token} {e : ExprTree} (h : IsExpr .term ts e) : IsExpr .expr ts e
  | sum {ts us : List Token} {op : Token} {left right : ExprTree} (hleft : IsExpr .expr ts left)
      (hop : op.kind = .plus ∨ op.kind = .minus) (hright : IsExpr .term us right) :
      IsExpr .expr (ts ++ op :: us) (.binary op left right)
  | ofUnary {ts : List Token} {e : ExprTree} (h : IsExpr .unary ts e) : IsExpr .term ts e
  | product {ts us : List Token} {op : Token} {left right : ExprTree}
      (hleft : IsExpr .term ts left) (hop : op.kind = .star ∨ op.kind = .slash)
      (hright : IsExpr .unary us right) : IsExpr .term (ts ++ op :: us) (.binary op left right)
  | unary {ts : List Token} {op : Token} {e : ExprTree} (hop : op.kind = .minus ∨ op.kind = .tilde)
      (h : IsExpr .unary ts e) : IsExpr .unary (op :: ts) (.unary op e)
  | ofFactor {ts : List Token} {e : ExprTree} (h : IsExpr .factor ts e) : IsExpr .unary ts e
  | group {ts : List Token} {opening closing : Token} {e : ExprTree}
      (hopening : opening.kind = .leftParen) (h : IsExpr .expr ts e)
      (hclosing : closing.kind = .rightParen) :
      IsExpr .factor (opening :: ts ++ [closing]) (.group opening e closing)
  | literal {t : Token} (ht : t.kind.isLiteral = true) : IsExpr .factor [t] (.literal t)
  | name {t : Token} (ht : t.kind = .identifier) : IsExpr .factor [t] (.name t)
  | index {ts : List Token} {array opening closing : Token} {e : ExprTree}
      (harray : array.kind = .identifier) (hopening : opening.kind = .leftBracket)
      (h : IsExpr .expr ts e) (hclosing : closing.kind = .rightBracket) :
      IsExpr .factor (array :: opening :: ts ++ [closing]) (.index array e closing)

/-- The tokens of a sequence of statements. -/
inductive IsBody : List Token → Body → Prop where
  | done : IsBody [] .done
  | declare {key name colon semicolon : Token} {ts us : List Token} {type : TypeTree}
      {next : Body} (hkey : key.kind = .keywordLet) (hname : name.kind = .identifier)
      (hcolon : colon.kind = .colon) (htype : IsType ts type)
      (hsemicolon : semicolon.kind = .semicolon) (hnext : IsBody us next) :
      IsBody (key :: name :: colon :: ts ++ semicolon :: us) (.declare name type next)
  | block {opening closing : Token} {ts us : List Token} {inner next : Body}
      (hopening : opening.kind = .leftBrace) (hinner : IsBody ts inner)
      (hclosing : closing.kind = .rightBrace) (hnext : IsBody us next) :
      IsBody (opening :: ts ++ closing :: us) (.block inner next)
  | expression {semicolon : Token} {ts us : List Token} {e : ExprTree} {next : Body}
      (he : IsExpr .expr ts e) (hsemicolon : semicolon.kind = .semicolon)
      (hnext : IsBody us next) : IsBody (ts ++ semicolon :: us) (.expression e next)

/-- The tokens of a whole source, with the token that marks its end. -/
def IsProgram (ts : List Token) (b : Body) : Prop :=
  ∃ us stop, ts = us ++ [stop] ∧ stop.kind = .endOfFile ∧ IsBody us b

/-! ### The events of a tree -/

/-- The events of a size: a complaint if it is out of range. -/
def sizeEvents (size : Token) : List Event :=
  match sizeValue? size.text with
  | some _ => []
  | none => [.complain (badSize size)]

namespace TypeTree

/-- The type that a tree stands for; a size out of range counts as zero. -/
def denote : TypeTree → DataType
  | scalar type => type
  | string size => .string ((sizeValue? size.text).getD 0)
  | array size elem => .array elem.denote ((sizeValue? size.text).getD 0)

/-- The events of a type. -/
def events : TypeTree → List Event
  | scalar _ => []
  | string size => sizeEvents size
  | array size elem => sizeEvents size ++ elem.events

end TypeTree

/-- The events of an expression: operands in front of their operator. -/
def ExprTree.events : ExprTree → List Event
  | literal t => [.literal t]
  | name t => [.name t]
  | index array place closing => .name array :: place.events ++ [.index closing.span]
  | group opening inner closing => inner.events ++ [.group opening.span closing.span]
  | unary op inner => inner.events ++ [.unary op]
  | binary op left right => left.events ++ (right.events ++ [.binary op])

/-- The events of a sequence of statements. -/
def Body.events : Body → List Event
  | done => []
  | declare name type next => type.events ++ .declare name type.denote :: next.events
  | block inner next => .openBlock :: inner.events ++ .closeBlock :: next.events
  | expression e next => e.events ++ .finish :: next.events

end ThreeAddress.Parse
