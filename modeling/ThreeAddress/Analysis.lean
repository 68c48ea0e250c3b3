import ThreeAddress.Code.Generator
import ThreeAddress.Diagnostic.Report
import ThreeAddress.Environment
import ThreeAddress.Parse.Statement
import ThreeAddress.Text.FloatRange

/-!
# Analysis

The events of parsing are run against an environment and a generator: names are resolved, operands
are typed, and every expression statement without an error is lowered at once. An operand with an
error is carried along without an expression, so that one mistake is told once and nothing is
emitted for its statement.

## Main definitions

* `Report` : a diagnostic with the phase that found it.
* `Analysis.State`, `Analysis.step` : one event at a time.
* `Analysis.run` : analyses a whole source.
* `Outcome.deliver` : hands the reports of an analysis to a bag.
-/

namespace ThreeAddress

/-- The phase that found a diagnostic. -/
inductive Origin where
  /-- Lexing. -/
  | lexer
  /-- Parsing and analysis. -/
  | parser
deriving Repr, DecidableEq

/-- A diagnostic with the phase that found it. -/
structure Report where
  /-- The phase. -/
  origin : Origin
  /-- The diagnostic. -/
  diagnostic : Diagnostic
deriving Repr, DecidableEq

/-- The failure that ended an analysis early. -/
structure StatementFailure where
  /-- The statement that could not be lowered. -/
  span : Span
  /-- Why. -/
  cause : LowerError
deriving Repr, DecidableEq

/-- The wording of an early end. -/
def StatementFailure.message (f : StatementFailure) : Bytes :=
  utf8 "lower statement at " ++ f.span.render ++ utf8 ": " ++ f.cause.message

/-- What an analysis counts. -/
structure Counts where
  /-- Accepted declarations. -/
  declarations : Nat := 0
  /-- Lowered expression statements. -/
  statements : Nat := 0
  /-- The largest frame of any moment. -/
  maxFrame : UInt64 := 0
deriving Repr, DecidableEq, Inhabited

namespace Analysis

/-- A parsed operand. Without an expression it stands for something already complained about. -/
structure Operand where
  /-- The expression, if nothing is wrong with it. -/
  expr : Option Expr
  /-- Where it stands. -/
  span : Span
deriving Repr, DecidableEq

/-- How far an analysis is. -/
inductive Phase where
  /-- Events are being run. -/
  | running
  /-- Emission has failed; only blocks that close at once are still closed. -/
  | failing (failure : StatementFailure)
  /-- Nothing more is done. -/
  | stopped (failure : StatementFailure)
deriving Repr, DecidableEq

/-- The bound on errors to report. -/
structure Limits where
  /-- The largest number of errors to report; 0 for no bound. -/
  maxErrors : UInt64 := 0
  /-- How many errors there were before. -/
  currentErrors : UInt64 := 0
deriving Repr, DecidableEq, Inhabited

/-- The state of an analysis. -/
structure State where
  /-- The names in scope. -/
  env : Environment
  /-- The operands read, the latest first. -/
  operands : List Operand := []
  /-- Where code goes. -/
  generator : Generator
  /-- What was reported, the latest first. -/
  reports : List Report := []
  /-- How many errors there were, reported or not. -/
  errors : UInt64
  /-- The counts so far. -/
  counts : Counts := {}
  /-- How far the analysis is. -/
  phase : Phase := .running
deriving Repr, DecidableEq

namespace State

/-- The state in front of a source: one scope is open. -/
def start (limits : Limits) (g : Generator) : State where
  env := ({} : Environment).push
  generator := g
  errors := limits.currentErrors

/-- Tells a diagnostic of the analysis. Errors above the bound are counted and not told. -/
def report (limits : Limits) (s : State) (d : Diagnostic) : State :=
  let errors := if d.severity = .error then s.errors + 1 else s.errors
  if d.severity = .error ∧ limits.maxErrors ≠ 0 ∧ limits.maxErrors < errors then
    { s with errors := errors }
  else { s with errors := errors, reports := ⟨.parser, d⟩ :: s.reports }

/-- Tells what lexing found about a token. -/
def tellLexeme (s : State) (l : Lexeme) : State :=
  { s with reports := (l.diagnostics.map fun d => ⟨.lexer, d⟩).reverse ++ s.reports }

/-- Adds an operand. -/
def pushOperand (s : State) (e : Option Expr) (span : Span) : State :=
  { s with operands := ⟨e, span⟩ :: s.operands }

/-- Declares a name. A second declaration in one block is warned about and takes its place. -/
def declare (limits : Limits) (s : State) (name : Token) (type : DataType) : State :=
  let s := match s.env.local? name.text with
    | some previous =>
      s.report limits ⟨.warning, .redeclared, name.span,
        utf8 "'" ++ name.text ++ utf8 "' is already declared in this block as "
          ++ previous.type.render, []⟩
    | none => s
  match s.env.declare name.text type with
  | .error e => s.report limits (.ofError .frameTooLarge name.span e.message)
  | .ok (_, env) =>
    { s with
      env := env
      counts := { s.counts with
        declarations := s.counts.declarations + 1
        maxFrame := if s.counts.maxFrame ≤ env.frame then env.frame else s.counts.maxFrame } }

/-- Resolves a name. -/
def name (limits : Limits) (s : State) (t : Token) : State :=
  match s.env.get? t.text with
  | some id => s.pushOperand (some (.identifier id)) t.span
  | none =>
    (s.report limits (.ofError .undeclared t.span
      (utf8 "undeclared identifier '" ++ t.text ++ utf8 "'"))).pushOperand none t.span

/-- The largest integer literal that has 32 bits. -/
def maxInt32 : Int := 0x7FFFFFFF

/-- Types a literal. An integer has 32 bits if it fits, else 64. -/
def literal (limits : Limits) (s : State) (t : Token) : State :=
  match t.kind with
  | .integer =>
    match Integer.readInt64 .announced t.text with
    | .ok v =>
      s.pushOperand (some (.constant t (if v ≤ maxInt32 then .int32 else .int64))) t.span
    | .error _ =>
      (s.report limits (.ofError .badNumber t.span
        (utf8 "integer literal " ++ t.text ++ utf8 " overflows i64"))).pushOperand none t.span
  | .float =>
    if FloatRange.inRange t.text then s.pushOperand (some (.constant t .float64)) t.span
    else
      (s.report limits (.ofError .badNumber t.span
        (utf8 "float literal " ++ t.text ++ utf8 " is out of range"))).pushOperand none t.span
  | .char => s.pushOperand (some (.constant t .char)) t.span
  | _ => s.pushOperand (some (.constant t .bool)) t.span

/-- The code of a refused node. -/
def buildCode : BuildError → Code
  | .coercion _ _ _ | .unaryCoercion _ _ => .coercion
  | .operator _ _ => .badOperator
  | .fault _ => .unknown

/-- Adds a built node as an operand, or complains that it was refused. -/
def pushBuilt (limits : Limits) (s : State) (span : Span) : Except BuildError Expr → State
  | .ok e => s.pushOperand (some e) span
  | .error e => (s.report limits (.ofError (buildCode e) span e.message)).pushOperand none span

/-- Joins the last two operands by a binary operator. -/
def binary (limits : Limits) (s : State) (op : Token) : State :=
  match s.operands with
  | right :: left :: below =>
    let span := left.span.cover right.span
    let s := { s with operands := below }
    match left.expr, right.expr with
    | some l, some r => s.pushBuilt limits span (Expr.newArithmetic op.kind l r)
    | _, _ => s.pushOperand none span
  | _ => s

/-- Puts the last operand under a unary operator. -/
def unary (limits : Limits) (s : State) (op : Token) : State :=
  match s.operands with
  | inner :: below =>
    let span := op.span.cover inner.span
    let s := { s with operands := below }
    match inner.expr with
    | some x => s.pushBuilt limits span (Expr.newUnary op.kind x)
    | none => s.pushOperand none span
  | _ => s

/-- Widens the last operand to its parentheses. -/
def group (s : State) (opening closing : Span) : State :=
  match s.operands with
  | inner :: below => { s with operands := ⟨inner.expr, opening.cover closing⟩ :: below }
  | _ => s

/-- Indexes the name before the last operand by the last operand. -/
def index (limits : Limits) (s : State) (closing : Span) : State :=
  match s.operands with
  | place :: array :: below =>
    let span := array.span.cover closing
    let s := { s with operands := below }
    match array.expr, place.expr with
    | some (.identifier id), some i =>
      if id.type.kind = .array then s.pushOperand (some (.index id i)) span
      else
        (s.report limits (.ofError .notArray array.span
          (utf8 "cannot index '" ++ id.name ++ utf8 "' of type " ++ id.type.render))).pushOperand
            none span
    | _, _ => s.pushOperand none span
  | _ => s

/-- Lowers an expression at the given place. -/
def lower (s : State) (e : Expr) (span : Span) : State :=
  let observed := match e.render with
    | .ok text => Generator.point (utf8 "stmt") text
    | .error f => throw (.fault f)
  match (do observed; Generator.reduce e : Lower Expr).run s.generator with
  | .ok _ g =>
    { s with
      generator := g
      counts := { s.counts with statements := s.counts.statements + 1 } }
  | .error cause g => { s with generator := g, phase := .failing ⟨span, cause⟩ }

/-- Completes an expression statement. -/
def finish (s : State) : State :=
  match s.operands with
  | ⟨some e, span⟩ :: _ => { s with operands := [] }.lower e span
  | _ => { s with operands := [] }

end State

open Parse (Event)

/-- Runs one event while nothing has failed. -/
def act (limits : Limits) (s : State) : Event → State
  | .look l => s.tellLexeme l
  | .complain d => s.report limits d
  | .openBlock => { s with env := s.env.push }
  | .closeBlock => { s with env := s.env.pop }
  | .declare name type => s.declare limits name type
  | .name t => s.name limits t
  | .literal t => s.literal limits t
  | .invalid span => s.pushOperand none span
  | .binary op => s.binary limits op
  | .unary op => s.unary limits op
  | .group opening closing => s.group opening closing
  | .index closing => s.index limits closing
  | .finish => s.finish
  | .abandon => { s with operands := [] }

/-- Runs one event. After a failure the next token is still looked at and the blocks that close
there are closed; everything else ends the analysis. -/
def step (limits : Limits) (s : State) (e : Event) : State :=
  match s.phase with
  | .running => act limits s e
  | .failing failure =>
    match e with
    | .look l =>
      -- A closing brace may close a block, so the token behind it may come up as well.
      if l.token.kind = .rightBrace then s.tellLexeme l
      else { s.tellLexeme l with phase := .stopped failure }
    | .closeBlock => { s with env := s.env.pop }
    | _ => { s with phase := .stopped failure }
  | .stopped _ => s

end Analysis

/-- What an analysis yields. -/
structure Outcome where
  /-- The counts. -/
  counts : Counts
  /-- The generator with the code, the numbers handed out and the steps. -/
  generator : Generator
  /-- What was reported, in order. -/
  reports : List Report
  /-- The failure that ended the analysis early. -/
  failure : Option StatementFailure
deriving Repr, DecidableEq

namespace Analysis

/-- The outcome that a final state holds. -/
def State.outcome (s : State) : Outcome where
  counts := s.counts
  generator := s.generator
  reports := s.reports.reverse
  failure := match s.phase with
    | .running => none
    | .failing f | .stopped f => some f

/-- Analyses the lexemes of a source. -/
def run (limits : Limits) (g : Generator) (ls : List Lexeme) : Outcome :=
  ((Parse.parseProgram (.ofLexemes ls)).foldl (step limits) (.start limits g)).outcome

end Analysis

/-- Which reports reach a bag. -/
structure Channel where
  /-- Whether lexing reports. -/
  lexer : Bool := true
  /-- Whether the analysis reports. -/
  parser : Bool := true
  /-- Whether repeats are filtered. -/
  dedup : Bool := false
deriving Repr, DecidableEq, Inhabited

namespace Channel

/-- Tests whether reports of a phase pass. -/
def admits (c : Channel) : Origin → Bool
  | .lexer => c.lexer
  | .parser => c.parser

/-- The diagnostics that pass, in order. -/
def select (c : Channel) (rs : List Report) : List Diagnostic :=
  let ds := (rs.filter fun r => c.admits r.origin).map Report.diagnostic
  if c.dedup then Dedup.filter {} ds else ds

end Channel

/-- Hands the reports of an analysis to a bag. -/
def Outcome.deliver (o : Outcome) (c : Channel) (b : Bag) : Bag :=
  b.addAll (c.select o.reports)

end ThreeAddress
