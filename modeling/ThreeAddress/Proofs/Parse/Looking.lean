import ThreeAddress.Proofs.Parse.Combinators
import ThreeAddress.Proofs.Parse.Events

/-!
# First looks

What lexing has found about a token comes up when parsing looks at the token for the first time.
Every step looks at the tokens ahead of it in order, each one once, whether they fit the grammar or
not; what it has not looked at is left to the steps behind it. So a whole source is looked at token
by token.

## Main definitions

* `looks` : the tokens that are looked at among events.
* `Input.unseen` : the tokens ahead that have not been looked at.
* `Step.Looks` : a step looks at tokens in order, each one once.

## Main results

* `looks_parseExpr` : reading an expression looks at tokens in order.
* `looks_parseProgram` : all tokens of a source are looked at, each one once.
-/

namespace ThreeAddress.Parse

/-- The token that an event is a first look at. -/
def Event.lexeme? : Event → Option Lexeme
  | .look l => some l
  | _ => none

/-- The tokens that are looked at among events, in order. -/
def looks (es : List Event) : List Lexeme :=
  es.filterMap Event.lexeme?

@[simp] theorem looks_nil : looks [] = [] := rfl

@[simp] theorem looks_append (es fs : List Event) : looks (es ++ fs) = looks es ++ looks fs :=
  List.filterMap_append

@[simp] theorem looks_singleton (e : Event) : looks [e] = e.lexeme?.toList := by
  cases h : e.lexeme? <;> simp [looks, h]

/-- The tokens ahead that have not been looked at. -/
def Input.unseen (i : Input) : List Lexeme :=
  if i.looked then i.ahead.tail else i.ahead

theorem looks_look (i : Input) : looks i.lookEvents ++ i.look.unseen = i.unseen := by
  unfold Input.lookEvents Input.look Input.unseen
  cases i.ahead with
  | nil => simp
  | cons l rest => cases i.looked <;> simp [Event.lexeme?]

theorem looks_tail (i : Input) : looks i.lookEvents ++ i.tail.unseen = i.unseen := by
  unfold Input.lookEvents Input.tail Input.unseen
  cases h : i.ahead with
  | nil => simp [h]
  | cons l rest => cases i.looked <;> simp [Event.lexeme?]

namespace Step

variable {α β : Type} {i j : Input}

/-- A step looks at tokens in order, each one once. -/
def Looks (s : Step α i) : Prop :=
  looks s.events ++ s.rest.unseen = i.unseen

namespace Looks

theorem ofPure (a : α) : (Step.pure a : Step α i).Looks := rfl

theorem ofRemark (a : α) {es : List Event} (hes : looks es = []) :
    (Step.remark es a : Step α i).Looks := by
  simp [Looks, Step.remark, hes]

theorem ofAfter {s : Step α j} (hs : s.Looks) {es : List Event}
    (hes : looks es ++ j.unseen = i.unseen) (h : j.ahead <:+ i.ahead) : (s.after es h).Looks := by
  rw [Looks, Step.after, looks_append, List.append_assoc, hs, hes]

theorem ofBehind {s : Step α i.tail} (hs : s.Looks) : s.behind.Looks :=
  hs.ofAfter (looks_tail i) _

theorem ofBind {s : Step α i} (hs : s.Looks)
    {next : α → (j : Input) → j.ahead <:+ i.ahead → Step β j}
    (hnext : ∀ a j h, (next a j h).Looks) : (s.bind next).Looks := by
  unfold Step.bind
  split
  · exact (hnext _ _ _).ofAfter hs _
  · exact hs

theorem ofYield {s : Step α i} (hs : s.Looks) (event : α → Event)
    (hevent : ∀ a, (event a).lexeme? = none) (value : β) : (s.yield event value).Looks := by
  unfold Step.yield
  split
  · simpa [Looks, hevent] using hs
  · exact hs

theorem ofTake (a : α) {es : List Event} (hes : looks es = []) : (Step.take i a es).Looks := by
  simpa [Looks, Step.take, hes] using looks_tail i

theorem ofLook (a : α) (h : i.look.ahead <:+ i.ahead) :
    (⟨i.lookEvents, some a, i.look, h⟩ : Step α i).Looks :=
  looks_look i

theorem ofComplain (code : Code) (message : Bytes) (notes : List Note) :
    (Step.complain i code message notes : Step α i).Looks := by
  simpa [Looks, Step.complain, Event.lexeme?] using looks_look i

theorem ofExpect (k : TokenKind) (code : Code) (message : Bytes) (notes : List Note) :
    (Step.expect i k code message notes).Looks := by
  unfold Step.expect
  split
  · exact ofTake _ rfl
  · exact ofComplain _ _ _

end Looks

end Step

open Step (Looks)

/-! ### Expressions -/

theorem Event.lexeme?_of_isCombining {e : Event} (h : e.isCombining = true) : e.lexeme? = none := by
  cases e with
  | look l => cases h
  | _ => rfl

/-- Reading at any level of the expression grammar looks at tokens in order. -/
theorem kept_looks : Step.Kept @Looks where
  look := Looks.ofLook
  invalid span h := by simpa [Looks, Event.lexeme?] using looks_look _
  skip _ _ hs := hs.ofBehind
  take a _ := .ofTake a rfl
  literal _ _ := .ofTake () rfl
  name _ hs := hs.ofAfter rfl _
  complain := Looks.ofComplain
  behind _ hs := hs.ofBehind
  bind hs hnext := hs.ofBind hnext
  yield event hevent value hs :=
    hs.ofYield event (fun a => Event.lexeme?_of_isCombining (hevent a)) value

theorem looks_parseExpr (i : Input) : (parseExpr i).Looks :=
  kept_looks.expression i

/-! ### Types -/

theorem looks_parseType (i : Input) : (parseType i).Looks :=
  kept_looks.type .ofPure (fun _ => .ofRemark _ rfl) i

/-! ### Statements -/

theorem looks_skipStatement (i : Input) : (skipStatement i).Looks := by
  induction i using skipStatement_induction with
  | stop i h =>
    rw [skipStatement_end h]
    exact .ofLook () _
  | semicolon i l rest h hk =>
    rw [skipStatement_semicolon h hk]
    exact .ofTake () rfl
  | more i l rest h hs hb ih =>
    rw [skipStatement_more h hs hb]
    exact ih.ofBehind

theorem looks_orResync {α : Type} {i : Input} {s : Step α i} (hs : s.Looks) :
    s.orResync.Looks := by
  unfold Step.orResync
  split
  · exact hs
  · have hskip : (resync s.rest).Looks := (looks_skipStatement s.rest).ofAfter rfl _
    exact hskip.ofAfter hs _

theorem looks_parseLet (i : Input) : (parseLet i).Looks := by
  refine looks_orResync (Looks.ofBind (.ofExpect _ _ _ _) fun name j _ => ?_)
  refine Looks.ofBind (.ofExpect _ _ _ _) fun _ k _ => ?_
  have hdeclare := (looks_parseType k).ofYield (fun type => .declare name type) (fun _ => rfl) ()
  exact hdeclare.ofBind fun _ l _ => .ofExpect _ _ _ _

theorem looks_parseExprStmt (i : Input) : (parseExprStmt i).Looks := by
  have hbody : (parseExprBody i).Looks :=
    (looks_parseExpr i).ofBind fun _ j _ => .ofExpect _ _ _ _
  exact looks_orResync (hbody.ofYield (fun _ => .finish) (fun _ => rfl) ())

theorem looks_statements :
    (∀ i, (parseStmt i).toStep.Looks) ∧ ∀ opening i, (parseBlock opening i).Looks := by
  apply parseStmt_induction
  case nil =>
    intro i h
    rw [parseStmt_nil h]
    exact .ofPure ()
  case declaration =>
    intro i l rest h hk
    rw [parseStmt_let h hk]
    exact (looks_parseLet _).ofBehind
  case inner =>
    intro i l rest h hk hblock
    rw [parseStmt_block h hk]
    exact (hblock.ofAfter rfl _).ofBehind
  case brace =>
    intro i l rest h hk
    rw [parseStmt_brace h hk]
    simpa [Looks, strayBrace, Event.lexeme?] using looks_tail i
  case expr =>
    intro i l rest h hk
    rw [parseStmt_expr h hk]
    exact looks_parseExprStmt i
  case unclosed =>
    intro opening i h
    rw [parseBlock_nil opening h]
    have hexpect : (Step.expect i .rightBrace .unclosedBrace (utf8 "expected '\x7d'")
      [⟨opening, utf8 "block opened here"⟩]).Looks := .ofExpect _ _ _ _
    simpa [Looks, unclosedBlock, Event.lexeme?] using hexpect
  case close =>
    intro opening i l rest h hk
    rw [parseBlock_close opening h hk]
    exact .ofTake () rfl
  case more =>
    intro opening i l rest h hk hstmt hblock
    rw [parseBlock_more opening h hk]
    replace hblock : (parseBlock opening (parseStmt i).rest).Looks := hblock
    exact hblock.ofAfter hstmt _

/-- All tokens of a source are looked at in order, each one once. -/
theorem looks_parseProgram (i : Input) : looks (parseProgram i) = i.unseen := by
  induction i using parseProgram.induct with
  | case1 i h => simp [parseProgram_nil h, Input.unseen, h]
  | case2 i l rest h s ih =>
    replace ih : looks (parseProgram (parseStmt i).rest) = (parseStmt i).rest.unseen := ih
    rw [parseProgram_more h, looks_append, ih]
    exact looks_statements.1 i

end ThreeAddress.Parse
