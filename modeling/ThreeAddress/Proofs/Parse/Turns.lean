import Mathlib.Algebra.Order.Ring.Int
import Mathlib.Tactic.Ring
import ThreeAddress.Proofs.Parse.Combinators

/-!
# The turns of parsing

Parsing is run here on a budget for the depth of its calls, and keeps a log of the turns that its
loops make and of the calls of a statement. With a budget of eight calls for each token ahead, and
eight more, the budget is not used up, and what is read is what parsing reads. Each turn of a loop
goes on behind at least one token, or is the last one; so at the end of the file every loop ends.
The log has at most seven entries for each token, and one more.

The length of the log is bounded by what the turns take: a turn that goes on pays with the tokens
behind which it goes on, so only the last turn of a loop is free. These are paid for by the token in
front of the loop, and those of a whole statement by the first token of it.

## Main definitions

* `Site` : the loops and the functions of parsing.
* `Turn`, `Turn.Progresses` : a turn of a loop, and what is asked of it.
* `meter` : parsing on a budget, with a log.
* `readSource` : the statements of a source as one step.
* `Metered.Yields` : a budget is enough for a step, with a bound on the log.

## Main results

* `readSource_eq` : a whole source is read, with the events of parsing.
* `enough` : the budget is enough everywhere, and what is read is what parsing reads.
* `exists_turns` : the log of a whole source.
-/

namespace ThreeAddress.Parse

/-! ### Parsing on a budget -/

theorem Input.suffix_refl (i : Input) : i.ahead <:+ i.ahead :=
  List.suffix_refl _

/-- A look at the next token takes nothing. -/
theorem Input.look_suffix (i : Input) : i.look.ahead <:+ i.ahead :=
  List.suffix_refl _

/-- The loops of parsing and the functions that they call. -/
inductive Site where
  /-- Skipping the rest of a statement. -/
  | skip
  /-- A run of invalid tokens; the ones before are covered. -/
  | invalids (covered : Span)
  /-- Operands with operators of a level between them. -/
  | binary (p : Precedence)
  /-- The operators of a level behind an operand. -/
  | operators (p : Precedence)
  /-- An operand with the unary operators in front of it. -/
  | unary
  /-- An operand. -/
  | operand
  /-- The index behind a name. -/
  | index
  /-- A declaration behind its keyword. -/
  | declaration
  /-- An expression statement. -/
  | expression
  /-- A statement. -/
  | statement
  /-- The statements of a block. -/
  | block (opening : Span)
  /-- The statements of a source. -/
  | source
deriving Repr, DecidableEq

/-- What stands between the operators of a level. -/
def Precedence.site : Precedence → Site
  | sum => .binary .product
  | product => .unary

/-- A turn of a loop, or a call of a statement. -/
structure Turn where
  /-- The loop. -/
  site : Site
  /-- Where the turn starts. -/
  before : Input
  /-- Where the loop goes on, unless it ends. -/
  behind : Option Input
deriving Repr, DecidableEq

/-- A turn that goes on takes at least one token. -/
def Turn.Progresses (t : Turn) : Prop :=
  ∀ j ∈ t.behind, j.ahead <:+ t.before.ahead ∧ j.size < t.before.size

/-- At the end of the file no turn goes on. -/
theorem Turn.Progresses.behind_eq_none {t : Turn} (h : t.Progresses) (hend : t.before.ahead = []) :
    t.behind = none := by
  refine Option.eq_none_iff_forall_ne_some.mpr fun j hj => ?_
  have hsize : t.before.size = 0 := by rw [Input.size, hend, List.length_nil]
  exact Nat.not_lt_zero _ (hsize ▸ (h j hj).2)

/-- A step with a log of its turns, unless the budget has been used up. -/
abbrev Metered (α : Type) (i : Input) := Option (Step α i × List Turn)

namespace Metered

variable {α β : Type} {i j : Input}

/-- A step without a loop. -/
def ofStep (s : Step α i) : Metered α i :=
  some (s, [])

/-- The last turn of a loop. -/
def exit (site : Site) (s : Step α i) : Metered α i :=
  some (s, [⟨site, i, none⟩])

/-- Puts events in front of a step from a later input. -/
def after (m : Metered α j) (events : List Event) (h : j.ahead <:+ i.ahead) : Metered α i :=
  m.map fun p => (p.1.after events h, p.2)

/-- Puts events in front of a step. -/
def before (m : Metered α i) (events : List Event) : Metered α i :=
  m.after events i.suffix_refl

/-- Goes on behind the next token. -/
def behind (m : Metered α i.tail) : Metered α i :=
  m.after i.lookEvents (Input.tail_suffix i)

/-- Adds an event behind a successful step. -/
def yield (m : Metered α i) (event : α → Event) (value : β) : Metered β i :=
  m.map fun p => (p.1.yield event value, p.2)

/-- Goes on with a second step if the first one yields a value. -/
def bind (m : Metered α i) (next : α → (j : Input) → j.ahead <:+ i.ahead → Metered β j) :
    Metered β i :=
  Option.bind m fun p => match p.1.value with
    | some a => (next a p.1.rest p.1.suffix).map fun q =>
        (q.1.after p.1.events p.1.suffix, p.2 ++ q.2)
    | none => some (⟨p.1.events, none, p.1.rest, p.1.suffix⟩, p.2)

/-- One turn of a loop, which goes on if a first step yields a value. -/
def loop (site : Site) (first : Metered Unit i)
    (again : (j : Input) → Metered Unit j) : Metered Unit i :=
  Option.bind first fun p => match p.1.value with
    | some _ => (again p.1.rest).map fun q =>
        (q.1.after p.1.events p.1.suffix, ⟨site, i, some p.1.rest⟩ :: (p.2 ++ q.2))
    | none => some (⟨p.1.events, none, p.1.rest, p.1.suffix⟩, ⟨site, i, none⟩ :: p.2)

/-- Skips the rest of the statement if a step of it has failed. -/
def orResync (m : Metered α i) (skip : (j : Input) → Metered Unit j) : Metered Unit i :=
  Option.bind m fun p => match p.1.value with
    | some _ => some (⟨p.1.events, some (), p.1.rest, p.1.suffix⟩, p.2)
    | none => ((skip p.1.rest).before [.abandon]).map fun q =>
        (q.1.after p.1.events p.1.suffix, p.2 ++ q.2)

/-- Notes where a call has come to. -/
def noted (site : Site) (m : Metered Unit i) : Metered Unit i :=
  m.map fun p => (p.1, ⟨site, i, some p.1.rest⟩ :: p.2)

end Metered

open Metered (ofStep exit loop)

/-! ### Functions, with what they call as arguments -/

section Functions

variable (again skip expr next unary operand index declaration expression statement :
  (j : Input) → Metered Unit j)

/-- Skips the rest of a statement. -/
def turnSkip (i : Input) : Metered Unit i :=
  match i.ahead with
  | [] => exit .skip ⟨[], some (), i.look, i.look_suffix⟩
  | l :: _ =>
    match l.token.kind with
    | .rightBrace => exit .skip ⟨i.lookEvents, some (), i.look, i.look_suffix⟩
    | .semicolon => exit .skip (Step.take i () [])
    | _ => loop .skip (ofStep (Step.take i () [])) again

/-- Takes invalid tokens. -/
def turnInvalids (again : Span → (j : Input) → Metered Unit j) (covered : Span) (i : Input) :
    Metered Unit i :=
  match i.ahead with
  | l :: _ =>
    if l.token.kind = .invalid then
      loop (.invalids covered) (ofStep (Step.take i () [])) (again (covered.cover l.token.span))
    else
      exit (.invalids covered)
        ⟨i.lookEvents ++ [.invalid covered], some (), i.look, i.look_suffix⟩
  | [] => exit (.invalids covered) ⟨[.invalid covered], some (), i.look, i.look_suffix⟩

/-- Reads an operand and what is behind it. -/
def runLevel (tail : (j : Input) → Metered Unit j) (i : Input) : Metered Unit i :=
  (next i).bind fun _ j _ => tail j

/-- Takes operators of a level with their right operands. -/
def turnOperators (p : Precedence) (i : Input) : Metered Unit i :=
  match i.ahead with
  | l :: _ =>
    if p.isOperator l.token.kind then
      loop (.operators p) ((next i.tail).yield (fun _ => .binary l.token) ()).behind again
    else exit (.operators p) ⟨i.lookEvents, some (), i.look, i.look_suffix⟩
  | [] => exit (.operators p) ⟨[], some (), i.look, i.look_suffix⟩

/-- Reads an operand with the unary operators in front of it. -/
def runUnary (i : Input) : Metered Unit i :=
  match i.ahead with
  | l :: _ =>
    if l.token.kind = .minus ∨ l.token.kind = .tilde then
      ((unary i.tail).yield (fun _ => .unary l.token) ()).behind
    else operand i
  | [] => operand i

/-- Reads an operand. -/
def runOperand (invalids : Span → (j : Input) → Metered Unit j) (i : Input) : Metered Unit i :=
  match i.ahead with
  | [] => ofStep (noOperand i)
  | l :: _ =>
    match l.token.kind with
    | .leftParen =>
      Metered.behind <| (expr i.tail).bind fun _ j _ =>
        ofStep <| (Step.expect j .rightParen .unclosedParen (utf8 "expected ')'")
          (openedHere l.token.span)).yield (fun t => .group l.token.span t.span) ()
    | .integer | .float | .char | .keywordTrue | .keywordFalse =>
      ofStep (Step.take i () [.literal l.token])
    | .identifier =>
      ((index i.tail).before [.name l.token]).behind
    | .invalid => (invalids l.token.span i.tail).behind
    | _ => ofStep (noOperand i)

/-- Reads the index behind a name, if there is one. -/
def runIndex (i : Input) : Metered Unit i :=
  match i.ahead with
  | l :: _ =>
    if l.token.kind = .leftBracket then
      Metered.behind <| (expr i.tail).bind fun _ j _ =>
        ofStep <| (Step.expect j .rightBracket .unclosedBracket (utf8 "expected ']'")
          (openedHere l.token.span)).yield (fun t => .index t.span) ()
    else ofStep ⟨i.lookEvents, some (), i.look, i.look_suffix⟩
  | [] => ofStep ⟨[], some (), i.look, i.look_suffix⟩

/-- Reads a type. -/
def runType (elem : (j : Input) → Metered DataType j) (i : Input) : Metered DataType i :=
  match i.ahead with
  | [] => ofStep (noType i)
  | l :: _ =>
    match l.token.kind with
    | .leftBracket =>
      Metered.behind <| (ofStep (parseSize i.tail)).bind fun size j _ =>
        (elem j).bind fun elem _ _ => ofStep (Step.pure (.array elem size))
    | .identifier =>
      match DataType.ofName? l.token.text with
      | some t => ofStep (Step.take i t [])
      | none =>
        if l.token.text = utf8 "string" then
          Metered.behind <| ofStep <|
            (Step.expect i.tail .leftBracket .expectType
              (utf8 "expected '[' after 'string'") []).bind fun _ j _ =>
                (parseSize j).bind fun size _ _ => Step.pure (.string size)
        else ofStep (noType i)
    | _ => ofStep (noType i)

/-- Reads a declaration behind its keyword. -/
def runDeclaration (type : (j : Input) → Metered DataType j) (i : Input) : Metered Unit i :=
  Metered.orResync
    ((ofStep (Step.expect i .identifier .expectIdentifier
      (utf8 "expected identifier after 'let'") [])).bind fun name j _ =>
        (ofStep (Step.expect j .colon .expectColon
          (utf8 "expected ':' after '" ++ name.text ++ utf8 "'") [])).bind fun _ k _ =>
            ((type k).yield (fun type => .declare name type) ()).bind fun _ l _ =>
              ofStep (Step.expect l .semicolon .expectSemicolon
                (utf8 "expected ';' after declaration") []))
    skip

/-- Reads an expression statement. -/
def runExpression (i : Input) : Metered Unit i :=
  Metered.orResync
    (((expr i).bind fun _ j _ => ofStep (Step.expect j .semicolon .expectSemicolon
      (utf8 "expected ';' after expression") [])).yield (fun _ => .finish) ())
    skip

/-- Reads a statement. -/
def runStatement (block : Span → (j : Input) → Metered Unit j) (i : Input) : Metered Unit i :=
  match i.ahead with
  | [] => ofStep (Step.pure ())
  | l :: _ =>
    Metered.noted .statement <|
      if l.token.kind = .keywordLet then (declaration i.tail).behind
      else if l.token.kind = .leftBrace then
        ((block l.token.span i.tail).before [.openBlock]).behind
      else if l.token.kind = .rightBrace then ofStep (strayBrace i)
      else expression i

/-- Reads the statements of a block and its closing brace. -/
def turnBlock (opening : Span) (i : Input) : Metered Unit i :=
  match i.ahead with
  | [] => exit (.block opening) (unclosedBlock opening i)
  | l :: _ =>
    if l.token.kind = .rightBrace then exit (.block opening) (Step.take i () [.closeBlock])
    else loop (.block opening) (statement i) again

/-- Reads the statements of a source. -/
def turnSource (i : Input) : Metered Unit i :=
  match i.ahead with
  | [] => exit .source (Step.pure ())
  | _ :: _ => loop .source (statement i) again

end Functions

/-- Reads a type on a budget. -/
def meterType : Nat → (i : Input) → Metered DataType i
  | 0, _ => none
  | n + 1, i => runType (meterType n) i

/-- Runs a loop or a function of parsing on a budget, which each call takes one of. -/
def meter : Nat → Site → (i : Input) → Metered Unit i
  | 0, _, _ => none
  | n + 1, .skip, i => turnSkip (meter n .skip) i
  | n + 1, .invalids covered, i =>
    turnInvalids (fun covered j => meter n (.invalids covered) j) covered i
  | n + 1, .binary p, i => runLevel (meter n p.site) (meter n (.operators p)) i
  | n + 1, .operators p, i => turnOperators (meter n (.operators p)) (meter n p.site) p i
  | n + 1, .unary, i => runUnary (meter n .unary) (meter n .operand) i
  | n + 1, .operand, i =>
    runOperand (meter n (.binary .sum)) (meter n .index)
      (fun covered j => meter n (.invalids covered) j) i
  | n + 1, .index, i => runIndex (meter n (.binary .sum)) i
  | n + 1, .declaration, i => runDeclaration (meter n .skip) (meterType n) i
  | n + 1, .expression, i => runExpression (meter n .skip) (meter n (.binary .sum)) i
  | n + 1, .statement, i =>
    runStatement (meter n .declaration) (meter n .expression)
      (fun opening j => meter n (.block opening) j) i
  | n + 1, .block opening, i => turnBlock (meter n (.block opening)) (meter n .statement) opening i
  | n + 1, .source, i => turnSource (meter n .source) (meter n .statement) i

/-! ### What is read on a budget -/

/-- The statements of a source as one step. -/
def readSource (i : Input) : Step Unit i :=
  match _h : i.ahead with
  | [] => Step.pure ()
  | _ :: _ => (readSource (parseStmt i).rest).after (parseStmt i).events (parseStmt i).suffix
termination_by i.size
decreasing_by exact (parseStmt i).progress (by simp [_h])

namespace Metered

variable {α β : Type} {i j : Input} {l : Lexeme} {rest : List Lexeme} {w : Nat} {c d : Int}

/-- The budget is enough for a step, and all turns progress. Each token taken pays for `w` of the
turns, and no token pays for `c` more. -/
def Yields (m : Metered α i) (s : Step α i) (w : Nat) (c : Int) : Prop :=
  ∃ log, m = some (s, log) ∧ (∀ t ∈ log, t.Progresses) ∧
    (log.length : Int) + w * s.rest.size ≤ w * i.size + c

theorem mul_size_le (w : Nat) (h : j.ahead <:+ i.ahead) : (w : Int) * j.size ≤ w * i.size :=
  mul_le_mul_of_nonneg_left (Int.ofNat_le.mpr h.length_le) (Int.natCast_nonneg w)

theorem mul_size_tail (w : Nat) (h : i.ahead = l :: rest) :
    (w : Int) * i.tail.size + w = w * i.size := by
  have hsize : i.size = i.tail.size + 1 := by simp [Input.size, h]
  rw [hsize]
  push_cast
  ring

theorem progresses_exit (site : Site) (i : Input) : Turn.Progresses ⟨site, i, none⟩ := by
  rintro j ⟨⟩

namespace Yields

variable {m : Metered α i} {s : Step α i}

theorem mono (h : m.Yields s w c) (hcd : c ≤ d) : m.Yields s w d := by
  obtain ⟨log, hm, hlog, hcost⟩ := h
  exact ⟨log, hm, hlog, by omega⟩

theorem ofStep (s : Step α i) (w : Nat) : (ofStep s).Yields s w 0 :=
  ⟨[], rfl, List.forall_mem_nil _, by simpa using mul_size_le w s.suffix⟩

theorem ofTake (h : i.ahead = l :: rest) (a : α) (es : List Event) (w : Nat) :
    (Metered.ofStep (Step.take i a es)).Yields (Step.take i a es) w (-w) := by
  refine ⟨[], rfl, List.forall_mem_nil _, ?_⟩
  have hsize := mul_size_tail w h
  simp only [List.length_nil, Step.take]
  omega

theorem exit (site : Site) (s : Step α i) (w : Nat) : (exit site s).Yields s w 1 := by
  refine ⟨_, rfl, List.forall_mem_singleton.mpr (progresses_exit site i), ?_⟩
  have hsize := mul_size_le w s.suffix
  simp only [List.length_singleton]
  omega

theorem after {m : Metered α j} {s : Step α j} (hm : m.Yields s w c) (es : List Event)
    (h : j.ahead <:+ i.ahead) : (m.after es h).Yields (s.after es h) w c := by
  obtain ⟨log, rfl, hlog, hcost⟩ := hm
  have hsize := mul_size_le w h
  exact ⟨log, rfl, hlog, by simp only [Step.after]; omega⟩

theorem before (hm : m.Yields s w c) (es : List Event) :
    (m.before es).Yields (s.after es (List.suffix_refl _)) w c :=
  hm.after es _

/-- Behind a token, that token is there to pay. -/
theorem behind {m : Metered α i.tail} {s : Step α i.tail} (hm : m.Yields s w c)
    (h : i.ahead = l :: rest) : m.behind.Yields s.behind w (c - w) := by
  obtain ⟨log, rfl, hlog, hcost⟩ := hm
  have hsize := mul_size_tail w h
  exact ⟨log, rfl, hlog, by simp only [Step.behind, Step.after]; omega⟩

theorem yield (hm : m.Yields s w c) (event : α → Event) (value : β) :
    (m.yield event value).Yields (s.yield event value) w c := by
  obtain ⟨log, rfl, hlog, hcost⟩ := hm
  refine ⟨log, rfl, hlog, ?_⟩
  unfold Step.yield
  split <;> exact hcost

theorem bind (hm : m.Yields s w c) (hd : 0 ≤ d)
    {next : α → (j : Input) → j.ahead <:+ i.ahead → Metered β j}
    {next' : α → (j : Input) → j.ahead <:+ i.ahead → Step β j}
    (hnext : ∀ a j h, (next a j h).Yields (next' a j h) w d) :
    (m.bind next).Yields (s.bind next') w (c + d) := by
  obtain ⟨log, rfl, hlog, hcost⟩ := hm
  unfold Metered.bind Step.bind
  simp only [Option.bind_some]
  cases hvalue : s.value with
  | none => exact ⟨log, rfl, hlog, by simp only; omega⟩
  | some a =>
    obtain ⟨log', hlog', hprogresses, hcost'⟩ := hnext a s.rest s.suffix
    refine ⟨log ++ log', by simp only [hlog', Option.map_some],
      List.forall_mem_append.mpr ⟨hlog, hprogresses⟩, ?_⟩
    simp only [List.length_append, Step.after]
    push_cast
    omega

/-- A turn of a loop is paid for by what it takes. -/
theorem loop {first : Metered Unit i} {s : Step Unit i} (hfirst : first.Yields s w c)
    (hc : c + 1 ≤ 0) (hd : 0 ≤ d) (hlt : s.rest.size < i.size) (site : Site)
    {again : (j : Input) → Metered Unit j} {again' : (j : Input) → Step Unit j}
    (hagain : ∀ j, j.size < i.size → (again j).Yields (again' j) w d) :
    (loop site first again).Yields (s.bind fun _ j _ => again' j) w d := by
  obtain ⟨log, rfl, hlog, hcost⟩ := hfirst
  unfold Metered.loop Step.bind
  simp only [Option.bind_some]
  cases hvalue : s.value with
  | none =>
    refine ⟨_, rfl, List.forall_mem_cons.mpr ⟨progresses_exit site i, hlog⟩, ?_⟩
    simp only [List.length_cons]
    push_cast
    omega
  | some a =>
    obtain ⟨log', hlog', hprogresses, hcost'⟩ := hagain s.rest hlt
    have hturn : Turn.Progresses ⟨site, i, some s.rest⟩ := by
      rintro j ⟨⟩
      exact ⟨s.suffix, hlt⟩
    refine ⟨⟨site, i, some s.rest⟩ :: (log ++ log'), by simp only [hlog', Option.map_some],
      List.forall_mem_cons.mpr ⟨hturn, List.forall_mem_append.mpr ⟨hlog, hprogresses⟩⟩, ?_⟩
    simp only [List.length_cons, List.length_append, Step.after]
    push_cast
    omega

theorem orResync (hm : m.Yields s w c) (hd : 0 ≤ d) {skip : (j : Input) → Metered Unit j}
    (hskip : ∀ j, j.size ≤ i.size → (skip j).Yields (skipStatement j) w d) :
    (m.orResync skip).Yields s.orResync w (c + d) := by
  obtain ⟨log, rfl, hlog, hcost⟩ := hm
  unfold Metered.orResync Step.orResync
  simp only [Option.bind_some]
  cases hvalue : s.value with
  | some a => exact ⟨log, rfl, hlog, by simp only; omega⟩
  | none =>
    obtain ⟨log', hlog', hprogresses, hcost'⟩ := hskip s.rest s.size_le
    refine ⟨log ++ log', by simp only [hlog', Metered.before, Metered.after, Option.map_some]; rfl,
      List.forall_mem_append.mpr ⟨hlog, hprogresses⟩, ?_⟩
    simp only [List.length_append, Step.after, resync]
    push_cast
    omega

/-- A call that takes a token. -/
theorem noted {m : Metered Unit i} {s : Step Unit i} (hm : m.Yields s w c) (site : Site)
    (hlt : s.rest.size < i.size) : (m.noted site).Yields s w (c + 1) := by
  obtain ⟨log, rfl, hlog, hcost⟩ := hm
  have hturn : Turn.Progresses ⟨site, i, some s.rest⟩ := by
    rintro j ⟨⟩
    exact ⟨s.suffix, hlt⟩
  refine ⟨_, rfl, List.forall_mem_cons.mpr ⟨hturn, hlog⟩, ?_⟩
  simp only [List.length_cons]
  push_cast
  omega

/-- A step that takes a token has more to pay with if each token pays for more. -/
theorem weigh (hm : m.Yields s 2 c) (hlt : s.rest.size < i.size) : m.Yields s 7 (c - 5) := by
  obtain ⟨log, hm, hlog, hcost⟩ := hm
  exact ⟨log, hm, hlog, by push_cast at hcost ⊢; omega⟩

end Yields

end Metered

open Metered (Yields)

variable {i : Input} {l : Lexeme} {rest : List Lexeme} {n : Nat}

namespace Step

/-- Going on behind the next token before or after putting two steps together. -/
theorem behind_bind {α β : Type} (s : Step α i.tail) (next : α → (j : Input) → Step β j) :
    (s.bind fun a j _ => next a j).behind = s.behind.bind fun a j _ => next a j := by
  unfold behind bind after
  cases hvalue : s.value <;> simp

theorem size_rest_behind_lt {α : Type} (s : Step α i.tail) (h : i.ahead = l :: rest) :
    s.behind.rest.size < i.size :=
  Nat.lt_of_le_of_lt s.size_le (Input.size_tail_lt h)

theorem take_bind {β : Type} (next : (j : Input) → Step β j) :
    ((take i () []).bind fun _ j _ => next j) = (next i.tail).behind := by
  simp [bind, take, behind, after]

end Step

theorem value_skipStatement (i : Input) : (skipStatement i).value = some () := by
  induction i using skipStatement_induction with
  | stop i h => rw [skipStatement_end h]
  | semicolon i l rest h hk =>
    rw [skipStatement_semicolon h hk]
    rfl
  | more i l rest h hs hb ih =>
    rw [skipStatement_more h hs hb]
    exact ih

/-- A step that is gone on with or given up has a value. -/
theorem value_orResync {α : Type} (s : Step α i) : s.orResync.value = some () := by
  unfold Step.orResync
  split
  · rfl
  · exact value_skipStatement s.rest

/-- A statement has a value, and so has the rest of a block. -/
theorem value_statements :
    (∀ i, (parseStmt i).value = some ()) ∧ ∀ opening i, (parseBlock opening i).value = some () := by
  apply parseStmt_induction
  case nil =>
    intro i h
    rw [parseStmt_nil h]
    rfl
  case declaration =>
    intro i l rest h hk
    rw [parseStmt_let h hk]
    show (parseLet i.tail).value = some ()
    exact value_orResync _
  case inner =>
    intro i l rest h hk hblock
    rw [parseStmt_block h hk]
    exact hblock
  case brace =>
    intro i l rest h hk
    rw [parseStmt_brace h hk]
    rfl
  case expr =>
    intro i l rest h hk
    rw [parseStmt_expr h hk]
    exact value_orResync _
  case unclosed =>
    intro opening i h
    rw [parseBlock_nil opening h]
    rfl
  case close =>
    intro opening i l rest h hk
    rw [parseBlock_close opening h hk]
    rfl
  case more =>
    intro opening i l rest h hk hstmt hblock
    rw [parseBlock_more opening h hk]
    exact hblock

theorem stmt_bind (next : (j : Input) → Step Unit j) :
    ((parseStmt i).toStep.bind fun _ j _ => next j) =
      (next (parseStmt i).rest).after (parseStmt i).events (parseStmt i).suffix :=
  Step.bind_of_some (value_statements.1 i) _

theorem readSource_nil (h : i.ahead = []) : readSource i = Step.pure () := by
  cases i
  obtain rfl := h
  rw [readSource]

theorem readSource_more (h : i.ahead ≠ []) : readSource i =
    (readSource (parseStmt i).rest).after (parseStmt i).events (parseStmt i).suffix := by
  rw [readSource]
  split
  · rename_i h'
    exact absurd h' h
  · rfl

/-- The statements of a source bring up its events, and leave no token. -/
theorem readSource_eq (i : Input) :
    (readSource i).events = parseProgram i ∧ (readSource i).rest.ahead = [] := by
  induction i using parseProgram.induct with
  | case1 i h =>
    rw [readSource_nil h, parseProgram_nil h]
    exact ⟨rfl, h⟩
  | case2 i l rest h s ih =>
    rw [readSource_more (by simp [h]), parseProgram_more h]
    exact ⟨congrArg ((parseStmt i).events ++ ·) ih.1, ih.2⟩

/-! ### What the functions yield if what they call does -/

section Functions

variable {again skip expr next unary operand index declaration expression statement :
  (j : Input) → Metered Unit j}

theorem yields_turnSkip
    (hagain : ∀ j : Input, j.size < i.size → (again j).Yields (skipStatement j) 2 1) :
    (turnSkip again i).Yields (skipStatement i) 2 1 := by
  unfold turnSkip
  split
  · rename_i hahead
    rw [skipStatement_end (.inr hahead), Input.lookEvents_of_nil hahead]
    exact .exit _ _ _
  · rename_i l rest hahead
    split
    · rename_i hk
      rw [skipStatement_end (.inl ((Input.kind_of_ahead hahead).trans hk))]
      exact .exit _ _ _
    · rename_i hk
      rw [skipStatement_semicolon hahead hk]
      exact .exit _ _ _
    · rename_i hbrace hsemicolon
      rw [skipStatement_more hahead hsemicolon hbrace, ← Step.take_bind]
      exact (Yields.ofTake hahead () [] 2).loop (by decide) (by decide)
        (Input.size_tail_lt hahead) _ hagain

theorem yields_turnInvalids {again : Span → (j : Input) → Metered Unit j}
    (hagain : ∀ (covered : Span) (j : Input), j.size < i.size →
      (again covered j).Yields (parseInvalid covered j) 2 1) (covered : Span) :
    (turnInvalids again covered i).Yields (parseInvalid covered i) 2 1 := by
  unfold turnInvalids
  split
  · rename_i l rest hahead
    split
    · rename_i hk
      rw [parseInvalid_more covered hahead hk, ← Step.take_bind]
      exact (Yields.ofTake hahead () [] 2).loop (by decide) (by decide)
        (Input.size_tail_lt hahead) _ (hagain _)
    · rename_i hk
      rw [parseInvalid_end covered (by rwa [Input.kind_of_ahead hahead])]
      exact .exit _ _ _
  · rename_i hahead
    rw [parseInvalid_end covered (by simp [Input.kind_of_nil hahead]),
      Input.lookEvents_of_nil hahead]
    exact .exit _ _ _

/-- Both levels of binary operators. -/
theorem yields_runLevel {tail : (j : Input) → Metered Unit j} (p : Precedence) {c : Int}
    (hnext : (next i).Yields (parseNext p i) 2 c)
    (htail : ∀ j : Input, j.size ≤ i.size → (tail j).Yields (parseBinaryTail p j) 2 1) :
    (runLevel next tail i).Yields (parseBinary p i) 2 (c + 1) := by
  rw [parseBinary]
  exact hnext.bind (by decide) fun _ j hj => htail j hj.length_le

theorem yields_turnOperators (p : Precedence)
    (hnext : i.tail.size < i.size → (next i.tail).Yields (parseNext p i.tail) 2 1)
    (hagain : ∀ j : Input, j.size < i.size → (again j).Yields (parseBinaryTail p j) 2 1) :
    (turnOperators again next p i).Yields (parseBinaryTail p i) 2 1 := by
  unfold turnOperators
  split
  · rename_i l rest hahead
    split
    · rename_i hk
      rw [parseBinaryTail_operator p hahead hk, Step.behind_bind _ fun _ j => parseBinaryTail p j]
      have hfirst := (hnext (Input.size_tail_lt hahead)).yield (fun _ => .binary l.token) ()
      exact (hfirst.behind hahead).loop (by decide) (by decide)
        (Step.size_rest_behind_lt _ hahead) _ hagain
    · rename_i hk
      rw [parseBinaryTail_end p (by simpa [Input.kind_of_ahead hahead] using hk)]
      exact .exit _ _ _
  · rename_i hahead
    rw [parseBinaryTail_end p (by simp [Input.kind_of_nil hahead]), Input.lookEvents_of_nil hahead]
    exact .exit _ _ _

theorem yields_runUnary
    (hunary : i.tail.size < i.size → (unary i.tail).Yields (parseUnary i.tail) 2 0)
    (hoperand : (operand i).Yields (parseOperand i) 2 0) :
    (runUnary unary operand i).Yields (parseUnary i) 2 0 := by
  unfold runUnary
  split
  · rename_i l rest hahead
    split
    · rename_i hk
      rw [parseUnary_operator hahead hk]
      have hfirst := (hunary (Input.size_tail_lt hahead)).yield (fun _ => .unary l.token) ()
      exact (hfirst.behind hahead).mono (by decide)
    · rename_i hk
      rw [parseUnary_operand (by rwa [Input.kind_of_ahead hahead])]
      exact hoperand
  · rename_i hahead
    rw [parseUnary_operand (by simp [Input.kind_of_nil hahead])]
    exact hoperand

theorem yields_runOperand {invalids : Span → (j : Input) → Metered Unit j}
    (hexpr : i.tail.size < i.size → (expr i.tail).Yields (parseExpr i.tail) 2 2)
    (hindex : i.tail.size < i.size → (index i.tail).Yields (parseIndex i.tail) 2 0)
    (hinvalids : ∀ covered, i.tail.size < i.size →
      (invalids covered i.tail).Yields (parseInvalid covered i.tail) 2 1) :
    (runOperand expr index invalids i).Yields (parseOperand i) 2 0 := by
  unfold runOperand
  split
  · rename_i hahead
    rw [parseOperand_none (by rw [Input.kind_of_nil hahead]; rfl)]
    exact .ofStep _ _
  · rename_i l rest hahead
    have htail := Input.size_tail_lt hahead
    have hliteral (hk : l.token.kind.isLiteral = true) :
        (ofStep (Step.take i () [.literal l.token])).Yields (parseOperand i) 2 0 := by
      rw [parseOperand_literal hahead hk]
      exact .ofStep _ _
    split
    · rename_i hk
      rw [parseOperand_group hahead hk]
      exact (((hexpr htail).bind (Int.le_refl 0) fun _ _ _ => .ofStep _ 2).behind hahead).mono
        (by decide)
    · rename_i hk
      exact hliteral (by rw [hk]; rfl)
    · rename_i hk
      exact hliteral (by rw [hk]; rfl)
    · rename_i hk
      exact hliteral (by rw [hk]; rfl)
    · rename_i hk
      exact hliteral (by rw [hk]; rfl)
    · rename_i hk
      exact hliteral (by rw [hk]; rfl)
    · rename_i hk
      rw [parseOperand_name hahead hk]
      exact (((hindex htail).before _).behind hahead).mono (by decide)
    · rename_i hk
      rw [parseOperand_invalid hahead hk]
      exact ((hinvalids _ htail).behind hahead).mono (by decide)
    · rename_i hparen hint hfloat hchar htrue hfalse hname hinvalid
      rw [parseOperand_none]
      · exact .ofStep _ _
      · rw [Input.kind_of_ahead hahead]
        exact startsOperand_eq_false hparen hint hfloat hchar htrue hfalse hname hinvalid

theorem yields_runIndex
    (hexpr : i.tail.size < i.size → (expr i.tail).Yields (parseExpr i.tail) 2 2) :
    (runIndex expr i).Yields (parseIndex i) 2 0 := by
  unfold runIndex
  split
  · rename_i l rest hahead
    split
    · rename_i hk
      rw [parseIndex_open hahead hk]
      have htail := Input.size_tail_lt hahead
      exact (((hexpr htail).bind (Int.le_refl 0) fun _ _ _ => .ofStep _ 2).behind hahead).mono
        (by decide)
    · rename_i hk
      rw [parseIndex_end (by rwa [Input.kind_of_ahead hahead])]
      exact .ofStep _ _
  · rename_i hahead
    rw [parseIndex_end (by simp [Input.kind_of_nil hahead]), Input.lookEvents_of_nil hahead]
    exact .ofStep _ _

theorem yields_runType {elem : (j : Input) → Metered DataType j}
    (helem : ∀ j : Input, j.size < i.size → (elem j).Yields (parseType j) 2 0) :
    (runType elem i).Yields (parseType i) 2 0 := by
  have hnone (hk : startsType i.head = false) :
      (ofStep (noType i)).Yields (parseType i) 2 0 := by
    rw [parseType_none hk]
    exact .ofStep _ _
  unfold runType
  split
  · rename_i hahead
    exact hnone (by rw [Input.head, hahead]; rfl)
  · rename_i l rest hahead
    have htail := Input.size_tail_lt hahead
    have hhead : i.head = l.token := by rw [Input.head, hahead]
    split
    · rename_i hk
      rw [parseType_array hahead hk]
      have hsteps := (Yields.ofStep (parseSize i.tail) 2).bind (Int.le_refl 0) fun size j hj =>
        (helem j (Nat.lt_of_le_of_lt hj.length_le htail)).bind (Int.le_refl 0) fun elem _ _ =>
          Yields.ofStep (Step.pure (DataType.array elem size)) 2
      exact (hsteps.behind hahead).mono (by decide)
    · rename_i hk
      split
      · rename_i t ht
        rw [parseType_scalar hahead hk ht]
        exact .ofStep _ 2
      · rename_i hscalar
        split
        · rename_i hstring
          rw [parseType_string hahead hk hstring]
          exact (Yields.behind (.ofStep _ 2) hahead).mono (by decide)
        · rename_i hstring
          exact hnone (by simp [hhead, startsType, hk, hscalar, hstring])
    · rename_i hbracket hname
      refine hnone ?_
      rw [hhead]
      simp only [startsType, Bool.or_eq_false_iff, beq_eq_false_iff_ne]
      exact ⟨hbracket, by simp [beq_eq_false_iff_ne.mpr hname]⟩

theorem yields_runDeclaration {type : (j : Input) → Metered DataType j}
    (hskip : ∀ j : Input, j.size ≤ i.size → (skip j).Yields (skipStatement j) 2 1)
    (htype : ∀ j : Input, j.size ≤ i.size → (type j).Yields (parseType j) 2 0) :
    (runDeclaration skip type i).Yields (parseLet i) 2 1 := by
  refine Yields.orResync (c := 0) ?_ (by decide) hskip
  refine Yields.bind (.ofStep _ 2) (Int.le_refl 0) fun name j hj => ?_
  refine Yields.bind (.ofStep _ 2) (Int.le_refl 0) fun _ k hk => ?_
  have hread := (htype k (hk.trans hj).length_le).yield (fun type => .declare name type) ()
  exact hread.bind (Int.le_refl 0) fun _ _ _ => .ofStep _ 2

theorem yields_runExpression
    (hskip : ∀ j : Input, j.size ≤ i.size → (skip j).Yields (skipStatement j) 2 1)
    (hexpr : (expr i).Yields (parseExpr i) 2 2) :
    (runExpression skip expr i).Yields (parseExprStmt i) 2 3 := by
  refine Yields.orResync (c := 2) (Yields.yield ?_ _ ()) (by decide) hskip
  exact hexpr.bind (Int.le_refl 0) fun _ _ _ => .ofStep _ 2

theorem yields_runStatement {block : Span → (j : Input) → Metered Unit j} (hne : i.ahead ≠ [])
    (hdeclaration : i.tail.size < i.size → (declaration i.tail).Yields (parseLet i.tail) 2 1)
    (hexpression : (expression i).Yields (parseExprStmt i) 2 3)
    (hblock : ∀ opening, i.tail.size < i.size →
      (block opening i.tail).Yields (parseBlock opening i.tail) 7 1) :
    (runStatement declaration expression block i).Yields (parseStmt i).toStep 7 (-1) := by
  have hlt : (parseStmt i).rest.size < i.size := (parseStmt i).progress hne
  obtain ⟨l, rest, hahead⟩ := List.exists_cons_of_ne_nil hne
  have htail := Input.size_tail_lt hahead
  unfold runStatement
  rw [hahead]
  -- the call is paid for by the first token of the statement
  refine Yields.noted (c := -2) ?_ .statement hlt
  split
  · rename_i hk
    rw [parseStmt_let hahead hk] at hlt ⊢
    exact (((hdeclaration htail).behind hahead).weigh hlt).mono (by decide)
  · split
    · rename_i hk
      rw [parseStmt_block hahead hk]
      exact (((hblock _ htail).before _).behind hahead).mono (by decide)
    · split
      · rename_i hk
        rw [parseStmt_brace hahead hk] at hlt ⊢
        exact ((Yields.ofStep _ 2).weigh hlt).mono (by decide)
      · rename_i hlet hopen hclose
        rw [parseStmt_expr hahead (by simp [startsStatement, hlet, hopen, hclose])] at hlt ⊢
        exact (hexpression.weigh hlt).mono (by decide)

theorem yields_turnBlock {opening : Span}
    (hstmt : i.ahead ≠ [] → (statement i).Yields (parseStmt i).toStep 7 (-1))
    (hagain : ∀ j : Input, j.size < i.size → (again j).Yields (parseBlock opening j) 7 1) :
    (turnBlock again statement opening i).Yields (parseBlock opening i) 7 1 := by
  unfold turnBlock
  split
  · rename_i hahead
    rw [parseBlock_nil opening hahead]
    exact .exit _ _ _
  · rename_i l rest hahead
    have hne : i.ahead ≠ [] := by simp [hahead]
    split
    · rename_i hk
      rw [parseBlock_close opening hahead hk]
      exact .exit _ _ _
    · rename_i hk
      have hmore : parseBlock opening i =
          (parseStmt i).toStep.bind fun _ j _ => parseBlock opening j :=
        (parseBlock_more opening hahead hk).trans (stmt_bind (parseBlock opening)).symm
      rw [hmore]
      exact (hstmt hne).loop (by decide) (by decide) ((parseStmt i).progress hne) _ hagain

theorem yields_turnSource
    (hstmt : i.ahead ≠ [] → (statement i).Yields (parseStmt i).toStep 7 (-1))
    (hagain : ∀ j : Input, j.size < i.size → (again j).Yields (readSource j) 7 1) :
    (turnSource again statement i).Yields (readSource i) 7 1 := by
  unfold turnSource
  split
  · rename_i hahead
    rw [readSource_nil hahead]
    exact .exit _ _ _
  · rename_i l rest hahead
    have hne : i.ahead ≠ [] := by simp [hahead]
    have hmore : readSource i = (parseStmt i).toStep.bind fun _ j _ => readSource j :=
      (readSource_more hne).trans (stmt_bind readSource).symm
    rw [hmore]
    exact (hstmt hne).loop (by decide) (by decide) ((parseStmt i).progress hne) _ hagain

end Functions

/-! ### The budget is enough -/

/-- A budget is enough wherever it has eight calls for each token ahead, and some more for the calls
that are made before a token is taken. -/
structure Enough (n : Nat) : Prop where
  /-- For skipping. -/
  skip (i : Input) (hn : 8 * i.size < n) : (meter n .skip i).Yields (skipStatement i) 2 1
  /-- For a run of invalid tokens. -/
  invalids (covered : Span) (i : Input) (hn : 8 * i.size < n) :
    (meter n (.invalids covered) i).Yields (parseInvalid covered i) 2 1
  /-- For operands with operators between them. -/
  binary (p : Precedence) (i : Input) (hn : 8 * i.size + 3 + p.rank < n) :
    (meter n (.binary p) i).Yields (parseBinary p i) 2 (p.rank + 1)
  /-- For the operators of a level. -/
  operators (p : Precedence) (i : Input) (hn : 8 * i.size + 2 + p.rank < n) :
    (meter n (.operators p) i).Yields (parseBinaryTail p i) 2 1
  /-- For an operand with unary operators. -/
  unary (i : Input) (hn : 8 * i.size + 2 < n) : (meter n .unary i).Yields (parseUnary i) 2 0
  /-- For an operand. -/
  operand (i : Input) (hn : 8 * i.size + 1 < n) :
    (meter n .operand i).Yields (parseOperand i) 2 0
  /-- For an index. -/
  index (i : Input) (hn : 8 * i.size < n) : (meter n .index i).Yields (parseIndex i) 2 0
  /-- For a declaration. -/
  declaration (i : Input) (hn : 8 * i.size + 1 < n) :
    (meter n .declaration i).Yields (parseLet i) 2 1
  /-- For an expression statement. -/
  expression (i : Input) (hn : 8 * i.size + 5 < n) :
    (meter n .expression i).Yields (parseExprStmt i) 2 3
  /-- For a statement. Its first token has a turn left to pay for. -/
  statement (i : Input) (hne : i.ahead ≠ []) (hn : 8 * i.size + 6 < n) :
    (meter n .statement i).Yields (parseStmt i).toStep 7 (-1)
  /-- For the statements of a block. -/
  block (opening : Span) (i : Input) (hn : 8 * i.size + 7 < n) :
    (meter n (.block opening) i).Yields (parseBlock opening i) 7 1
  /-- For the statements of a source. -/
  source (i : Input) (hn : 8 * i.size + 7 < n) : (meter n .source i).Yields (readSource i) 7 1

/-- A budget of a call for each token is enough for a type. -/
theorem yields_meterType (hn : i.size < n) : (meterType n i).Yields (parseType i) 2 0 := by
  induction n generalizing i with
  | zero => exact absurd hn (Nat.not_lt_zero _)
  | succ n ih => exact yields_runType fun j hj => ih (by omega)

/-- Such a budget is enough for an expression. -/
theorem Enough.expr (h : Enough n) (i : Input) (hn : 8 * i.size + 4 < n) :
    (meter n (.binary .sum) i).Yields (parseExpr i) 2 2 :=
  h.binary .sum i hn

/-- Such a budget is enough for what stands between operators. -/
theorem Enough.next (h : Enough n) (p : Precedence) (i : Input)
    (hn : 8 * i.size + 2 + p.rank < n) : (meter n p.site i).Yields (parseNext p i) 2 p.rank := by
  cases p with
  | sum =>
    rw [parseNext]
    exact h.binary .product i hn
  | product =>
    rw [parseNext]
    exact h.unary i hn

/-- One call more: what is called has a token less ahead, or comes later in the order of calls. -/
theorem Enough.succ (h : Enough n) : Enough (n + 1) where
  skip i hn := yields_turnSkip fun j hj => h.skip j (by omega)
  invalids covered i hn := yields_turnInvalids (fun _ j hj => h.invalids _ j (by omega)) covered
  binary p i hn := yields_runLevel p (h.next p i (by omega)) fun j hj =>
    h.operators p j (by omega)
  operators p i hn := yields_turnOperators p
    (fun htail => (h.next p i.tail (by omega)).mono (Int.ofNat_le.mpr p.rank_le))
    fun j hj => h.operators p j (by omega)
  unary i hn := yields_runUnary (fun htail => h.unary i.tail (by omega)) (h.operand i (by omega))
  operand i hn := yields_runOperand (fun htail => h.expr i.tail (by omega))
    (fun htail => h.index i.tail (by omega)) fun _ htail => h.invalids _ i.tail (by omega)
  index i hn := yields_runIndex fun htail => h.expr i.tail (by omega)
  declaration i hn := yields_runDeclaration (fun j hj => h.skip j (by omega))
    fun j hj => yields_meterType (by omega)
  expression i hn := yields_runExpression (fun j hj => h.skip j (by omega)) (h.expr i (by omega))
  statement i hne hn := yields_runStatement hne (fun htail => h.declaration i.tail (by omega))
    (h.expression i (by omega)) fun _ htail => h.block _ i.tail (by omega)
  block opening i hn := yields_turnBlock (fun hne => h.statement i hne (by omega))
    fun j hj => h.block opening j (by omega)
  source i hn := yields_turnSource (fun hne => h.statement i hne (by omega))
    fun j hj => h.source j (by omega)

/-- Every budget is enough wherever it has eight calls for each token ahead. -/
theorem enough (n : Nat) : Enough n := by
  induction n with
  | zero => constructor <;> exact fun _ => by omega
  | succ n ih => exact ih.succ

/-- A whole source is read on a budget. All turns progress, and there are not many. -/
theorem exists_turns (hn : 8 * i.size + 7 < n) :
    ∃ log, meter n .source i = some (readSource i, log) ∧ (∀ t ∈ log, t.Progresses) ∧
      log.length ≤ 7 * i.size + 1 := by
  obtain ⟨log, hmeter, hlog, hcost⟩ := (enough n).source i hn
  exact ⟨log, hmeter, hlog, by omega⟩

end ThreeAddress.Parse
