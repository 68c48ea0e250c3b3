import ThreeAddress.Proofs.Parse.Completeness
import ThreeAddress.Proofs.Parse.Looking
import ThreeAddress.Proofs.Parse.Stack

/-!
# The statements of a source

The statements of a source are read one after another, those of a block behind its opening brace.
A statement is read with its first token still to be looked at, so everything that comes up about
its tokens comes up while it is read. An expression statement is then either finished or given up,
and before that nothing comes up but what belongs to its expression.

## Main definitions

* `Reaches` : reading has come to the start of a statement.
* `Event.isInner` : an event that comes up while an expression is read.

## Main results

* `Reaches.exists_after` : the events of the statement that was reached are among those of the
  source, right behind the events before it.
* `Reaches.looks_append` : the tokens looked at before are those in front of the statement.
* `Reaches.balanced` : there is no operand in front of a statement.
* `parseExprStmt_of_some`, `parseExprStmt_of_none` : an expression statement is finished, or given
  up.
* `declares_parseLet` : a declaration whose type is derived is declared.
-/

namespace ThreeAddress.Parse

variable {i j : Input} {block : Option Span} {es : List Event} {l : Lexeme} {rest : List Lexeme}

/-! ### Fresh inputs -/

/-- A token that has been looked at and not taken is a closing brace. -/
def Input.Fresh (i : Input) : Prop :=
  i.looked = true → i.kind = .rightBrace ∨ i.ahead = []

theorem Input.fresh_tail (i : Input) : i.tail.Fresh := by
  unfold Input.tail
  split
  · rename_i h
    exact fun _ => .inr h
  · exact fun hlooked => absurd hlooked Bool.false_ne_true

namespace Step

variable {α β : Type}

/-- Behind a step with a value the next token has not been looked at, unless it is a closing
brace. -/
def Freshens (s : Step α i) : Prop :=
  s.value ≠ none → s.rest.Fresh

theorem freshens_expect (i : Input) (k : TokenKind) (code : Code) (message : Bytes)
    (notes : List Note) : (Step.expect i k code message notes).Freshens := by
  unfold Step.expect
  split
  · exact fun _ => i.fresh_tail
  · exact fun hvalue => absurd rfl hvalue

theorem Freshens.ofBind {s : Step α i} {next : α → (j : Input) → j.ahead <:+ i.ahead → Step β j}
    (hnext : ∀ a j h, (next a j h).Freshens) : (s.bind next).Freshens := by
  intro hvalue
  obtain ⟨b, hb⟩ := Option.ne_none_iff_exists'.mp hvalue
  obtain ⟨a, -, hv, hrest⟩ := exists_of_bind hb
  rw [hrest]
  exact hnext a _ _ (by simp [hv])

theorem Freshens.ofYield {s : Step α i} (hs : s.Freshens) (event : α → Event) (value : β) :
    (s.yield event value).Freshens := by
  intro hvalue
  obtain ⟨b, hb⟩ := Option.ne_none_iff_exists'.mp hvalue
  obtain ⟨a, ha, hrest⟩ := exists_of_yield hb
  rw [hrest]
  exact hs (by simp [ha])

end Step

open Step (Freshens)

theorem fresh_skipStatement (i : Input) : (skipStatement i).rest.Fresh := by
  induction i using skipStatement_induction with
  | stop i h =>
    rw [skipStatement_end h]
    exact fun _ => h
  | semicolon i l rest h hk =>
    rw [skipStatement_semicolon h hk]
    exact i.fresh_tail
  | more i l rest h hs hb ih =>
    rw [skipStatement_more h hs hb]
    exact ih

theorem fresh_orResync {α : Type} {s : Step α i} (hs : s.Freshens) : s.orResync.rest.Fresh := by
  unfold Step.orResync
  split
  · rename_i a ha
    exact hs (by simp [ha])
  · exact fresh_skipStatement s.rest

theorem fresh_parseLet (i : Input) : (parseLet i).rest.Fresh := by
  refine fresh_orResync (Freshens.ofBind fun name j _ => Freshens.ofBind fun _ k _ => ?_)
  exact Freshens.ofBind fun _ l _ => Step.freshens_expect _ _ _ _ _

theorem fresh_parseExprStmt (i : Input) : (parseExprStmt i).rest.Fresh :=
  fresh_orResync ((Freshens.ofBind fun _ _ _ => Step.freshens_expect _ _ _ _ _).ofYield _ _)

/-- Behind a statement the next token has not been looked at, unless it is a closing brace. -/
theorem fresh_statements :
    (∀ i, (parseStmt i).rest.Fresh) ∧ ∀ opening i, (parseBlock opening i).rest.Fresh := by
  apply parseStmt_induction
  case nil =>
    intro i h
    rw [parseStmt_nil h]
    exact fun _ => .inr h
  case declaration =>
    intro i l rest h hk
    rw [parseStmt_let h hk]
    exact fresh_parseLet i.tail
  case inner =>
    intro i l rest h hk hblock
    rw [parseStmt_block h hk]
    exact hblock
  case brace =>
    intro i l rest h hk
    rw [parseStmt_brace h hk]
    exact i.fresh_tail
  case expr =>
    intro i l rest h hk
    rw [parseStmt_expr h hk]
    exact fresh_parseExprStmt i
  case unclosed =>
    intro opening i h
    rw [parseBlock_nil opening h]
    have hahead := (unclosedBlock opening i).suffix
    rw [h] at hahead
    exact fun _ => .inr (List.suffix_nil.mp hahead)
  case close =>
    intro opening i l rest h hk
    rw [parseBlock_close opening h hk]
    exact i.fresh_tail
  case more =>
    intro opening i l rest h hk hstmt hblock
    rw [parseBlock_more opening h hk]
    exact hblock

/-! ### Reaching a statement -/

/-- Reading the statements from an input on has come to the start of a statement, or to the end of
a block or of the source. The events before are given, and the opening brace of the innermost
block. -/
inductive Reaches (i : Input) : Option Span → List Event → Input → Prop
  | start : Reaches i none [] i
  | next {block : Option Span} {es : List Event} {j : Input} (h : Reaches i block es j)
      (hne : j.ahead ≠ []) (hk : block = none ∨ j.kind ≠ .rightBrace) :
      Reaches i block (es ++ (parseStmt j).events) (parseStmt j).rest
  | enter {block : Option Span} {es : List Event} {j : Input} {l : Lexeme} {rest : List Lexeme}
      (h : Reaches i block es j) (hahead : j.ahead = l :: rest) (hk : l.token.kind = .leftBrace) :
      Reaches i (some l.token.span) (es ++ (j.lookEvents ++ [.openBlock])) j.tail

/-- The events of the statements ahead, up to the end of the block or of the source. -/
def eventsAhead : Option Span → Input → List Event
  | none, j => parseProgram j
  | some opening, j => (parseBlock opening j).events

/-- The first statement ahead comes first. -/
theorem eventsAhead_eq (hne : j.ahead ≠ []) (hk : block = none ∨ j.kind ≠ .rightBrace) :
    eventsAhead block j = (parseStmt j).events ++ eventsAhead block (parseStmt j).rest := by
  obtain ⟨l, rest, hahead⟩ := List.exists_cons_of_ne_nil hne
  cases block with
  | none => exact parseProgram_more hahead
  | some opening =>
    rw [Input.kind_of_ahead hahead] at hk
    rw [eventsAhead, parseBlock_more opening hahead (hk.resolve_left (by simp))]
    rfl

namespace Reaches

theorem suffix (h : Reaches i block es j) : j.ahead <:+ i.ahead := by
  induction h with
  | start => exact List.suffix_refl _
  | @next _ _ j _ _ _ ih => exact (parseStmt j).suffix.trans ih
  | @enter _ _ j _ _ _ _ _ ih => exact (Input.tail_suffix j).trans ih

/-- The events ahead follow those before. -/
theorem exists_after (h : Reaches i block es j) :
    ∃ after, parseProgram i = es ++ eventsAhead block j ++ after := by
  induction h with
  | start => exact ⟨[], by simp [eventsAhead]⟩
  | next _ hne hk ih =>
    obtain ⟨after, hafter⟩ := ih
    exact ⟨after, by rw [hafter, eventsAhead_eq hne hk]; simp⟩
  | @enter block es j l rest _ hahead hk ih =>
    obtain ⟨after, hafter⟩ := ih
    have hne : j.ahead ≠ [] := by simp [hahead]
    have hkind : j.kind ≠ .rightBrace := by
      rw [Input.kind_of_ahead hahead, hk]
      decide
    rw [eventsAhead_eq hne (.inr hkind), parseStmt_block hahead hk] at hafter
    exact ⟨eventsAhead block (parseStmt j).rest ++ after, by
      rw [hafter, ← parseStmt_block hahead hk]
      simp [eventsAhead, Step.behind, Step.after, parseStmt_block hahead hk]⟩

theorem balanced (h : Reaches i block es j) : Balanced es 0 0 := by
  induction h with
  | start => exact .nil 0
  | next _ _ _ ih => exact ih.append (balanced_statements.1 _)
  | @enter _ _ j _ _ _ _ _ ih =>
    exact ih.append ((Balanced.lookEvents j 0).append (.single .openBlock))

/-- Tokens are looked at in order up to the statement. -/
theorem looks_unseen (h : Reaches i block es j) : looks es ++ j.unseen = i.unseen := by
  induction h with
  | start => rfl
  | @next _ _ j _ _ _ ih =>
    have hstmt : looks (parseStmt j).events ++ (parseStmt j).rest.unseen = j.unseen :=
      looks_statements.1 j
    rw [looks_append, List.append_assoc, hstmt, ih]
  | @enter _ _ j _ _ _ _ _ ih =>
    have htail : looks (j.lookEvents ++ [Event.openBlock]) ++ j.tail.unseen = j.unseen := by
      simpa [Event.lexeme?] using looks_tail j
    rw [looks_append, List.append_assoc, htail, ih]

theorem fresh (h : Reaches i block es j) (hi : i.Fresh) : j.Fresh := by
  induction h with
  | start => exact hi
  | next _ _ _ _ => exact fresh_statements.1 _
  | enter _ _ _ _ => exact Input.fresh_tail _

/-- The tokens looked at before a statement are those in front of it. -/
theorem looks_append (h : Reaches i block es j) (hi : i.looked = false) (hne : j.ahead ≠ [])
    (hk : j.kind ≠ .rightBrace) : looks es ++ j.ahead = i.ahead := by
  have hj : j.looked = false := Bool.eq_false_iff.mpr fun hlooked =>
    (h.fresh (by simp [Input.Fresh, hi]) hlooked).elim hk hne
  have hunseen := h.looks_unseen
  rwa [Input.unseen, Input.unseen, hi, hj, if_neg Bool.false_ne_true,
    if_neg Bool.false_ne_true] at hunseen

end Reaches

/-! ### Expression statements -/

/-- Tests for an event that can come up while an expression is read. -/
def Event.isInner : Event → Bool
  | .openBlock | .closeBlock | .declare _ _ | .finish | .abandon => false
  | _ => true

/-- All events of a step can come up while an expression is read. -/
def Step.Inner {α : Type} {i : Input} (s : Step α i) : Prop :=
  ∀ e ∈ s.events, e.isInner = true

theorem isInner_lookEvents (i : Input) : ∀ e ∈ i.lookEvents, e.isInner = true := by
  unfold Input.lookEvents
  split
  · split
    · simp
    · simp [Event.isInner]
  · simp

theorem Event.isInner_of_isCombining {e : Event} (h : e.isCombining = true) :
    e.isInner = true := by
  cases e with
  | binary | unary | group | index => rfl
  | _ => cases h

theorem forall_inner_append_singleton {es : List Event} (hes : ∀ e ∈ es, e.isInner = true)
    {e : Event} (he : e.isInner = true) : ∀ e' ∈ es ++ [e], e'.isInner = true :=
  List.forall_mem_append.mpr ⟨hes, List.forall_mem_singleton.mpr he⟩

theorem kept_inner : Step.Kept @Step.Inner where
  look _ _ := isInner_lookEvents _
  invalid _ _ := forall_inner_append_singleton (isInner_lookEvents _) rfl
  skip _ _ hs := List.forall_mem_append.mpr ⟨isInner_lookEvents _, hs⟩
  take _ _ := List.forall_mem_append.mpr ⟨isInner_lookEvents _, List.forall_mem_nil _⟩
  literal _ _ := forall_inner_append_singleton (isInner_lookEvents _) rfl
  name _ hs := List.forall_mem_cons.mpr ⟨rfl, hs⟩
  complain _ _ _ := forall_inner_append_singleton (isInner_lookEvents _) rfl
  behind _ hs := List.forall_mem_append.mpr ⟨isInner_lookEvents _, hs⟩
  bind hs hnext := by
    unfold Step.bind
    split
    · exact List.forall_mem_append.mpr ⟨hs, hnext _ _ _⟩
    · exact hs
  yield event hevent value hs := by
    unfold Step.yield
    split
    · exact forall_inner_append_singleton hs (Event.isInner_of_isCombining (hevent _))
    · exact hs

theorem inner_expect (i : Input) (k : TokenKind) (code : Code) (message : Bytes)
    (notes : List Note) : (Step.expect i k code message notes).Inner := by
  unfold Step.expect
  split
  · exact List.forall_mem_append.mpr ⟨isInner_lookEvents i, List.forall_mem_nil _⟩
  · exact forall_inner_append_singleton (isInner_lookEvents i) rfl

theorem inner_parseExprBody (i : Input) : (parseExprBody i).Inner :=
  kept_inner.bind (kept_inner.expression i) fun _ _ _ => inner_expect _ _ _ _ _

theorem inner_parseType (i : Input) : (parseType i).Inner :=
  kept_inner.type (fun _ => List.forall_mem_nil _)
    (fun _ => List.forall_mem_singleton.mpr rfl) i

theorem inner_skipStatement (i : Input) : (skipStatement i).Inner := by
  induction i using skipStatement_induction with
  | stop i h =>
    rw [skipStatement_end h]
    exact isInner_lookEvents i
  | semicolon i l rest h hk =>
    rw [skipStatement_semicolon h hk]
    exact List.forall_mem_append.mpr ⟨isInner_lookEvents i, List.forall_mem_nil _⟩
  | more i l rest h hs hb ih =>
    rw [skipStatement_more h hs hb]
    exact List.forall_mem_append.mpr ⟨isInner_lookEvents i, ih⟩

/-- An expression with its semicolon is finished. -/
theorem parseExprStmt_of_some {t : Token} (h : (parseExprBody i).value = some t) :
    (parseExprStmt i).events = (parseExprBody i).events ++ [Event.finish] := by
  rw [parseExprStmt]
  generalize parseExprBody i = s at h ⊢
  obtain ⟨events, value, rest, suffix⟩ := s
  obtain rfl : value = some t := h
  rfl

/-- Without its semicolon an expression is given up. -/
theorem parseExprStmt_of_none (h : (parseExprBody i).value = none) :
    (parseExprStmt i).events = (parseExprBody i).events ++
      (.abandon :: (skipStatement (parseExprBody i).rest).events) := by
  rw [parseExprStmt]
  generalize parseExprBody i = s at h ⊢
  obtain ⟨events, value, rest, suffix⟩ := s
  obtain rfl : value = none := h
  rfl

/-! ### Declarations -/

/-- A step declares a name. In front of that nothing comes up but what can while an expression is
read. -/
def Step.Declares {α : Type} {i : Input} (s : Step α i) (name : Token) (type : DataType) : Prop :=
  ∃ front back, s.events = front ++ .declare name type :: back ∧ ∀ e ∈ front, e.isInner = true

namespace Step.Declares

variable {α β : Type} {i : Input} {name : Token} {type : DataType}

/-- Going on behind what is declared. -/
theorem bind {s : Step α i} (hs : s.Declares name type)
    (next : α → (j : Input) → j.ahead <:+ i.ahead → Step β j) :
    (s.bind next).Declares name type := by
  obtain ⟨front, back, hevents, hfront⟩ := hs
  unfold Step.bind
  split
  · rename_i a _
    exact ⟨front, back ++ (next a s.rest s.suffix).events, by simp [Step.after, hevents], hfront⟩
  · exact ⟨front, back, hevents, hfront⟩

/-- Declaring behind what is read. -/
theorem ofBind {s : Step α i} {a : α} {es : List Event} {us : List Token} (hs : s.Reads a es us)
    (hinner : s.Inner) {next : α → (j : Input) → j.ahead <:+ i.ahead → Step β j}
    (hnext : ∀ j h, j.tokens = us → (next a j h).Declares name type) :
    (s.bind next).Declares name type := by
  obtain ⟨front, back, hevents, hfront⟩ := hnext s.rest s.suffix hs.rest
  rw [bind_of_some hs.value]
  exact ⟨s.events ++ front, back, by simp [Step.after, hevents],
    List.forall_mem_append.mpr ⟨hinner, hfront⟩⟩

theorem ofYield {s : Step DataType i} {es : List Event} {us : List Token} (hs : s.Reads type es us)
    (hinner : s.Inner) (value : β) : (s.yield (.declare name) value).Declares name type := by
  unfold Step.yield
  simp only [hs.value]
  exact ⟨s.events, [], rfl, hinner⟩

theorem orResync {s : Step α i} (hs : s.Declares name type) : s.orResync.Declares name type := by
  obtain ⟨front, back, hevents, hfront⟩ := hs
  unfold Step.orResync
  split
  · exact ⟨front, back, hevents, hfront⟩
  · exact ⟨front, back ++ (resync s.rest).events, by simp [Step.after, hevents], hfront⟩

end Step.Declares

open Step (Declares)

/-- A declaration whose type is derived is declared, with a semicolon behind it or without. -/
theorem declares_parseLet {name colon : Token} {ts us : List Token} {type : TypeTree}
    (hname : name.kind = .identifier) (hcolon : colon.kind = .colon) (htype : IsType ts type)
    (hi : i.tokens = name :: colon :: ts ++ us) : (parseLet i).Declares name type.denote := by
  refine Declares.orResync (Declares.ofBind (.ofExpect hi hname) (inner_expect _ _ _ _ _) ?_)
  intro j _ hj
  refine Declares.ofBind (.ofExpect hj hcolon) (inner_expect _ _ _ _ _) fun k _ hk => ?_
  exact (Declares.ofYield (reads_parseType htype hk) (inner_parseType k) ()).bind _

end ThreeAddress.Parse
