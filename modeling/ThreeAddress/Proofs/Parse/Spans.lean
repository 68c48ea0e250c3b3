import ThreeAddress.Proofs.Lexer.Spans
import ThreeAddress.Proofs.Parse.Combinators

/-!
# The places that parsing tells of

All places in the events of parsing are made of the places of the tokens: parsing takes such a place
as it is, the smallest one around two of them, or the point behind one. A condition that these
ways keep therefore holds of all places in the events as soon as it holds of those of the tokens.

## Main definitions

* `Span.Closed` : a condition that making places keeps.
* `Parse.Input.Within`, `Parse.Event.Within`, `Parse.Step.Within` : it holds of all places.

## Main results

* `Span.closed_inside` : lying in a source is such a condition.
* `Parse.graded_within`, `Parse.within_statements` : reading expressions and statements.
* `Parse.within_parseProgram` : the events of a source.
-/

namespace ThreeAddress

/-- A condition on places that holds of the smallest place around two and of the point behind
one. -/
structure Span.Closed (p : Span → Prop) : Prop where
  /-- Around two places. -/
  cover {s t : Span} (hs : p s) (ht : p t) : p (s.cover t)
  /-- Behind a place. -/
  behind {s : Span} (hs : p s) : p ⟨s.file, s.stop, s.stop⟩

/-- The smallest span around two spans in a source lies in it. -/
theorem Span.closed_inside (file : FileId) (content : Bytes) :
    Span.Closed (Inside file content) where
  cover {s t} hs ht := by
    rw [Span.cover, if_pos (hs.file_eq.trans ht.file_eq.symm)]
    have hstart : (if s.start ≤ t.start then s.start else t.start) ≤ s.start := by
      split
      · exact UInt32.le_refl _
      · rename_i h
        exact UInt32.le_of_lt (UInt32.not_le.mp h)
    have hstop : s.stop ≤ (if s.stop ≤ t.stop then t.stop else s.stop) := by
      split
      · assumption
      · exact UInt32.le_refl _
    refine ⟨hs.file_eq, UInt32.le_trans hstart (UInt32.le_trans hs.ordered hstop), ?_⟩
    dsimp only
    split
    · exact ht.inside
    · exact hs.inside
  behind hs := ⟨hs.file_eq, UInt32.le_refl _, hs.inside⟩

namespace Parse

/-- All places in an event meet a condition. -/
inductive Event.Within (p : Span → Prop) : Event → Prop
  | look {l : Lexeme} (h : l.Within p) : Within p (.look l)
  | complain {d : Diagnostic} (h : d.Within p) : Within p (.complain d)
  | openBlock : Within p .openBlock
  | closeBlock : Within p .closeBlock
  | declare {name : Token} {type : DataType} (h : p name.span) : Within p (.declare name type)
  | name {t : Token} (h : p t.span) : Within p (.name t)
  | literal {t : Token} (h : p t.span) : Within p (.literal t)
  | invalid {span : Span} (h : p span) : Within p (.invalid span)
  | binary {op : Token} (h : p op.span) : Within p (.binary op)
  | unary {op : Token} (h : p op.span) : Within p (.unary op)
  | group {opening closing : Span} (ho : p opening) (hc : p closing) :
    Within p (.group opening closing)
  | index {closing : Span} (h : p closing) : Within p (.index closing)
  | finish : Within p .finish
  | abandon : Within p .abandon

/-- All places that an input can tell of meet a condition. -/
structure Input.Within (p : Span → Prop) (i : Input) : Prop where
  /-- Those of the tokens ahead. -/
  ahead : ∀ l ∈ i.ahead, l.Within p
  /-- The end of the file. -/
  ending : p i.ending
  /-- That of the last token taken, if there was one. -/
  last : 0 < i.last.stop → p i.last

variable {p : Span → Prop}

namespace Input.Within

variable {i : Input} {l : Lexeme} {rest : List Lexeme}

theorem token (h : i.Within p) (hahead : i.ahead = l :: rest) : p l.token.span :=
  (h.ahead l (by simp [hahead])).1

theorem head (h : i.Within p) : p i.head.span := by
  cases hahead : i.ahead with
  | nil =>
    rw [Input.head, hahead]
    exact h.ending
  | cons l rest =>
    rw [Input.head, hahead]
    exact h.token hahead

theorem look (h : i.Within p) : i.look.Within p :=
  ⟨h.ahead, h.ending, h.last⟩

theorem tail (h : i.Within p) : i.tail.Within p := by
  unfold Input.tail
  split
  · exact h
  · rename_i l rest hahead
    exact ⟨fun m hm => h.ahead m (by simp [hahead, hm]), h.ending, fun _ => h.token hahead⟩

theorem lookEvents (h : i.Within p) : ∀ e ∈ i.lookEvents, e.Within p := by
  unfold Input.lookEvents
  split
  · rename_i l rest hahead
    split
    · exact List.forall_mem_nil _
    · exact List.forall_mem_singleton.mpr (.look (h.ahead l (by simp [hahead])))
  · exact List.forall_mem_nil _

/-- All places of an input are those of the lexemes it is made of. -/
theorem ofLexemes {ls : List Lexeme} (hls : ∀ l ∈ ls, l.Within p) {stop : Lexeme}
    (hmem : stop ∈ ls) (hstop : stop.token.kind = .endOfFile) : (ofLexemes ls).Within p where
  ahead l hl := hls l ((List.takeWhile_prefix _).subset hl)
  ending := by
    obtain ⟨l, hl⟩ := Option.isSome_iff_exists.mp (List.find?_isSome.mpr
      ⟨stop, hmem, beq_iff_eq.mpr hstop⟩ : (ls.find? fun l => l.token.kind == .endOfFile).isSome)
    rw [Input.ofLexemes, hl]
    exact (hls l (List.mem_of_find?_eq_some hl)).1
  last h := absurd h (UInt32.lt_irrefl 0)

/-- The place of a complaint about the next token. -/
theorem complaintSpan (hp : Span.Closed p) (h : i.Within p) : p i.complaintSpan := by
  unfold Input.complaintSpan
  split
  · rename_i l rest hahead
    exact h.token hahead
  · split
    · rename_i hlast
      exact hp.behind (h.last hlast)
    · exact h.ending

end Input.Within

namespace Step

variable {α β : Type} {i j : Input} {q : α → Prop} {r : β → Prop}

/-- From an input whose places meet a condition, so do those of a step; its value meets a condition
of its own. -/
def Within (p : Span → Prop) (q : α → Prop) (s : Step α i) : Prop :=
  i.Within p → (∀ e ∈ s.events, e.Within p) ∧ s.rest.Within p ∧ ∀ a, s.value = some a → q a

namespace Within

theorem ofAfter {s : Step α j} (hs : s.Within p q) {es : List Event}
    (hes : i.Within p → (∀ e ∈ es, e.Within p) ∧ j.Within p) (h : j.ahead <:+ i.ahead) :
    (s.after es h).Within p q := by
  intro hi
  obtain ⟨hes, hj⟩ := hes hi
  obtain ⟨hevents, hrest, hvalue⟩ := hs hj
  exact ⟨List.forall_mem_append.mpr ⟨hes, hevents⟩, hrest, hvalue⟩

theorem ofBehind {s : Step α i.tail} (hs : s.Within p q) : s.behind.Within p q :=
  hs.ofAfter (fun hi => ⟨hi.lookEvents, hi.tail⟩) _

theorem ofBind {s : Step α i} (hs : s.Within p q)
    {next : α → (j : Input) → j.ahead <:+ i.ahead → Step β j}
    (hnext : ∀ a j h, q a → (next a j h).Within p r) : (s.bind next).Within p r := by
  intro hi
  obtain ⟨hevents, hrest, hvalue⟩ := hs hi
  unfold Step.bind
  split
  · rename_i a ha
    exact (hnext a s.rest s.suffix (hvalue a ha)).ofAfter (fun _ => ⟨hevents, hrest⟩) _ hi
  · exact ⟨hevents, hrest, nofun⟩

theorem ofYield {s : Step α i} (hs : s.Within p q) {event : α → Event}
    (hevent : i.Within p → ∀ a, q a → (event a).Within p) {value : β} (hr : r value) :
    (s.yield event value).Within p r := by
  intro hi
  obtain ⟨hevents, hrest, hvalue⟩ := hs hi
  unfold Step.yield
  split
  · rename_i a ha
    refine ⟨List.forall_mem_append.mpr ⟨hevents, List.forall_mem_singleton.mpr ?_⟩, hrest, ?_⟩
    · exact hevent hi a (hvalue a ha)
    · rintro _ ⟨⟩
      exact hr
  · exact ⟨hevents, hrest, nofun⟩

theorem ofRemark {a : α} (ha : q a) {es : List Event}
    (hes : i.Within p → ∀ e ∈ es, e.Within p) : (Step.remark es a : Step α i).Within p q := by
  refine fun hi => ⟨hes hi, hi, ?_⟩
  rintro _ ⟨⟩
  exact ha

theorem ofPure {a : α} (ha : q a) : (Step.pure a : Step α i).Within p q :=
  ofRemark ha fun _ => List.forall_mem_nil _

theorem ofLook {a : α} (ha : q a) {es : List Event} (hes : i.Within p → ∀ e ∈ es, e.Within p)
    (h : i.look.ahead <:+ i.ahead) :
    (⟨i.lookEvents ++ es, some a, i.look, h⟩ : Step α i).Within p q := by
  refine fun hi => ⟨List.forall_mem_append.mpr ⟨hi.lookEvents, hes hi⟩, hi.look, ?_⟩
  rintro _ ⟨⟩
  exact ha

theorem ofTake {a : α} (ha : i.Within p → q a) {es : List Event}
    (hes : i.Within p → ∀ e ∈ es, e.Within p) : (Step.take i a es).Within p q := by
  refine fun hi => ⟨List.forall_mem_append.mpr ⟨hi.lookEvents, hes hi⟩, hi.tail, ?_⟩
  rintro _ ⟨⟩
  exact ha hi

theorem ofComplain (hp : Span.Closed p) {code : Code} {message : Bytes} {notes : List Note}
    (hnotes : i.Within p → ∀ n ∈ notes, p n.span) :
    (Step.complain i code message notes : Step α i).Within p q := by
  refine fun hi => ⟨List.forall_mem_append.mpr ⟨hi.lookEvents, ?_⟩, hi.look, nofun⟩
  exact List.forall_mem_singleton.mpr (.complain ⟨hi.complaintSpan hp, hnotes hi⟩)

/-- A token that is expected is taken with its place. -/
theorem ofExpect (hp : Span.Closed p) {k : TokenKind} {code : Code} {message : Bytes}
    {notes : List Note} (hnotes : i.Within p → ∀ n ∈ notes, p n.span) :
    (Step.expect i k code message notes).Within p fun t => p t.span := by
  unfold Step.expect
  split
  · exact ofTake (q := fun t : Token => p t.span) Input.Within.head fun _ => List.forall_mem_nil _
  · exact ofComplain hp hnotes

/-- Less may be asked of the value. -/
theorem mono {s : Step α i} (hs : s.Within p q) {q' : α → Prop} (h : ∀ a, q a → q' a) :
    s.Within p q' := fun hi =>
  ⟨(hs hi).1, (hs hi).2.1, fun a ha => h a ((hs hi).2.2 a ha)⟩

end Within

end Step

open Step (Within)

/-! ### Expressions -/

theorem within_openedHere {span : Span} (h : p span) : ∀ n ∈ openedHere span, p n.span :=
  List.forall_mem_singleton.mpr h

theorem within_parseInvalid (hp : Span.Closed p) {span : Span} (i : Input) (hspan : p span) :
    (parseInvalid span i).Within p fun _ => True := by
  have hend {i : Input} {span : Span} (hk : i.kind ≠ .invalid) (hspan : p span) :
      (parseInvalid span i).Within p fun _ => True := by
    rw [parseInvalid_end span hk]
    exact .ofLook trivial (fun _ => List.forall_mem_singleton.mpr (.invalid hspan)) _
  induction span, i using parseInvalid.induct with
  | case1 span i l rest hahead hk ih =>
    rw [parseInvalid_more span hahead hk]
    intro hi
    exact (ih (hp.cover hspan (hi.token hahead))).ofBehind hi
  | case2 span i l rest hahead hk => exact hend (by rwa [Input.kind_of_ahead hahead]) hspan
  | case3 span i hahead => exact hend (by simp [Input.kind_of_nil hahead]) hspan

/-- Every alternative of the expression grammar keeps the condition. -/
theorem graded_within (hp : Span.Closed p) :
    Step.Graded fun _ _ {_ _} s => s.Within p fun _ => True where
  look {i} _ hlook := by
    have hstep : Step.Within p (fun _ => True) ⟨i.lookEvents ++ [], some (), i.look, hlook⟩ :=
      .ofLook trivial (fun _ => List.forall_mem_nil _) hlook
    rwa [List.append_nil] at hstep
  nothing _ := .ofComplain hp fun _ => List.forall_mem_nil _
  literal _ hahead _ :=
    .ofTake (fun _ => trivial) fun hi => List.forall_mem_singleton.mpr (.literal (hi.token hahead))
  name _ hahead _ hs hi :=
    (hs.ofAfter (fun htail => ⟨List.forall_mem_singleton.mpr (.name (hi.token hahead)), htail⟩)
      _).ofBehind hi
  invalid _ hahead _ hi := (within_parseInvalid hp _ (hi.token hahead)).ofBehind hi
  bind hs hnext := hs.ofBind fun a j h _ => hnext a j h
  operator _ hahead _ hs hnext hi :=
    ((hs.ofYield (r := fun _ => True) (fun _ _ _ => .binary (hi.token hahead)) trivial).ofBind
      fun a j h _ => hnext a j h).ofBehind hi
  unary _ hahead _ hs hi :=
    (hs.ofYield (fun _ _ _ => .unary (hi.token hahead)) trivial).ofBehind hi
  group _ hahead _ hs hi :=
    (hs.ofBind fun _ _ _ _ =>
      (Within.ofExpect hp fun _ => within_openedHere (hi.token hahead)).ofYield
        (fun _ _ ht => .group (hi.token hahead) ht) trivial).ofBehind hi
  index _ hahead _ hs hi :=
    (hs.ofBind fun _ _ _ _ =>
      (Within.ofExpect hp fun _ => within_openedHere (hi.token hahead)).ofYield
        (fun _ _ ht => .index ht) trivial).ofBehind hi

theorem within_parseExpr (hp : Span.Closed p) (i : Input) :
    (parseExpr i).Within p fun _ => True :=
  (graded_within hp).expression i 0

/-! ### Types -/

theorem within_parseSize (hp : Span.Closed p) (i : Input) :
    (parseSize i).Within p fun _ => True := by
  refine Within.ofBind (.ofExpect hp fun _ => List.forall_mem_nil _) fun size j _ hsize => ?_
  refine Within.ofBind (.ofExpect hp fun _ => List.forall_mem_nil _) fun _ k _ _ => ?_
  split
  · exact .ofPure trivial
  · exact .ofRemark trivial fun _ =>
      List.forall_mem_singleton.mpr (.complain (Diagnostic.within_ofError hsize))

theorem within_parseType (hp : Span.Closed p) (i : Input) :
    (parseType i).Within p fun _ => True := by
  induction i using parseType_induction with
  | none i hk =>
    rw [parseType_none hk]
    exact .ofComplain hp fun _ => List.forall_mem_nil _
  | array i l rest h hk ih =>
    rw [parseType_array h hk]
    exact ((within_parseSize hp i.tail).ofBind fun size j hj _ =>
      (ih j hj).ofBind fun elem _ _ _ => .ofPure trivial).ofBehind
  | scalar i l rest t h hk ht =>
    rw [parseType_scalar h hk ht]
    exact .ofTake (fun _ => trivial) fun _ => List.forall_mem_nil _
  | string i l rest h hk ht =>
    rw [parseType_string h hk ht]
    exact (Within.ofBind (.ofExpect hp fun _ => List.forall_mem_nil _) fun _ j _ _ =>
      (within_parseSize hp j).ofBind fun size _ _ _ => .ofPure trivial).ofBehind

/-! ### Statements -/

theorem within_skipStatement (i : Input) : (skipStatement i).Within p fun _ => True := by
  induction i using skipStatement_induction with
  | stop i h =>
    rw [skipStatement_end h]
    exact fun hi => ⟨hi.lookEvents, hi.look, fun _ _ => trivial⟩
  | semicolon i l rest h hk =>
    rw [skipStatement_semicolon h hk]
    exact .ofTake (fun _ => trivial) fun _ => List.forall_mem_nil _
  | more i l rest h hs hb ih =>
    rw [skipStatement_more h hs hb]
    exact ih.ofBehind

theorem Step.Within.ofOrResync {α : Type} {i : Input} {q : α → Prop} {s : Step α i}
    (hs : s.Within p q) : s.orResync.Within p fun _ => True := by
  intro hi
  obtain ⟨hevents, hrest, _⟩ := hs hi
  unfold Step.orResync
  split
  · exact ⟨hevents, hrest, fun _ _ => trivial⟩
  · have hskip : (resync s.rest).Within p fun _ => True :=
      (within_skipStatement s.rest).ofAfter
        (fun hrest => ⟨List.forall_mem_singleton.mpr .abandon, hrest⟩) _
    exact hskip.ofAfter (fun _ => ⟨hevents, hrest⟩) _ hi

theorem within_parseLet (hp : Span.Closed p) (i : Input) :
    (parseLet i).Within p fun _ => True := by
  refine Step.Within.ofOrResync (q := fun _ => True) ?_
  refine Within.ofBind (.ofExpect hp fun _ => List.forall_mem_nil _) fun name j _ hname => ?_
  refine Within.ofBind (.ofExpect hp fun _ => List.forall_mem_nil _) fun _ k _ _ => ?_
  have hdeclare : ((parseType k).yield (fun type => .declare name type) ()).Within p
      fun _ => True :=
    (within_parseType hp k).ofYield (fun _ _ _ => .declare hname) trivial
  exact hdeclare.ofBind fun _ l _ _ =>
    (Within.ofExpect hp fun _ => List.forall_mem_nil _).mono fun _ _ => trivial

theorem within_parseExprStmt (hp : Span.Closed p) (i : Input) :
    (parseExprStmt i).Within p fun _ => True := by
  have hbody : (parseExprBody i).Within p fun t => p t.span :=
    (within_parseExpr hp i).ofBind fun _ _ _ _ => .ofExpect hp fun _ => List.forall_mem_nil _
  exact (hbody.ofYield (r := fun _ => True) (fun _ _ _ => .finish) trivial).ofOrResync

theorem within_strayBrace (hp : Span.Closed p) (i : Input) :
    (strayBrace i).Within p fun _ => True := fun hi =>
  ⟨List.forall_mem_append.mpr ⟨hi.lookEvents, List.forall_mem_singleton.mpr
    (.complain (Diagnostic.within_ofError (hi.complaintSpan hp)))⟩, hi.tail, fun _ _ => trivial⟩

theorem within_unclosedBlock (hp : Span.Closed p) {opening : Span} (hopening : p opening)
    (i : Input) : (unclosedBlock opening i).Within p fun _ => True := by
  intro hi
  have hexpect : (Step.expect i .rightBrace .unclosedBrace (utf8 "expected '\x7d'")
      [⟨opening, utf8 "block opened here"⟩]).Within p fun t => p t.span :=
    .ofExpect hp fun _ => List.forall_mem_singleton.mpr hopening
  obtain ⟨hevents, hrest, _⟩ := hexpect hi
  exact ⟨List.forall_mem_append.mpr ⟨hevents, List.forall_mem_singleton.mpr .closeBlock⟩, hrest,
    fun _ _ => trivial⟩

/-- Reading a statement or a block keeps the condition; the block may complain about where it was
opened. -/
theorem within_statements (hp : Span.Closed p) :
    (∀ i, (parseStmt i).toStep.Within p fun _ => True) ∧
      ∀ opening i, p opening → (parseBlock opening i).Within p fun _ => True := by
  apply parseStmt_induction
  case nil =>
    intro i h
    rw [parseStmt_nil h]
    exact .ofPure trivial
  case declaration =>
    intro i l rest h hk
    rw [parseStmt_let h hk]
    exact (within_parseLet hp i.tail).ofBehind
  case inner =>
    intro i l rest h hk hblock hi
    rw [parseStmt_block h hk]
    exact ((hblock (hi.token h)).ofAfter
      (fun htail => ⟨List.forall_mem_singleton.mpr .openBlock, htail⟩) _).ofBehind hi
  case brace =>
    intro i l rest h hk
    rw [parseStmt_brace h hk]
    exact within_strayBrace hp i
  case expr =>
    intro i l rest h hk
    rw [parseStmt_expr h hk]
    exact within_parseExprStmt hp i
  case unclosed =>
    intro opening i h hopening
    rw [parseBlock_nil opening h]
    exact within_unclosedBlock hp hopening i
  case close =>
    intro opening i l rest h hk _
    rw [parseBlock_close opening h hk]
    exact .ofTake (fun _ => trivial) fun _ => List.forall_mem_singleton.mpr .closeBlock
  case more =>
    intro opening i l rest h hk hstmt hblock hopening
    rw [parseBlock_more opening h hk]
    intro hi
    obtain ⟨hevents, hrest, _⟩ := hstmt hi
    exact (hblock hopening).ofAfter (fun _ => ⟨hevents, hrest⟩) _ hi

/-- All places in the events of a source are made of those of its tokens. -/
theorem within_parseProgram (hp : Span.Closed p) {i : Input} (hi : i.Within p) :
    ∀ e ∈ parseProgram i, e.Within p := by
  induction i using parseProgram.induct with
  | case1 i h =>
    rw [parseProgram_nil h]
    exact List.forall_mem_nil _
  | case2 i l rest h s ih =>
    obtain ⟨hevents, hrest, _⟩ := (within_statements hp).1 i hi
    rw [parseProgram_more h]
    exact List.forall_mem_append.mpr ⟨hevents, ih hrest⟩

end Parse

end ThreeAddress
