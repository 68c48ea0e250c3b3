import ThreeAddress.Proofs.Analysis.Running
import ThreeAddress.Proofs.Parse.Spans

/-!
# The spans of reports

An analysis tells of the places of tokens, of those of its operands, and of nothing else. Operands
stand at tokens or around other operands. So what holds of the places of all tokens, and of places
made of them, holds of those of all reports. In particular, every report about a source lies in it,
with its notes.

## Main definitions

* `Analysis.State.Within` : all places in a state meet a condition.

## Main results

* `Analysis.within_act`, `Analysis.within_step` : an event keeps the condition.
* `Analysis.within_run` : the reports about a source lie in it.
-/

namespace ThreeAddress.Analysis

open Parse (Event Input parseProgram within_parseProgram)

/-- All places in a state meet a condition. -/
structure State.Within (p : Span → Prop) (s : State) : Prop where
  /-- Those of the operands. -/
  operands : ∀ o ∈ s.operands, p o.span
  /-- Those of the reports. -/
  reports : ∀ r ∈ s.reports, r.diagnostic.Within p

variable {p : Span → Prop} {limits : Limits} {s : State}

namespace State.Within

theorem report (h : s.Within p) {d : Diagnostic} (hd : d.Within p) :
    (s.report limits d).Within p := by
  refine ⟨by rw [operands_report]; exact h.operands, ?_⟩
  unfold State.report
  extract_lets
  split
  · exact h.reports
  · exact List.forall_mem_cons.mpr ⟨hd, h.reports⟩

theorem pushOperand (h : s.Within p) {x : Option Expr} {span : Span} (hspan : p span) :
    (s.pushOperand x span).Within p :=
  ⟨List.forall_mem_cons.mpr ⟨hspan, h.operands⟩, h.reports⟩

theorem withOperands (h : s.Within p) {os : List Operand} (hos : ∀ o ∈ os, p o.span) :
    ({ s with operands := os } : State).Within p :=
  ⟨hos, h.reports⟩

/-- An operand that is complained about. -/
theorem refuse (h : s.Within p) {code : Code} {span span' : Span} {message : Bytes}
    (hspan : p span) (hspan' : p span') :
    ((s.report limits (.ofError code span message)).pushOperand none span').Within p :=
  (h.report (Diagnostic.within_ofError hspan)).pushOperand hspan'

theorem pushBuilt (h : s.Within p) {span : Span} (hspan : p span)
    (x : Except BuildError Expr) : (s.pushBuilt limits span x).Within p := by
  cases x with
  | ok e => exact h.pushOperand hspan
  | error e => exact h.refuse hspan hspan

theorem tellLexeme (h : s.Within p) {l : Lexeme} (hl : l.Within p) :
    (s.tellLexeme l).Within p := by
  refine ⟨h.operands, List.forall_mem_append.mpr ⟨fun r hr => ?_, h.reports⟩⟩
  obtain ⟨d, hd, rfl⟩ := List.mem_map.mp (List.mem_reverse.mp hr)
  exact hl.2 d hd

theorem declare (h : s.Within p) {name : Token} (hname : p name.span) (type : DataType) :
    (s.declare limits name type).Within p := by
  have hwarned : (s.warned limits name).Within p := by
    unfold warned
    split
    · exact h.report ⟨hname, List.forall_mem_nil _⟩
    · exact h
  rw [declare_eq]
  unfold reserved
  split
  · exact hwarned.report (Diagnostic.within_ofError hname)
  · exact ⟨hwarned.operands, hwarned.reports⟩

theorem name (h : s.Within p) {t : Token} (ht : p t.span) : (s.name limits t).Within p := by
  unfold State.name
  split
  · exact h.pushOperand ht
  · exact h.refuse ht ht

theorem literal (h : s.Within p) {t : Token} (ht : p t.span) :
    (s.literal limits t).Within p := by
  unfold State.literal
  split
  · split
    · exact h.pushOperand ht
    · exact h.refuse ht ht
  · split
    · exact h.pushOperand ht
    · exact h.refuse ht ht
  · exact h.pushOperand ht
  · exact h.pushOperand ht

theorem binary (hp : Span.Closed p) (h : s.Within p) (op : Token) :
    (s.binary limits op).Within p := by
  unfold State.binary
  split
  · rename_i right left below hops
    have hall := h.operands
    rw [hops] at hall
    obtain ⟨hright, hall⟩ := List.forall_mem_cons.mp hall
    obtain ⟨hleft, hbelow⟩ := List.forall_mem_cons.mp hall
    dsimp only
    split
    · exact (h.withOperands hbelow).pushBuilt (hp.cover hleft hright) _
    · exact (h.withOperands hbelow).pushOperand (hp.cover hleft hright)
  · exact h

theorem unary (hp : Span.Closed p) (h : s.Within p) {op : Token} (hop : p op.span) :
    (s.unary limits op).Within p := by
  unfold State.unary
  split
  · rename_i inner below hops
    have hall := h.operands
    rw [hops] at hall
    obtain ⟨hinner, hbelow⟩ := List.forall_mem_cons.mp hall
    dsimp only
    split
    · exact (h.withOperands hbelow).pushBuilt (hp.cover hop hinner) _
    · exact (h.withOperands hbelow).pushOperand (hp.cover hop hinner)
  · exact h

theorem group (hp : Span.Closed p) (h : s.Within p) {opening closing : Span}
    (hopening : p opening) (hclosing : p closing) : (s.group opening closing).Within p := by
  unfold State.group
  split
  · rename_i inner below hops
    have hall := h.operands
    rw [hops] at hall
    exact h.withOperands (List.forall_mem_cons.mpr
      ⟨hp.cover hopening hclosing, (List.forall_mem_cons.mp hall).2⟩)
  · exact h

theorem index (hp : Span.Closed p) (h : s.Within p) {closing : Span} (hclosing : p closing) :
    (s.index limits closing).Within p := by
  unfold State.index
  split
  · rename_i place array below hops
    have hall := h.operands
    rw [hops] at hall
    obtain ⟨harray, hbelow⟩ := List.forall_mem_cons.mp (List.forall_mem_cons.mp hall).2
    have hrest := h.withOperands hbelow
    dsimp only
    split
    · split
      · exact hrest.pushOperand (hp.cover harray hclosing)
      · exact hrest.refuse harray (hp.cover harray hclosing)
    · exact hrest.pushOperand (hp.cover harray hclosing)
  · exact h

/-- Lowering tells nothing. -/
theorem finish (h : s.Within p) : s.finish.Within p := by
  have hempty : ({ s with operands := [] } : State).Within p :=
    h.withOperands (List.forall_mem_nil _)
  unfold State.finish
  split
  · unfold State.lower
    dsimp only
    split
    · exact ⟨hempty.operands, hempty.reports⟩
    · exact ⟨hempty.operands, hempty.reports⟩
  · exact hempty

end State.Within

/-- An event whose places meet a condition keeps it. -/
theorem within_act (hp : Span.Closed p) (h : s.Within p) {e : Event} (he : e.Within p) :
    (act limits s e).Within p := by
  cases he with
  | look hl => exact h.tellLexeme hl
  | complain hd => exact h.report hd
  | openBlock => exact ⟨h.operands, h.reports⟩
  | closeBlock => exact ⟨h.operands, h.reports⟩
  | declare hname => exact h.declare hname _
  | name ht => exact h.name ht
  | literal ht => exact h.literal ht
  | invalid hspan => exact h.pushOperand hspan
  | binary _ => exact h.binary hp _
  | unary hop => exact h.unary hp hop
  | group hopening hclosing => exact h.group hp hopening hclosing
  | index hclosing => exact h.index hp hclosing
  | finish => exact h.finish
  | abandon => exact h.withOperands (List.forall_mem_nil _)

/-- So does an event after a failure. -/
theorem within_step (hp : Span.Closed p) (h : s.Within p) {e : Event} (he : e.Within p) :
    (step limits s e).Within p := by
  unfold step
  split
  · exact within_act hp h he
  · split
    · cases he with
      | look hl =>
        have htold := h.tellLexeme hl
        split
        · exact htold
        · exact ⟨htold.operands, htold.reports⟩
    · exact ⟨h.operands, h.reports⟩
    · exact ⟨h.operands, h.reports⟩
  · exact h

theorem within_foldl (hp : Span.Closed p) (h : s.Within p) {es : List Event}
    (hes : ∀ e ∈ es, e.Within p) : (es.foldl (step limits) s).Within p := by
  induction es generalizing s with
  | nil => exact h
  | cons e es ih =>
    obtain ⟨he, hes⟩ := List.forall_mem_cons.mp hes
    exact ih (within_step hp h he) hes

/-- Every report about a source lies in it, with its notes. -/
theorem within_run {f : SourceFile} (hsize : f.content.length < UInt32.size) (limits : Limits)
    (g : Generator) : ∀ r ∈ (run limits g f.lexemes).reports,
      r.diagnostic.Within (Span.Inside f.id f.content) := by
  have hp := Span.closed_inside f.id f.content
  obtain ⟨front, stop, hlexemes, -, hstop, -⟩ := f.exists_lexemes hsize
  have hinput : (Input.ofLexemes f.lexemes).Within (Span.Inside f.id f.content) :=
    .ofLexemes f.within_lexemes (by simp [hlexemes]) hstop
  have hstart : (State.start limits g).Within (Span.Inside f.id f.content) :=
    ⟨List.forall_mem_nil _, List.forall_mem_nil _⟩
  intro r hr
  exact (within_foldl hp hstart (within_parseProgram hp hinput)).reports r (List.mem_reverse.mp hr)

end ThreeAddress.Analysis
