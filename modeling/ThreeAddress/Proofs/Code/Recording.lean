import ThreeAddress.Proofs.Code.Lines

/-!
# What a recorder holds

Whatever a generator is asked to do over a recorder, and whether it succeeds or not, it adds whole
lines to what the recorder holds, and none of them is empty. So nothing is lost when the recorded
text is cut into lines and these are written again with a newline behind each, even if operands
bring newlines of their own, which cut a line in two.

## Main definitions

* `Generator.Call`, `Generator.afterAll` : what a generator is asked to do, and what it is then.
* `Generator.AddsLines` : a lowering step that adds whole lines to a recorder.

## Main results

* `Sink.unlines_linesOf` : a text of lines comes back when it is cut and written again.
* `Generator.exists_lines_afterAll` : after any calls a recorder holds whole lines.
* `Generator.unlines_lines_afterAll` : the lines of a recorder make up its text.
-/

namespace ThreeAddress

namespace Sink

theorem unlines_append (ls ks : List Bytes) : unlines (ls ++ ks) = unlines ls ++ unlines ks :=
  List.flatMap_append

theorem unlines_eq_joinWith {ls : List Bytes} (hne : ls ≠ []) :
    unlines ls = Bytes.joinWith ['\n'.toUInt8] ls ++ utf8 "\n" := by
  have hnewline : utf8 "\n" = ['\n'.toUInt8] := by decide
  induction ls with
  | nil => exact absurd rfl hne
  | cons l ls ih =>
    cases ls with
    | nil => simp [unlines, Bytes.joinWith]
    | cons k ls =>
      have hcons : unlines (l :: k :: ls) = l ++ utf8 "\n" ++ unlines (k :: ls) := rfl
      rw [hcons, ih (List.cons_ne_nil _ _), Bytes.joinWith, hnewline]
      simp only [List.append_assoc]

/-- A text that was cut at its newlines gets a newline at its end when the parts are written. -/
theorem unlines_splitOn (b : Bytes) : unlines (Bytes.splitOn '\n'.toUInt8 b) = b ++ utf8 "\n" := by
  rw [unlines_eq_joinWith (Bytes.splitOn_ne_nil _ b), Bytes.joinWith_splitOn]

/-- Lines that were written come back when their text is cut and written again, as long as none is
empty: a text of one newline would be cut into nothing. -/
theorem unlines_linesOf {ls : List Bytes} (h : ∀ l ∈ ls, l ≠ []) :
    unlines (linesOf (unlines ls)) = unlines ls := by
  rw [linesOf_unlines h]
  clear h
  induction ls with
  | nil => rfl
  | cons l ls ih =>
    have hcons : unlines (l :: ls) = l ++ utf8 "\n" ++ unlines ls := rfl
    rw [List.flatMap_cons, unlines_append, unlines_splitOn, ih, hcons]

end Sink

namespace Generator

/-- What a generator can be asked to do. -/
inductive Call where
  /-- Lower an expression to an atom. -/
  | reduce (e : Expr)
  /-- Lower the operands of an expression. -/
  | generate (e : Expr)
  /-- Jump as the truth of an expression says. -/
  | jumping (e : Expr) (trueLabel falseLabel : UInt64)
  /-- Place a label on a line of its own. -/
  | labelLine (id : UInt64)

/-- What a call does. -/
def Call.step : Call → Lower Unit
  | .reduce e => do
    let _ ← Generator.reduce e
  | .generate e => do
    let _ ← Generator.generate e
  | .jumping e trueLabel falseLabel => Generator.jumping e trueLabel falseLabel
  | .labelLine id => Generator.labelLine id

variable {α β : Type} {x : Lower α} {f : α → Lower β}

/-- The generator that a lowering step leaves behind, whether it fails or not. -/
def leftBy (x : Lower α) (g : Generator) : Generator :=
  match x.run g with
  | .ok _ g' => g'
  | .error _ g' => g'

/-- A generator after some calls. It goes on after calls that fail. -/
def afterAll (g : Generator) (cs : List Call) : Generator :=
  cs.foldl (fun g c => leftBy c.step g) g

/-- A lowering step adds whole lines to a recorder, and none of them is empty. -/
def AddsLines (x : Lower α) : Prop :=
  ∀ g : Generator, g.sink.Open → (leftBy x g).sink.Open ∧
    ∃ ls, (∀ l ∈ ls, l ≠ []) ∧ (leftBy x g).sink.text = g.sink.text ++ Sink.unlines ls

namespace AddsLines

/-- A step that leaves the sink alone. -/
theorem ofSink (h : ∀ g, (leftBy x g).sink = g.sink) : AddsLines x := by
  intro g hg
  rw [h]
  exact ⟨hg, [], by simp, (List.append_nil _).symm⟩

theorem ofPure (a : α) : AddsLines (pure a : Lower α) :=
  ofSink fun _ => rfl

theorem ofThrow (e : LowerError) : AddsLines (throw e : Lower α) :=
  ofSink fun _ => rfl

/-- One step after another adds the lines of both, or those of the first one if that fails. -/
theorem bind (hx : AddsLines x) (hf : ∀ a, AddsLines (f a)) : AddsLines (x >>= f) := by
  intro g hg
  obtain ⟨hopen, ls, hls, htext⟩ := hx g hg
  cases hrun : x.run g with
  | error e g' =>
    have hleft : leftBy (x >>= f) g = leftBy x g := by
      have hbind : (x >>= f).run g = .error e g' := by
        change EStateM.bind x f g = _
        rw [EStateM.bind, show x g = .error e g' from hrun]
      rw [leftBy, leftBy, hbind, hrun]
    rw [hleft]
    exact ⟨hopen, ls, hls, htext⟩
  | ok a g' =>
    have hleft : leftBy (x >>= f) g = leftBy (f a) g' := by
      rw [leftBy, run_bind hrun, leftBy]
    have hg' : leftBy x g = g' := by rw [leftBy, hrun]
    rw [hg'] at hopen htext
    obtain ⟨hopen', ls', hls', htext'⟩ := hf a g' hopen
    rw [hleft]
    refine ⟨hopen', ls ++ ls', List.forall_mem_append.mpr ⟨hls, hls'⟩, ?_⟩
    rw [htext', htext, Sink.unlines_append, List.append_assoc]

theorem ofBuild (r : Except BuildError Expr) : AddsLines (build r) := by
  cases r with
  | ok e => exact .ofPure e
  | error e => exact .ofThrow _

theorem ofFault (r : Except Fault α) : AddsLines (orFault r) := by
  cases r with
  | ok a => exact .ofPure a
  | error f => exact .ofThrow _

/-- An instruction is a line. -/
theorem instruction (text : Bytes) : AddsLines (Generator.instruction text) := by
  refine .bind (.ofSink fun _ => rfl) fun _ g hg => ?_
  have hsink : (leftBy (emit fun s => s.instruction text) g).sink =
      { g.sink with chunks := (utf8 "\t" ++ text ++ utf8 "\n") :: g.sink.chunks } := by
    simp only [leftBy, emit, EStateM.run, Sink.instruction, Sink.write, hg.failure, hg.room]
  rw [hsink]
  refine ⟨⟨hg.failure, hg.room⟩, [utf8 "\t" ++ text], by simp [utf8], ?_⟩
  simp [Sink.text, Sink.unlines]

end AddsLines

theorem addsLines_store (op : Opcode) (node : Expr) : AddsLines (store op node) := by
  refine .bind (.ofSink fun _ => rfl) fun id => ?_
  split
  · exact .ofThrow _
  · exact .bind (.ofFault _) fun _ => .bind (.instruction _) fun _ => .ofPure _

theorem addsLines_reduce (e : Expr) : AddsLines (reduce e) := by
  induction e with
  | absent => exact .bind (.ofFault _) fun _ => .ofPure _
  | identifier id => exact .ofPure _
  | constant t type => exact .ofPure _
  | temporary id type => exact .ofPure _
  | arithmetic op type l r ihl ihr =>
    exact .bind (.ofFault _) fun _ => .bind ihl fun _ => .bind ihr fun _ =>
      .bind (.ofBuild _) fun _ => addsLines_store _ _
  | unary op type x ih =>
    exact .bind ih fun _ => .bind (.ofBuild _) fun _ => addsLines_store _ _
  | index a i ih =>
    exact .bind ih fun _ => addsLines_store _ _

theorem addsLines_generate (e : Expr) : AddsLines (generate e) := by
  cases e with
  | absent => exact .ofThrow _
  | identifier id => exact .ofPure _
  | constant t type => exact .ofPure _
  | temporary id type => exact .ofPure _
  | arithmetic op type l r =>
    exact .bind (addsLines_reduce l) fun _ => .bind (addsLines_reduce r) fun _ => .ofBuild _
  | unary op type x => exact .bind (addsLines_reduce x) fun _ => .ofBuild _
  | index a i => exact .bind (addsLines_reduce i) fun _ => .ofPure _

theorem addsLines_jumping (e : Expr) (trueLabel falseLabel : UInt64) :
    AddsLines (jumping e trueLabel falseLabel) := by
  refine .bind (.ofFault _) fun test => ?_
  extract_lets jump
  have hjump (op : Opcode) (label : UInt64) : AddsLines (jump op label) := .instruction _
  split
  · split
    · exact .ofPure _
    · exact hjump _ _
  · refine .bind (hjump _ _) fun _ => ?_
    split
    · exact .ofPure _
    · exact .instruction _

/-- A label and the colon behind it are written apart and make up one line. -/
theorem addsLines_labelLine (id : UInt64) : AddsLines (labelLine id) := by
  intro g hg
  have hsink : (leftBy (labelLine id) g).sink =
      { g.sink with chunks := (utf8 ":" ++ utf8 "\n") :: labelName id :: g.sink.chunks } := by
    simp only [leftBy, labelLine, emit, EStateM.run, bind, EStateM.bind, Sink.label, Sink.writeLine,
      Sink.write, hg.failure, hg.room]
  rw [hsink]
  refine ⟨⟨hg.failure, hg.room⟩, [labelName id ++ utf8 ":"], by simp [utf8], ?_⟩
  simp [Sink.text, Sink.unlines]

theorem addsLines_step (c : Call) : AddsLines c.step := by
  cases c with
  | reduce e => exact .bind (addsLines_reduce e) fun _ => .ofPure _
  | generate e => exact .bind (addsLines_generate e) fun _ => .ofPure _
  | jumping e t f => exact addsLines_jumping e t f
  | labelLine id => exact addsLines_labelLine id

/-- After any calls over a fresh recorder there are whole lines in it, and none of them is empty. -/
theorem exists_lines_afterAll {g : Generator} (hg : g.sink = .recorder) (cs : List Call) :
    ∃ ls, (∀ l ∈ ls, l ≠ []) ∧ (g.afterAll cs).sink.text = Sink.unlines ls := by
  -- the recorder stays one all along
  have hadds (cs : List Call) (g : Generator) (hopen : g.sink.Open) :
      ∃ ls, (∀ l ∈ ls, l ≠ []) ∧ (g.afterAll cs).sink.text = g.sink.text ++ Sink.unlines ls := by
    induction cs generalizing g with
    | nil => exact ⟨[], by simp, (List.append_nil _).symm⟩
    | cons c cs ih =>
      obtain ⟨hopen', ls, hls, htext⟩ := addsLines_step c g hopen
      obtain ⟨ls', hls', htext'⟩ := ih _ hopen'
      refine ⟨ls ++ ls', List.forall_mem_append.mpr ⟨hls, hls'⟩, htext'.trans ?_⟩
      rw [htext, Sink.unlines_append, List.append_assoc]
  obtain ⟨ls, hls, htext⟩ := hadds cs g (hg ▸ Sink.Open.recorder)
  rw [hg] at htext
  exact ⟨ls, hls, htext⟩

/-- The lines of a recorder, each with a newline behind it, make up its text after any calls. -/
theorem unlines_lines_afterAll {g : Generator} (hg : g.sink = .recorder) (cs : List Call) :
    Sink.unlines (g.afterAll cs).sink.lines = (g.afterAll cs).sink.text := by
  obtain ⟨ls, hls, htext⟩ := exists_lines_afterAll hg cs
  rw [Sink.lines, htext, Sink.unlines_linesOf hls]

end Generator

end ThreeAddress
