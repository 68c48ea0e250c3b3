import ThreeAddress.Proofs.Analysis.Storage
import ThreeAddress.Proofs.Code.Atoms
import ThreeAddress.Proofs.Lexer.Rescanning

/-!
# What the operands of a source denote

The instructions of a source are put beside the atoms that they were lowered from and the events
that led there. Two operands with the same text then denote the same thing, but for two reasons why
they may not: a name may be declared again, and a name may be spelled like a temporary.

## Main definitions

* `Placed`, `placed` : the instructions of a source with their atoms and the events in front.
* `Comparable` : two operands with neither of the two reasons between them.

## Main results

* `text_run_eq_placed` : these are the instructions that are emitted.
* `storage_unique` : a name stands for the storage of its declaration in force.
* `sameThing_of_atomText_eq` : comparable operands with the same text denote the same thing.
-/

namespace ThreeAddress.Analysis

open Parse (Event Input inForce? parseBlock parseProgram parseStmt)

variable {limits : Limits} {s : State} {f : SourceFile}

/-! ### Instructions with their places -/

/-- An instruction with the atoms that it works on, at a place of a source. -/
structure Placed where
  /-- The events in front of the end of its statement. -/
  before : List Event
  /-- The instruction with its atoms. -/
  node : Node

/-- The expressions that events lower, each with the events in front of it. -/
def loweredAt (limits : Limits) (s : State) (before : List Event) :
    List Event → List (List Event × Expr)
  | [] => []
  | e :: es => (s.lowering e).map (Prod.mk before) ++
      loweredAt limits (act limits s e) (before ++ [e]) es

/-- The instructions of expressions lowered one after another, with temporaries from `n` on. -/
def placedFrom (n : Nat) : List (List Event × Expr) → List Placed
  | [] => []
  | (before, x) :: rest =>
    (x.nodes (UInt64.ofNat n)).map (Placed.mk before) ++ placedFrom (n + x.operations) rest

/-- The instructions of a source with their places. -/
def placed (limits : Limits) (f : SourceFile) : List Placed :=
  placedFrom 0 (loweredAt limits (.start limits {}) [] (parseProgram f.input))

theorem map_loweredAt (limits : Limits) (s : State) (before es : List Event) :
    (loweredAt limits s before es).map Prod.snd = loweredFrom limits s es := by
  induction es generalizing s before with
  | nil => rfl
  | cons e es ih => simp [loweredAt, loweredFrom, ih, Function.comp_def]

theorem map_placedFrom (n : Nat) (xs : List (List Event × Expr)) :
    (placedFrom n xs).map (fun p => p.node.instruction) = listing n (xs.map Prod.snd) := by
  induction xs generalizing n with
  | nil => rfl
  | cons q xs ih =>
    obtain ⟨before, x⟩ := q
    rw [placedFrom, List.map_append, ih, List.map_map, List.map_cons, listing, ← x.map_nodes]
    rfl

theorem map_placed (limits : Limits) (f : SourceFile) :
    (placed limits f).map (fun p => p.node.instruction) = listing 0 (lowered limits {} f) := by
  rw [placed, map_placedFrom, map_loweredAt, lowered]

/-- The text that a source emits to a fresh recorder is that of its instructions. -/
theorem text_run_eq_placed (limits : Limits) (f : SourceFile) :
    (run limits {} f.lexemes).generator.sink.text =
      Sink.unlines ((placed limits f).map fun p => p.node.instruction.line) := by
  rw [run_eq .recorder]
  show (final limits {} f).generator.sink.text = _
  rw [text_final, ← map_placed, List.map_map]
  rfl

theorem mem_placedFrom {n : Nat} {xs : List (List Event × Expr)} {p : Placed}
    (h : p ∈ placedFrom n xs) : ∃ x k, (p.before, x) ∈ xs ∧ p.node ∈ x.nodes k := by
  induction xs generalizing n with
  | nil => cases h
  | cons q xs ih =>
    obtain ⟨before, x⟩ := q
    rcases List.mem_append.mp h with hp | hp
    · obtain ⟨node, hnode, rfl⟩ := List.mem_map.mp hp
      exact ⟨x, _, List.mem_cons_self, hnode⟩
    · obtain ⟨y, k, hy, hnode⟩ := ih hp
      exact ⟨y, k, List.mem_cons_of_mem _ hy, hnode⟩

theorem closed_placedFrom {name : Identifier → Prop} {literal : Token → DataType → Prop}
    {xs : List (List Event × Expr)} (h : ∀ x ∈ xs.map Prod.snd, x.OnLeaves name literal) (n : Nat) :
    Node.Closed ((placedFrom n xs).map Placed.node) := by
  induction xs generalizing n with
  | nil => exact .nil
  | cons q xs ih =>
    obtain ⟨before, x⟩ := q
    rw [List.map_cons, List.forall_mem_cons] at h
    have hfirst : ((x.nodes (UInt64.ofNat n)).map (Placed.mk before)).map Placed.node =
        x.nodes (UInt64.ofNat n) := by
      rw [List.map_map]
      exact List.map_id _
    rw [placedFrom, List.map_append, hfirst]
    exact (Expr.closed_nodes h.1 _).append (ih h.2 _)

/-- What is lowered is an operand behind the events in front of it. -/
theorem mem_loweredAt {before es place : List Event} {x : Expr}
    (h : (place, x) ∈ loweredAt limits s before es) :
    ∃ front, front <+: es ∧ place = before ++ front ∧
      ∃ o ∈ (front.foldl (act limits) s).operands, o.expr = some x := by
  induction es generalizing s before with
  | nil => cases h
  | cons e es ih =>
    rcases List.mem_append.mp h with hx | hx
    · obtain ⟨y, hy, heq⟩ := List.mem_map.mp hx
      obtain ⟨rfl, rfl⟩ := Prod.mk.inj heq
      exact ⟨[], List.nil_prefix, (List.append_nil _).symm, State.exists_operand_of_lowering hy⟩
    · obtain ⟨front, hfront, rfl, ho⟩ := ih hx
      refine ⟨e :: front, ?_, by simp, ho⟩
      exact List.cons_prefix_cons.mpr ⟨rfl, hfront⟩

/-! ### Atoms -/

/-- An operand is a name that is resolved to what it stands for, a literal of the source or a
temporary. -/
theorem isAtomOf_placed {p : Placed} (hp : p ∈ placed limits f) :
    p.before <+: parseProgram f.input ∧ ∀ x ∈ p.node.operands,
      x.IsAtomOf (fun id => (p.before.foldl (act limits) (.start limits {})).env.get? id.name =
        some id ∧ NameIn f id) (LiteralIn f) := by
  obtain ⟨x, k, hx, hnode⟩ := mem_placedFrom hp
  obtain ⟨front, hfront, hbefore, o, ho, hexpr⟩ := mem_loweredAt hx
  rw [List.nil_append] at hbefore
  subst hbefore
  exact ⟨hfront, Expr.isAtomOf_nodes ((grounded_foldl limits {} hfront).operands o ho x hexpr) k _
    hnode⟩

/-- A source writes every temporary once, and it works on no other temporaries. -/
theorem closed_placed (h : f.content.length < UInt32.size) (limits : Limits) :
    Node.Closed ((placed limits f).map Placed.node) ∧
      (((placed limits f).map Placed.node).map Node.target).Nodup := by
  have hspelled : ∀ x ∈ lowered limits {} f, x.Spelled := spelled_lowered h limits {}
  rw [lowered, ← map_loweredAt limits _ []] at hspelled
  have hcount : 0 + totalOperations (lowered limits {} f) ≤ UInt64.size := by
    rw [Nat.zero_add]
    exact Nat.le_trans (totalOperations_lowered h limits {})
      (Nat.le_of_lt (Nat.lt_trans h (by decide)))
  refine ⟨closed_placedFrom hspelled 0, ?_⟩
  have hnodup := (nodup_of_numbered (numbered_listing _ hcount)).1
  rw [← map_placed, List.map_map] at hnodup
  rwa [List.map_map]

/-! ### Operands with the same text -/

/-- Two operands with their places, but neither a name with a temporary nor two names with different
declarations in force. -/
def Comparable (front back : List Event) : Expr → Expr → Prop
  | .identifier id, .identifier id' => inForce? front id.name = inForce? back id'.name
  | .identifier _, .temporary _ _ => False
  | .temporary _ _, .identifier _ => False
  | _, _ => True

namespace LiteralIn

variable {t u : Token} {σ τ : DataType}

/-- Literals with the same text are the same literal. -/
theorem sameThing (h : f.content.length < UInt32.size) (ht : LiteralIn f t σ)
    (hu : LiteralIn f u τ) (htext : t.render = u.render) :
    (Expr.constant t σ).SameThing (.constant u τ) := by
  obtain ⟨htoken, hlit, htype⟩ := ht
  obtain ⟨htoken', hlit', htype'⟩ := hu
  obtain ⟨l, hl, rfl⟩ := f.exists_scanned h htoken
  obtain ⟨m, hm, rfl⟩ := f.exists_scanned h htoken'
  rw [hl.render_eq hlit, hm.render_eq hlit'] at htext
  have hkind := congrArg Word.kind (hl.word_eq hm hlit hlit' htext)
  obtain rfl := (htype.literal_congr hkind htext).unique htype'
  exact .literal hkind htext σ

/-- No name is spelled like a literal. -/
theorem render_ne_name (h : f.content.length < UInt32.size) (ht : LiteralIn f t σ)
    {id : Identifier} (hid : NameIn f id) : t.render ≠ id.name := by
  obtain ⟨htoken, hlit, -⟩ := ht
  obtain ⟨u, hu, hkind, hname⟩ := hid
  obtain ⟨l, hl, rfl⟩ := f.exists_scanned h htoken
  obtain ⟨m, hm, rfl⟩ := f.exists_scanned h hu
  rw [hl.render_eq hlit, hname]
  exact (hm.text_ne hl hkind hlit).symm

theorem render_ne_temporaryName (h : f.content.length < UInt32.size) (ht : LiteralIn f t σ)
    (n : UInt64) : t.render ≠ temporaryName n := by
  obtain ⟨l, hl, rfl⟩ := f.exists_scanned h ht.1
  exact (hl.literalText ht.2.1).ne_temporaryName n

end LiteralIn

/-- A name stands for the storage that its declaration in force has been given, so two names with
the same declaration in force stand for the same storage. -/
theorem storage_unique {front back : List Event} (hfront : front <+: parseProgram f.input)
    (hback : back <+: parseProgram f.input) {id id' : Identifier}
    (hid : (front.foldl (act limits) (.start limits {})).env.get? id.name = some id)
    (hid' : (back.foldl (act limits) (.start limits {})).env.get? id'.name = some id')
    (hname : id.name = id'.name) (hforce : inForce? front id.name = inForce? back id'.name) :
    id = id' := by
  refine Option.some.inj ?_
  calc some id
      = (inForce? front id.name).bind fun place =>
          storage limits {} (parseProgram f.input) place id.name :=
        hid.symm.trans (get?_foldl limits {} hfront id.name)
    _ = (inForce? back id'.name).bind fun place =>
          storage limits {} (parseProgram f.input) place id'.name := by rw [hforce, hname]
    _ = some id' := (get?_foldl limits {} hback id'.name).symm.trans hid'

/-- The emitted text is that of the instructions of a source, and two operands of these with the
same text denote the same thing, unless they are names with different declarations in force or a
name and a temporary. -/
theorem sameThing_of_atomText_eq (hsize : f.content.length < UInt32.size) (limits : Limits) :
    (run limits {} f.lexemes).generator.sink.text =
        Sink.unlines ((placed limits f).map fun p => p.node.instruction.line) ∧
      ∀ a ∈ placed limits f, ∀ b ∈ placed limits f, ∀ x ∈ a.node.operands, ∀ y ∈ b.node.operands,
        Comparable a.before b.before x y → x.atomText = y.atomText → x.SameThing y := by
  refine ⟨text_run_eq_placed limits f, fun a ha b hb x hx y hy hcomparable htext => ?_⟩
  obtain ⟨hfront, hatoms⟩ := isAtomOf_placed ha
  obtain ⟨hback, hatoms'⟩ := isAtomOf_placed hb
  cases hatoms x hx with
  | identifier hid =>
    cases hatoms' y hy with
    | identifier hid' =>
      obtain rfl := storage_unique hfront hback hid.1 hid'.1 htext hcomparable
      exact .storage _
    | constant hu => exact absurd htext.symm (hu.render_ne_name hsize hid.2)
    | temporary m type => cases hcomparable
  | constant ht =>
    cases hatoms' y hy with
    | identifier hid' => exact absurd htext (ht.render_ne_name hsize hid'.2)
    | constant hu => exact ht.sameThing hsize hu htext
    | temporary m type => exact absurd htext (ht.render_ne_temporaryName hsize m)
  | temporary n type =>
    cases hatoms' y hy with
    | identifier hid' => cases hcomparable
    | constant hu => exact absurd htext.symm (hu.render_ne_temporaryName hsize n)
    | temporary m type' =>
      obtain rfl : n = m := temporaryName_injective htext
      obtain ⟨hclosed, hnodup⟩ := closed_placed hsize limits
      obtain rfl := hclosed.type_unique hnodup (List.mem_map_of_mem ha) (List.mem_map_of_mem hb)
        hx hy
      exact .temporary n type

/-! ### A name that is declared again -/

/-- A source that declares a name again in a block. -/
def shadowSource : SourceFile :=
  .ofContent 0 (utf8 "shadow.ez")
    (utf8 "let a: i32; a + 1; \x7b let a: i64; a + 2; \x7d a + 3;") 0

/-- The instruction that adds a literal to a storage. -/
def shadowSum (target : UInt64) (type : DataType) (offset : UInt64) (literal : Token) : Node :=
  ⟨.add, target, type,
    [.identifier ⟨utf8 "a", type, offset⟩, .constant literal .int32]⟩

/-- The instructions of that source, each with the declaration in force for the name. -/
def shadowPlaced : List (Option Nat × Node) :=
  [(some 4, shadowSum 0 .int32 0 (sampleToken .integer 16 "1")),
    (some 20, shadowSum 1 .int64 4 (sampleToken .integer 37 "2")),
    (some 4, shadowSum 2 .int32 0 (sampleToken .integer 46 "3"))]

theorem map_placed_shadowSource :
    (placed {} shadowSource).map (fun p => (inForce? p.before (utf8 "a"), p.node)) =
      shadowPlaced := by
  decide +kernel

theorem exists_placed_shadowSource {place : Option Nat} {node : Node}
    (h : (place, node) ∈ shadowPlaced) :
    ∃ p ∈ placed {} shadowSource, inForce? p.before (utf8 "a") = place ∧ p.node = node := by
  rw [← map_placed_shadowSource] at h
  obtain ⟨p, hp, heq⟩ := List.mem_map.mp h
  exact ⟨p, hp, Prod.mk.inj heq⟩

/-- Behind the block the name denotes the same storage as in front of it. -/
theorem sameThing_shadowSource :
    ∃ a ∈ placed {} shadowSource, ∃ b ∈ placed {} shadowSource,
      a.node.target = 0 ∧ b.node.target = 2 ∧ ∃ x ∈ a.node.operands, ∃ y ∈ b.node.operands,
        x.atomText = utf8 "a" ∧ y.atomText = utf8 "a" ∧ x.SameThing y := by
  obtain ⟨a, ha, hforce, hnode⟩ := exists_placed_shadowSource List.mem_cons_self
  obtain ⟨b, hb, hforce', hnode'⟩ := exists_placed_shadowSource
    (List.mem_cons_of_mem _ (List.mem_cons_of_mem _ List.mem_cons_self))
  let x : Expr := .identifier ⟨utf8 "a", .int32, 0⟩
  have hx : x ∈ a.node.operands := by
    rw [hnode]
    exact List.mem_cons_of_mem _ List.mem_cons_self
  have hy : x ∈ b.node.operands := by
    rw [hnode']
    exact List.mem_cons_of_mem _ List.mem_cons_self
  have hcomparable : Comparable a.before b.before x x := hforce.trans hforce'.symm
  refine ⟨a, ha, b, hb, by rw [hnode]; rfl, by rw [hnode']; rfl, x, hx, x, hy, rfl, rfl, ?_⟩
  exact (sameThing_of_atomText_eq (by decide +kernel) {}).2 a ha b hb x hx x hy hcomparable rfl

/-- In the block the name denotes another storage than in front of it, and nothing is reported. -/
theorem not_sameThing_shadowSource :
    (run {} {} shadowSource.lexemes).reports = [] ∧
      (run {} {} shadowSource.lexemes).generator.sink.text =
        utf8 "	add __t0 a 1
	add __t1 a 2
	add __t2 a 3
" ∧
      ∃ a ∈ placed {} shadowSource, ∃ b ∈ placed {} shadowSource,
        ∃ x ∈ a.node.operands, ∃ y ∈ b.node.operands,
          x.atomText = y.atomText ∧ ¬ x.SameThing y := by
  refine ⟨by decide +kernel, ?_, ?_⟩
  · have hlines := congrArg (List.map fun p => p.2.instruction.line) map_placed_shadowSource
    rw [List.map_map] at hlines
    rw [text_run_eq_placed]
    exact (congrArg Sink.unlines hlines).trans (by decide +kernel)
  · obtain ⟨a, ha, -, hnode⟩ := exists_placed_shadowSource List.mem_cons_self
    obtain ⟨b, hb, -, hnode'⟩ := exists_placed_shadowSource
      (List.mem_cons_of_mem _ List.mem_cons_self)
    refine ⟨a, ha, b, hb, .identifier ⟨utf8 "a", .int32, 0⟩, ?_,
      .identifier ⟨utf8 "a", .int64, 4⟩, ?_, rfl, ?_⟩
    · rw [hnode]
      exact List.mem_cons_of_mem _ List.mem_cons_self
    · rw [hnode']
      exact List.mem_cons_of_mem _ List.mem_cons_self
    · intro h
      cases h

end ThreeAddress.Analysis
