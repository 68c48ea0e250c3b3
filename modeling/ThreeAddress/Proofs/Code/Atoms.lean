import Mathlib.Data.List.Nodup
import ThreeAddress.Proofs.Code.Acceptance

/-!
# What operand texts stand for

An instruction holds texts only. Lowering takes each of them from an atom: a declared name, a
literal or a temporary. Here the listing of an expression is told with these atoms, so that one can
ask whether two texts that are alike stand for the same thing.

## Main definitions

* `Node` : an instruction with the atoms that it works on.
* `Node.Closed` : the temporaries that nodes work on are written by them.
* `Expr.nodes` : the listing of an expression with its atoms.
* `Expr.SameThing` : two atoms stand for the same thing.
* `Expr.IsAtomOf` : an atom is a name, a literal or a temporary.

## Main results

* `Expr.map_nodes` : with texts for atoms it is the listing.
* `Expr.isAtomOf_nodes` : the atoms are leaves of the expression, or temporaries.
* `Expr.closed_nodes` : the temporaries are written by the nodes of the expression.
* `nodesFrom_add` : with later temporaries the nodes are the same but for them.
-/

namespace ThreeAddress

/-- The text of an atom in an instruction. -/
def Expr.atomText : Expr → Bytes
  | identifier id => id.name
  | constant t _ => t.render
  | temporary id _ => temporaryName id
  | _ => []

/-- An instruction with the atoms that it works on. -/
structure Node where
  /-- The operation. -/
  opcode : Opcode
  /-- The temporary written. -/
  target : UInt64
  /-- The type of what is written. -/
  type : DataType
  /-- The atoms read. -/
  sources : List Expr
deriving Repr, DecidableEq

namespace Node

/-- The instruction of a node. -/
def instruction (n : Node) : Instruction :=
  ⟨n.opcode, n.target, n.sources.map Expr.atomText⟩

/-- All operands of a node: the temporary that it writes and what it reads. -/
def operands (n : Node) : List Expr :=
  .temporary n.target n.type :: n.sources

/-- One of the nodes writes a temporary of a type. -/
def Writes (ns : List Node) (id : UInt64) (type : DataType) : Prop :=
  ∃ n ∈ ns, n.target = id ∧ n.type = type

/-- The temporaries that nodes work on are written by them. -/
def Closed (ns : List Node) : Prop :=
  ∀ n ∈ ns, ∀ id type, .temporary id type ∈ n.operands → Writes ns id type

variable {ns ms : List Node} {id : UInt64} {type : DataType}

theorem Writes.append_left (h : Writes ns id type) (ms : List Node) :
    Writes (ns ++ ms) id type := by
  obtain ⟨n, hn, hwrites⟩ := h
  exact ⟨n, List.mem_append_left ms hn, hwrites⟩

theorem Writes.append_right (h : Writes ms id type) (ns : List Node) :
    Writes (ns ++ ms) id type := by
  obtain ⟨n, hn, hwrites⟩ := h
  exact ⟨n, List.mem_append_right ns hn, hwrites⟩

namespace Closed

theorem nil : Closed [] :=
  List.forall_mem_nil _

theorem append (h : Closed ns) (h' : Closed ms) : Closed (ns ++ ms) := by
  intro n hn id type hmem
  rcases List.mem_append.mp hn with hn | hn
  · exact (h n hn id type hmem).append_left ms
  · exact (h' n hn id type hmem).append_right ns

/-- A node may read what earlier ones have written. -/
theorem concat (h : Closed ns) {n : Node}
    (hn : ∀ id type, .temporary id type ∈ n.sources → Writes ns id type) :
    Closed (ns ++ [n]) := by
  intro m hm id type hmem
  rcases List.mem_append.mp hm with hm | hm
  · exact (h m hm id type hmem).append_left [n]
  · obtain rfl := List.mem_singleton.mp hm
    rcases List.mem_cons.mp hmem with heq | hmem
    · obtain ⟨rfl, rfl⟩ := Expr.temporary.inj heq
      exact ⟨m, List.mem_append_right ns List.mem_cons_self, rfl, rfl⟩
    · exact (hn id type hmem).append_left [m]

/-- If every temporary is written once, it has one type. -/
theorem type_unique (h : Closed ns) (hnodup : (ns.map target).Nodup) {a b : Node} (ha : a ∈ ns)
    (hb : b ∈ ns) {s t : DataType} (hs : .temporary id s ∈ a.operands)
    (ht : .temporary id t ∈ b.operands) : s = t := by
  obtain ⟨n, hn, hid, rfl⟩ := h a ha id s hs
  obtain ⟨m, hm, hid', rfl⟩ := h b hb id t ht
  rw [List.inj_on_of_nodup_map hnodup hn hm (hid.trans hid'.symm)]

end Closed

end Node

namespace Expr

/-- The listing of an expression with temporaries from `n` on, with the atoms of its texts. -/
def nodes (n : UInt64) : Expr → List Node
  | arithmetic op type l r =>
    let m := n + UInt64.ofNat l.operations
    l.nodes n ++ r.nodes m ++ [⟨(Opcode.ofArithmetic? op).getD .add,
      n + UInt64.ofNat (l.operations + r.operations), type, [l.atom n, r.atom m]⟩]
  | unary _ type x => x.nodes n ++ [⟨.inv, n + UInt64.ofNat x.operations, type, [x.atom n]⟩]
  | index a i => i.nodes n ++
      [⟨.idx, n + UInt64.ofNat i.operations, a.type, [i.atom n, .identifier a]⟩]
  | _ => []

theorem atomText_atom (n : UInt64) (e : Expr) : (e.atom n).atomText = e.operand n := by
  cases e <;> rfl

/-- With texts for atoms the nodes of an expression are its listing. -/
theorem map_nodes (n : UInt64) (e : Expr) : (e.nodes n).map Node.instruction = e.code n := by
  induction e generalizing n with
  | arithmetic op type l r ihl ihr =>
    simp [nodes, code, ihl, ihr, Node.instruction, atomText_atom]
  | unary op type x ih => simp [nodes, code, ih, Node.instruction, atomText_atom]
  | index a i ih =>
    have harray : (identifier a).atomText = a.name := rfl
    simp [nodes, code, ih, Node.instruction, atomText_atom, harray]
  | _ => rfl

/-- Two atoms stand for the same thing: the same storage, the same literal or the same temporary. A
literal may stand at several places. -/
inductive SameThing : Expr → Expr → Prop
  | storage (id : Identifier) : SameThing (.identifier id) (.identifier id)
  | literal {t u : Token} (hkind : t.kind = u.kind) (htext : t.text = u.text) (type : DataType) :
      SameThing (.constant t type) (.constant u type)
  | temporary (id : UInt64) (type : DataType) : SameThing (.temporary id type) (.temporary id type)

/-- An atom is a name with one property, a literal with another one, or a temporary. -/
inductive IsAtomOf (name : Identifier → Prop) (literal : Token → DataType → Prop) : Expr → Prop
  | identifier {id : Identifier} (h : name id) : IsAtomOf name literal (.identifier id)
  | constant {t : Token} {type : DataType} (h : literal t type) :
      IsAtomOf name literal (.constant t type)
  | temporary (id : UInt64) (type : DataType) : IsAtomOf name literal (.temporary id type)

variable {name : Identifier → Prop} {literal : Token → DataType → Prop} {e : Expr}

theorem isAtomOf_atom (h : e.OnLeaves name literal) (n : UInt64) :
    (e.atom n).IsAtomOf name literal := by
  cases e with
  | identifier id => exact .identifier h
  | constant t type => exact .constant h
  | arithmetic op type l r => exact .temporary _ _
  | unary op type x => exact .temporary _ _
  | index a i => exact .temporary _ _
  | absent => cases h
  | temporary id type => cases h

/-- The operands of the nodes of an expression are its leaves, and temporaries. -/
theorem isAtomOf_nodes (h : e.OnLeaves name literal) (n : UInt64) :
    ∀ node ∈ e.nodes n, ∀ x ∈ node.operands, x.IsAtomOf name literal := by
  have hnode {node : Node} (hsources : ∀ x ∈ node.sources, x.IsAtomOf name literal) :
      ∀ x ∈ node.operands, x.IsAtomOf name literal :=
    List.forall_mem_cons.mpr ⟨.temporary _ _, hsources⟩
  induction e generalizing n with
  | arithmetic op type l r ihl ihr =>
    simp only [nodes, List.forall_mem_append, List.forall_mem_singleton]
    refine ⟨⟨ihl h.1 n, ihr h.2 _⟩, hnode ?_⟩
    simp only [List.forall_mem_cons]
    exact ⟨isAtomOf_atom h.1 n, isAtomOf_atom h.2 _, List.forall_mem_nil _⟩
  | unary op type x ih =>
    have hx : x.OnLeaves name literal := h
    simp only [nodes, List.forall_mem_append, List.forall_mem_singleton]
    exact ⟨ih hx n, hnode (List.forall_mem_singleton.mpr (isAtomOf_atom hx n))⟩
  | index a i ih =>
    simp only [nodes, List.forall_mem_append, List.forall_mem_singleton]
    refine ⟨ih h.2 n, hnode ?_⟩
    simp only [List.forall_mem_cons]
    exact ⟨isAtomOf_atom h.2 n, .identifier h.1, List.forall_mem_nil _⟩
  | _ => simp [nodes]

/-! ### Temporaries -/

/-- The temporary that holds the value of an expression is written by a node of it. -/
theorem writes_of_atom (h : e.OnLeaves name literal) {n id : UInt64} {type : DataType}
    (hatom : e.atom n = .temporary id type) : Node.Writes (e.nodes n) id type := by
  cases e with
  | arithmetic op type' l r =>
    cases hatom
    exact ⟨_, List.mem_append_right _ List.mem_cons_self, rfl, rfl⟩
  | unary op type' x =>
    cases hatom
    exact ⟨_, List.mem_append_right _ List.mem_cons_self, rfl, rfl⟩
  | index a i =>
    cases hatom
    exact ⟨_, List.mem_append_right _ List.mem_cons_self, rfl, rfl⟩
  | temporary id' type' => cases h
  | _ => cases hatom

/-- The temporaries that an expression works on are written by its nodes. -/
theorem closed_nodes (h : e.OnLeaves name literal) (n : UInt64) : Node.Closed (e.nodes n) := by
  induction e generalizing n with
  | arithmetic op type l r ihl ihr =>
    refine ((ihl h.1 n).append (ihr h.2 _)).concat fun id type hmem => ?_
    rcases List.mem_cons.mp hmem with hleft | hmem
    · exact (writes_of_atom h.1 hleft.symm).append_left _
    · exact (writes_of_atom h.2 (List.mem_singleton.mp hmem).symm).append_right _
  | unary op type x ih =>
    have hx : x.OnLeaves name literal := h
    refine (ih hx n).concat fun id type hmem => ?_
    exact writes_of_atom hx (List.mem_singleton.mp hmem).symm
  | index a i ih =>
    refine (ih h.2 n).concat fun id type hmem => ?_
    rcases List.mem_cons.mp hmem with hplace | hmem
    · exact writes_of_atom h.2 hplace.symm
    · cases List.mem_singleton.mp hmem
  | _ => exact Node.Closed.nil

/-! ### Temporaries that come later -/

/-- An atom whose temporary comes `k` later. -/
def later (k : UInt64) : Expr → Expr
  | temporary id type => .temporary (id + k) type
  | e => e

end Expr

/-- A node whose temporaries come `k` later. -/
def Node.later (k : UInt64) (n : Node) : Node :=
  ⟨n.opcode, n.target + k, n.type, n.sources.map (Expr.later k)⟩

namespace Expr

variable {e : Expr}

theorem add_later (n k m : UInt64) : n + k + m = n + m + k := by
  rw [UInt64.add_assoc, UInt64.add_comm k, UInt64.add_assoc]

/-- Lowered with later temporaries, an expression is held by a later one. -/
theorem Built.atom_add (h : e.Built) (n k : UInt64) : e.atom (n + k) = (e.atom n).later k := by
  cases h with
  | identifier id => rfl
  | constant t type => rfl
  | arithmetic _ _ he =>
    obtain ⟨-, s, t, type, -, -, -, rfl⟩ := newArithmetic_eq_ok.mp he
    rw [atom, add_later]
    rfl
  | unary _ he =>
    obtain ⟨-, t, type, -, -, rfl⟩ := newUnary_eq_ok.mp he
    rw [atom, add_later]
    rfl
  | index a _ =>
    rw [atom, add_later]
    rfl

/-- Lowered with later temporaries, an expression has the same nodes but for them. -/
theorem Built.nodes_add (h : e.Built) (n k : UInt64) :
    e.nodes (n + k) = (e.nodes n).map (Node.later k) := by
  induction h generalizing n with
  | identifier id => rfl
  | constant t type => rfl
  | @arithmetic op l r _ hl hr he ihl ihr =>
    obtain ⟨-, s, t, type, -, -, -, rfl⟩ := newArithmetic_eq_ok.mp he
    have hright := ihr (n + UInt64.ofNat l.operations)
    have hplace := hr.atom_add (n + UInt64.ofNat l.operations) k
    simp only [nodes, add_later n k, ihl, hright, hl.atom_add n k, hplace, Node.later,
      List.map_append, List.map_cons, List.map_nil]
  | unary hx he ih =>
    obtain ⟨-, t, type, -, -, rfl⟩ := newUnary_eq_ok.mp he
    simp only [nodes, add_later n k, ih, hx.atom_add n k, Node.later, List.map_append,
      List.map_cons, List.map_nil]
  | index a hi ih =>
    have harray : Expr.later k (.identifier a) = .identifier a := rfl
    simp only [nodes, add_later n k, ih, hi.atom_add n k, Node.later, List.map_append,
      List.map_cons, List.map_nil, harray]

end Expr

/-- The nodes of expressions lowered one after another, with temporaries from `n` on. -/
def nodesFrom (n : Nat) : List Expr → List Node
  | [] => []
  | e :: es => e.nodes (UInt64.ofNat n) ++ nodesFrom (n + e.operations) es

/-- With texts for atoms these nodes are the listing. -/
theorem map_nodesFrom (n : Nat) (es : List Expr) :
    (nodesFrom n es).map Node.instruction = listing n es := by
  induction es generalizing n with
  | nil => rfl
  | cons e es ih => rw [nodesFrom, List.map_append, e.map_nodes, ih, listing]

/-- Lowered with later temporaries, expressions have the same nodes but for them. -/
theorem nodesFrom_add {es : List Expr} (h : ∀ e ∈ es, e.Built) (n k : Nat) :
    nodesFrom (n + k) es = (nodesFrom n es).map (Node.later (UInt64.ofNat k)) := by
  induction es generalizing n with
  | nil => rfl
  | cons e es ih =>
    obtain ⟨he, hes⟩ := List.forall_mem_cons.mp h
    rw [nodesFrom, nodesFrom, List.map_append, UInt64.ofNat_add, he.nodes_add,
      Nat.add_right_comm, ih hes]

/-- Instructions that write consecutive temporaries write each one once. -/
theorem nodup_of_numbered {is : List Instruction} {k : Nat} (h : Numbered k is) :
    (is.map Instruction.target).Nodup ∧ ∀ i ∈ is, k ≤ i.target.toNat := by
  induction is generalizing k with
  | nil => simp
  | cons i is ih =>
    obtain ⟨htarget, -, hk, hrest⟩ := h
    obtain ⟨hnodup, hlater⟩ := ih hrest
    have hfirst : i.target.toNat = k := by rw [htarget, UInt64.toNat_ofNat_of_lt' hk]
    refine ⟨List.nodup_cons.mpr ⟨fun hmem => ?_, hnodup⟩, ?_⟩
    · obtain ⟨j, hj, hsame⟩ := List.mem_map.mp hmem
      have := hlater j hj
      rw [hsame, hfirst] at this
      omega
    · refine List.forall_mem_cons.mpr ⟨Nat.le_of_eq hfirst.symm, fun j hj => ?_⟩
      exact Nat.le_of_succ_le (hlater j hj)

end ThreeAddress
