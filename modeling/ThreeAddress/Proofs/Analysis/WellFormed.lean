import ThreeAddress.Analysis
import ThreeAddress.Proofs.DataType.Width
import ThreeAddress.Proofs.Parse.Grammar

/-!
# Well-formed programs

The rules that a derived program has to follow, stated on its tree and without an environment, a
frame or a list of reports. A context lists the declarations of all open blocks, the latest one
first, so that the innermost binding of a name is the first one found. A block adds to the context
for its own statements only.

## Main definitions

* `Context` : the declarations of all open blocks.
* `HasType` : an expression has a type in a context.
* `WellFormed` : the statements of a program follow the rules in a context.

## Main results

* `HasType.unique` : an expression has at most one type.
-/

namespace ThreeAddress

namespace Parse

/-- Every size in a type is a number from 1 to the largest size. -/
def TypeTree.Sized : TypeTree → Prop
  | scalar _ => True
  | string size => ∃ n, Integer.readNat .announced maxSize size.text = .ok n ∧ n ≠ 0
  | array size elem =>
    (∃ n, Integer.readNat .announced maxSize size.text = .ok n ∧ n ≠ 0) ∧ elem.Sized

/-- The number of declarations among statements, those in blocks included. -/
def Body.declarations : Body → Nat
  | done => 0
  | declare _ _ next => next.declarations + 1
  | block inner next => inner.declarations + next.declarations
  | expression _ next => next.declarations

/-- The number of expression statements, those in blocks included. -/
def Body.expressions : Body → Nat
  | done => 0
  | declare _ _ next => next.expressions
  | block inner next => inner.expressions + next.expressions
  | expression _ next => next.expressions + 1

end Parse

namespace Analysis

open Parse (ExprTree Body)

/-- The declarations of all open blocks, the latest one first. -/
abbrev Context := List (Bytes × DataType)

/-- The number of bytes that the declarations of a context take. -/
def Context.frame : Context → Nat
  | [] => 0
  | (_, type) :: Γ => type.bytes + Context.frame Γ

/-- An expression has a type. Arithmetic takes numeric operands, and an element has the type of its
array. -/
inductive HasType (Γ : Context) : ExprTree → DataType → Prop where
  | integer {t : Token} {v : Int} (ht : t.kind = .integer)
      (hv : Integer.readInt64 .announced t.text = .ok v) :
      HasType Γ (.literal t) (if v ≤ 0x7FFFFFFF then .int32 else .int64)
  | float {t : Token} (ht : t.kind = .float) (hv : FloatRange.inRange t.text = true) :
      HasType Γ (.literal t) .float64
  | char {t : Token} (ht : t.kind = .char) : HasType Γ (.literal t) .char
  | truth {t : Token} (ht : t.kind = .keywordTrue ∨ t.kind = .keywordFalse) :
      HasType Γ (.literal t) .bool
  | name {t : Token} {type : DataType} (ht : Γ.lookup t.text = some type) :
      HasType Γ (.name t) type
  | index {array closing : Token} {place : ExprTree} {type other : DataType}
      (harray : Γ.lookup array.text = some type) (hkind : type.kind = .array)
      (hplace : HasType Γ place other) : HasType Γ (.index array place closing) type
  | group {opening closing : Token} {inner : ExprTree} {type : DataType}
      (h : HasType Γ inner type) : HasType Γ (.group opening inner closing) type
  | unary {op : Token} {inner : ExprTree} {operand type : DataType}
      (h : HasType Γ inner operand) (hnumeric : operand.isNumeric = true)
      (htype : DataType.int64.upcast? operand = some type) : HasType Γ (.unary op inner) type
  | binary {op : Token} {left right : ExprTree} {s t type : DataType} (hl : HasType Γ left s)
      (hr : HasType Γ right t) (hs : s.isNumeric = true) (ht : t.isNumeric = true)
      (htype : s.upcast? t = some type) : HasType Γ (.binary op left right) type

/-- The statements of a program follow the rules: every expression has a type, every size is in
range, and no declaration lets the frame outgrow 64 bits. -/
inductive WellFormed : Context → Body → Prop where
  | done {Γ : Context} : WellFormed Γ .done
  | declare {Γ : Context} {name : Token} {type : Parse.TypeTree} {next : Body}
      (hsized : type.Sized) (hframe : Γ.frame + type.denote.bytes < UInt64.size)
      (hnext : WellFormed ((name.text, type.denote) :: Γ) next) :
      WellFormed Γ (.declare name type next)
  | block {Γ : Context} {inner next : Body} (hinner : WellFormed Γ inner)
      (hnext : WellFormed Γ next) : WellFormed Γ (.block inner next)
  | expression {Γ : Context} {e : ExprTree} {type : DataType} {next : Body}
      (he : HasType Γ e type) (hnext : WellFormed Γ next) : WellFormed Γ (.expression e next)

/-- Two numeric types have a common one, and only those. -/
theorem upcast?_isSome {s t : DataType} :
    (∃ type, s.upcast? t = some type) ↔ s.isNumeric = true ∧ t.isNumeric = true := by
  unfold DataType.upcast?
  by_cases h : (s.isNumeric && t.isNumeric) = true
  · rw [if_pos h]
    have hs := (Bool.and_eq_true_iff.mp h).1
    refine ⟨fun _ => Bool.and_eq_true_iff.mp h, fun _ => ?_⟩
    unfold DataType.isNumeric at hs
    have hfind : ∃ k, DataType.promotion.find? (fun k => s.kind == k || t.kind == k) = some k := by
      rw [← Option.isSome_iff_exists, List.find?_isSome]
      refine ⟨s.kind, ?_, by simp⟩
      revert hs
      cases s.kind <;> simp [DataType.promotion]
    obtain ⟨k, hk⟩ := hfind
    exact ⟨_, by rw [hk]; rfl⟩
  · rw [if_neg h]
    simpa using h

/-- An expression has at most one type. -/
theorem HasType.unique {Γ : Context} {e : ExprTree} {s t : DataType} (hs : HasType Γ e s)
    (ht : HasType Γ e t) : s = t := by
  induction hs generalizing t with
  | integer hk hv => cases ht <;> simp_all
  | float hk _ => cases ht <;> simp_all
  | char hk => cases ht <;> simp_all
  | truth hk => cases ht <;> simp_all
  | name h =>
    cases ht with
    | name h' => exact Option.some.inj (h.symm.trans h')
  | index h _ _ _ =>
    cases ht with
    | index h' _ _ => exact Option.some.inj (h.symm.trans h')
  | group _ ih =>
    cases ht with
    | group h' => exact ih h'
  | unary _ _ htype ih =>
    cases ht with
    | unary h' _ htype' =>
      obtain rfl := ih h'
      exact Option.some.inj (htype.symm.trans htype')
  | binary _ _ _ _ htype ihl ihr =>
    cases ht with
    | binary hl' hr' _ _ htype' =>
      obtain rfl := ihl hl'
      obtain rfl := ihr hr'
      exact Option.some.inj (htype.symm.trans htype')

/-- The type of a literal depends on its kind and its text only. -/
theorem HasType.literal_congr {Γ : Context} {t u : Token} {type : DataType}
    (h : HasType Γ (.literal t) type) (hkind : t.kind = u.kind) (htext : t.text = u.text) :
    HasType Γ (.literal u) type := by
  cases h with
  | integer ht hv => exact .integer (hkind ▸ ht) (htext ▸ hv)
  | float ht hv => exact .float (hkind ▸ ht) (htext ▸ hv)
  | char ht => exact .char (hkind ▸ ht)
  | truth ht => exact .truth (hkind ▸ ht)

end Analysis

end ThreeAddress
