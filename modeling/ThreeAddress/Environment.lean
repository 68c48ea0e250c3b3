import ThreeAddress.Expr.Basic
import ThreeAddress.Text.Quoted

/-!
# Environments

An environment is a stack of scopes. Names are unique within a scope and may shadow names of outer
scopes. Declarations are laid out one after another in a frame; closing a scope gives its storage
back.

## Main definitions

* `Environment.push`, `Environment.pop` : opening and closing scopes.
* `Environment.get?`, `Environment.local?` : resolving names.
* `Environment.declare` : reserving storage for a name.
-/

namespace ThreeAddress

/-- The names declared in one block. -/
structure Scope where
  /-- The bindings, the latest one first. -/
  names : List (Bytes × Identifier) := []
  /-- The size of the frame when the scope was opened. -/
  base : UInt64
deriving Repr, DecidableEq

namespace Scope

/-- Resolves a name. -/
def get? (s : Scope) (name : Bytes) : Option Identifier :=
  s.names.lookup name

/-- Binds a name, in place of an earlier binding of it. -/
def put (s : Scope) (name : Bytes) (id : Identifier) : Scope :=
  { s with names := (name, id) :: s.names.filter fun p => p.1 != name }

/-- A name resolves to what it was bound to last; other names resolve as before. -/
theorem get?_put (s : Scope) (name other : Bytes) (id : Identifier) :
    (s.put name id).get? other = if other = name then some id else s.get? other := by
  unfold put get?
  rw [List.lookup_cons]
  by_cases h : other = name
  · simp [h]
  · rw [beq_eq_false_iff_ne.mpr h, if_neg h]
    induction s.names with
    | nil => rfl
    | cons p names ih =>
      obtain ⟨key, value⟩ := p
      by_cases hkey : key = name
      · subst hkey
        simp [List.lookup_cons, beq_eq_false_iff_ne.mpr h, ih]
      · simp [List.lookup_cons, hkey, ih]

end Scope

/-- A stack of scopes with the frame that they share. -/
structure Environment where
  /-- The open scopes, the innermost one first. -/
  scopes : List Scope := []
  /-- The number of bytes reserved by the open scopes. -/
  frame : UInt64 := 0
deriving Repr, DecidableEq, Inhabited

/-- Why a declaration is refused. -/
inductive DeclareError where
  /-- No scope is open. -/
  | noScope (name : Bytes)
  /-- The type is too wide for a 64-bit size. -/
  | tooWide (name : Bytes) (type : DataType)
  /-- The frame would outgrow a 64-bit size. -/
  | frameOverflow (name : Bytes)
deriving Repr, DecidableEq

/-- The wording of a refused declaration. -/
def DeclareError.message : DeclareError → Bytes
  | .noScope name => utf8 "declare " ++ Quoted.text name ++ utf8 ": no open scope"
  | .tooWide name type =>
    utf8 "declare " ++ Quoted.text name ++ utf8 ": " ++ type.render
      ++ utf8 " does not fit in 64 bits"
  | .frameOverflow name => utf8 "declare " ++ Quoted.text name ++ utf8 ": frame size overflow"

namespace Environment

/-- The number of open scopes. -/
def depth (e : Environment) : Nat :=
  e.scopes.length

/-- Opens a scope. -/
def push (e : Environment) : Environment :=
  { e with scopes := ⟨[], e.frame⟩ :: e.scopes }

/-- Closes the innermost scope and gives its storage back. Without an open scope nothing happens. -/
def pop (e : Environment) : Environment :=
  match e.scopes with
  | [] => e
  | s :: outer => ⟨outer, s.base⟩

/-- Binds a name in the innermost scope. Without an open scope nothing happens. -/
def put (e : Environment) (name : Bytes) (id : Identifier) : Environment :=
  match e.scopes with
  | [] => e
  | s :: outer => { e with scopes := s.put name id :: outer }

/-- Resolves a name from the innermost scope outwards. -/
def get? (e : Environment) (name : Bytes) : Option Identifier :=
  e.scopes.findSome? fun s => s.get? name

/-- Resolves a name in the innermost scope only. -/
def local? (e : Environment) (name : Bytes) : Option Identifier :=
  e.scopes.head?.bind fun s => s.get? name

/-- Reserves storage for a name of the given type and binds it in the innermost scope. -/
def declare (e : Environment) (name : Bytes) (type : DataType) :
    Except DeclareError (Identifier × Environment) :=
  match e.scopes with
  | [] => .error (.noScope name)
  | _ :: _ =>
    match type.checkedWidth with
    | (_, false) => .error (.tooWide name type)
    | (w, true) =>
      if e.frame.toNat + w.toNat < UInt64.size then
        let id : Identifier := ⟨name, type, e.frame⟩
        .ok (id, { e with frame := e.frame + w }.put name id)
      else .error (.frameOverflow name)

end Environment

end ThreeAddress
