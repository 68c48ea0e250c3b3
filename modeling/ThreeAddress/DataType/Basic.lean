import ThreeAddress.Bytes

/-!
# Types of the source language

The scalar types are two widths of integers and of floats, chars and truth values; beside them
there are byte strings of fixed length and arrays. A descriptor is a kind with a count and
possibly an element; declarations only produce the well-shaped ones.

## Main definitions

* `TypeKind`, `DataType` : kinds and descriptors.
* `DataType.string`, `DataType.array` : the descriptors of the compound types.
* `DataType.same` : when two descriptors describe the same type.
* `DataType.render` : the spelling of a type.
-/

namespace ThreeAddress

/-- The kind of a type. -/
inductive TypeKind where
  /-- No type. -/
  | invalid
  /-- Integers of 32 bits. -/
  | int32
  /-- Integers of 64 bits. -/
  | int64
  /-- Floats of 32 bits. -/
  | float32
  /-- Floats of 64 bits. -/
  | float64
  /-- Single bytes. -/
  | char
  /-- Truth values. -/
  | bool
  /-- Byte strings of fixed length. -/
  | string
  /-- Arrays. -/
  | array
  /-- A number that names no kind. -/
  | unassigned (number : UInt8)
deriving Repr, DecidableEq, Inhabited

namespace TypeKind

/-- The kinds in the order of their numbers. -/
def all : List TypeKind :=
  [.invalid, .int32, .int64, .float32, .float64, .char, .bool, .string, .array]

/-- Gives the kind with a number. -/
def ofNumber (n : UInt8) : TypeKind :=
  match all[n.toNat]? with
  | some k => k
  | none => .unassigned n

/-- The number of a kind. -/
def number : TypeKind → UInt8
  | .invalid => 0
  | .int32 => 1
  | .int64 => 2
  | .float32 => 3
  | .float64 => 4
  | .char => 5
  | .bool => 6
  | .string => 7
  | .array => 8
  | .unassigned n => n

/-- The name of a kind. -/
def name : TypeKind → Bytes
  | .invalid => utf8 "invalid"
  | .int32 => utf8 "i32"
  | .int64 => utf8 "i64"
  | .float32 => utf8 "f32"
  | .float64 => utf8 "f64"
  | .char => utf8 "char"
  | .bool => utf8 "bool"
  | .string => utf8 "string"
  | .array => utf8 "array"
  | .unassigned n => utf8 "Kind(" ++ decimal n.toNat ++ utf8 ")"

end TypeKind

/-- A type descriptor: a kind, a count, and possibly an element type. -/
inductive DataType where
  /-- A descriptor without an element type. -/
  | leaf (kind : TypeKind) (count : UInt32)
  /-- A descriptor with an element type. -/
  | compound (kind : TypeKind) (count : UInt32) (elem : DataType)
deriving Repr, DecidableEq

namespace DataType

/-- The descriptor of no type. -/
def invalid : DataType := leaf .invalid 0

instance : Inhabited DataType := ⟨invalid⟩

/-- Integers of 32 bits. -/
def int32 : DataType := leaf .int32 0

/-- Integers of 64 bits. -/
def int64 : DataType := leaf .int64 0

/-- Floats of 32 bits. -/
def float32 : DataType := leaf .float32 0

/-- Floats of 64 bits. -/
def float64 : DataType := leaf .float64 0

/-- Single bytes. -/
def char : DataType := leaf .char 0

/-- Truth values. -/
def bool : DataType := leaf .bool 0

/-- Byte strings of `count` bytes. -/
def string (count : UInt32) : DataType := leaf .string count

/-- Arrays of `count` elements. -/
def array (elem : DataType) (count : UInt32) : DataType := compound .array count elem

/-- The kind of a descriptor. -/
def kind : DataType → TypeKind
  | leaf k _ | compound k _ _ => k

/-- The count of a descriptor. -/
def count : DataType → UInt32
  | leaf _ n | compound _ n _ => n

/-- Tests whether a descriptor names a type. -/
def isValid (t : DataType) : Bool :=
  t.kind != .invalid

/-- Tests whether a type takes part in arithmetic. -/
def isNumeric (t : DataType) : Bool :=
  match t.kind with
  | .int32 | .int64 | .float32 | .float64 | .char => true
  | _ => false

/-- Tests whether two descriptors describe the same type. Only arrays look at their elements. -/
def same : DataType → DataType → Bool
  | leaf k m, leaf l n => k == l && m == n
  | leaf k m, compound l n _ => k == l && m == n && k != .array
  | compound k m _, leaf l n => k == l && m == n && k != .array
  | compound k m s, compound l n t => k == l && m == n && (k != .array || same s t)

/-- The spelling of a type in declarations. The length of a byte string is not shown. -/
def render : DataType → Bytes
  | leaf .array n => utf8 "[" ++ decimal n.toNat ++ utf8 "]invalid"
  | leaf k _ => k.name
  | compound .array n t => utf8 "[" ++ decimal n.toNat ++ utf8 "]" ++ t.render
  | compound k _ _ => k.name

/-- The scalar type of a name. -/
def ofName? (name : Bytes) : Option DataType :=
  if name = utf8 "i32" then some int32
  else if name = utf8 "i64" then some int64
  else if name = utf8 "f32" then some float32
  else if name = utf8 "f64" then some float64
  else if name = utf8 "char" then some char
  else if name = utf8 "bool" then some bool
  else none

end DataType

end ThreeAddress
