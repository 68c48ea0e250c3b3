import ThreeAddress.DataType.Basic

/-!
# Widths and promotion

The storage that a value takes, and the common type of two numeric operands.

## Main definitions

* `DataType.checkedWidth` : the width as a 64-bit word, and whether it is exact.
* `DataType.width` : the width, cut off at the largest word.
* `DataType.upcast?` : the wider of two numeric types.
-/

namespace ThreeAddress.DataType

/-- The width in bytes of a descriptor without elements. -/
def leafWidth (k : TypeKind) (count : UInt32) : UInt64 :=
  match k with
  | .int32 | .float32 => 4
  | .int64 | .float64 => 8
  | .bool | .char => 1
  | .string => count.toUInt64
  | _ => 0

/-- The width in bytes, and whether it is exact: it is not when an array, or one nested in it, takes
`2 ^ 64` bytes or more. An inexact width is the low word of the product, or 0 if the element's
width is inexact already. -/
def checkedWidth : DataType → UInt64 × Bool
  | leaf k n => (leafWidth k n, true)
  | compound k n t =>
    match k with
    | .array =>
      match t.checkedWidth with
      | (_, false) => (0, false)
      | (w, true) =>
        let product := w.toNat * n.toNat
        (UInt64.ofNat product, decide (product < UInt64.size))
    | k => (leafWidth k n, true)

/-- The width in bytes, or the largest word if the width is not exact. -/
def width (t : DataType) : UInt64 :=
  match t.checkedWidth with
  | (w, true) => w
  | (_, false) => 0xFFFFFFFFFFFFFFFF

/-- The numeric kinds from widest to narrowest. -/
def promotion : List TypeKind :=
  [.float64, .float32, .int64, .int32, .char]

/-- The common type of two numeric operands: the first kind of the promotion order that one of them
has. -/
def upcast? (s t : DataType) : Option DataType :=
  if s.isNumeric && t.isNumeric then
    (promotion.find? fun k => s.kind == k || t.kind == k).map fun k => leaf k 0
  else none

end ThreeAddress.DataType
