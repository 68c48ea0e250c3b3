import ThreeAddress.Bytes

/-!
# Faults

A fault is a use that the library has no answer for: reading what is not there, or handing an
operation a node it does not know. Operations that can be used so return the fault as a value.
-/

namespace ThreeAddress

/-- Why an operation has no answer. -/
inductive Fault where
  /-- Something absent was read: a position outside a text, a file outside its set, a missing
  operand. -/
  | absent
  /-- The operation was handed something that it names in its complaint. -/
  | refused (complaint : Bytes)
deriving Repr, DecidableEq, Inhabited

/-- The wording of a fault. -/
def Fault.message : Fault → Bytes
  | .absent => utf8 "runtime error"
  | .refused complaint => complaint

end ThreeAddress
