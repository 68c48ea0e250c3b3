import ThreeAddress.Diagnostic.Code
import ThreeAddress.Source.Span

/-!
# Diagnostics

A diagnostic says something about a span of the source, possibly with notes at other places.
-/

namespace ThreeAddress

/-- A remark at a second place. -/
structure Note where
  /-- The place. -/
  span : Span
  /-- The remark. -/
  message : Bytes
deriving Repr, DecidableEq, Inhabited

/-- Something the compiler has to say about a source. -/
structure Diagnostic where
  /-- How important it is. -/
  severity : Severity
  /-- What it is about. -/
  code : Code
  /-- The place it is about. -/
  span : Span
  /-- What it says. -/
  message : Bytes
  /-- Remarks at other places. -/
  notes : List Note := []
deriving Repr, DecidableEq, Inhabited

namespace Diagnostic

/-- An error without notes. -/
def ofError (code : Code) (span : Span) (message : Bytes) : Diagnostic :=
  ⟨.error, code, span, message, []⟩

end Diagnostic

end ThreeAddress
