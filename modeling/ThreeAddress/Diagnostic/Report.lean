import ThreeAddress.Diagnostic.Bag

/-!
# Reporting

Phases report diagnostics one at a time. Recovery after an error can run into the same bad token
again, so repeats may be filtered on the way; a diagnostic with notes is drafted first and sent
once.

## Main definitions

* `Dedup` : forwards each diagnostic the first time only.
* `Draft` : a diagnostic that collects notes until it is sent.
-/

namespace ThreeAddress

/-- What makes two reports the same: everything but the notes. -/
structure ReportKey where
  /-- The code. -/
  code : Code
  /-- The severity. -/
  severity : Severity
  /-- The place. -/
  span : Span
  /-- The message. -/
  message : Bytes
deriving Repr, DecidableEq

/-- The key of a diagnostic. -/
def Diagnostic.reportKey (d : Diagnostic) : ReportKey :=
  ⟨d.code, d.severity, d.span, d.message⟩

/-- A filter that forwards each diagnostic the first time only. -/
structure Dedup where
  /-- The keys of the diagnostics forwarded so far. -/
  seen : List ReportKey := []
deriving Repr, Inhabited

namespace Dedup

/-- Tests whether a diagnostic is new, and remembers it. -/
def pass (r : Dedup) (d : Diagnostic) : Bool × Dedup :=
  if r.seen.contains d.reportKey then (false, r) else (true, ⟨d.reportKey :: r.seen⟩)

/-- Keeps the new diagnostics of a list. -/
def filter (r : Dedup) : List Diagnostic → List Diagnostic
  | [] => []
  | d :: ds =>
    match r.pass d with
    | (true, r) => d :: filter r ds
    | (false, r) => filter r ds

end Dedup

/-- A diagnostic in the making. -/
structure Draft where
  /-- The diagnostic so far. -/
  diagnostic : Diagnostic
  /-- Whether it has been sent. -/
  sent : Bool := false
deriving Repr, Inhabited

namespace Draft

/-- Starts a draft without notes. -/
def new (severity : Severity) (code : Code) (span : Span) (message : Bytes) : Draft :=
  ⟨⟨severity, code, span, message, []⟩, false⟩

/-- Adds a note. -/
def note (r : Draft) (span : Span) (message : Bytes) : Draft :=
  { r with diagnostic := { r.diagnostic with notes := r.diagnostic.notes ++ [⟨span, message⟩] } }

/-- Sends a draft: the diagnostic to report, if it has not been sent before. -/
def send (r : Draft) : Option Diagnostic × Draft :=
  (if r.sent then none else some r.diagnostic, { r with sent := true })

end Draft

end ThreeAddress
