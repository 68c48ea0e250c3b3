import ThreeAddress.Diagnostic.Bag
import ThreeAddress.Render.Location
import ThreeAddress.Text.Json

/-!
# Diagnostics for programs

The diagnostics of a bag as a JSON document.
-/

namespace ThreeAddress.Render

/-- What to write about diagnostics. -/
structure DocumentOptions where
  /-- Whether lines and columns are written. -/
  positions : Bool := false
  /-- Whether notes are written. -/
  notes : Bool := false
  /-- The largest number of diagnostics to write; no bound unless positive. -/
  max : Int := 0
deriving Repr, Inhabited

/-- A place as a JSON object. -/
def location (o : DocumentOptions) (p : Places) (s : Span) : Except Fault Json := do
  let f ← p.file s
  let start := f.position s.start
  let stop := f.position s.stop
  return .object <|
    [(utf8 "file", .text (p.showPath f)),
      (utf8 "start_byte", .int s.start.toNat),
      (utf8 "end_byte", .int s.stop.toNat)]
    ++ if o.positions then
        Json.intMember "start_line" start.line.toNat
        ++ Json.intMember "start_col" start.column.toNat
        ++ Json.intMember "end_line" stop.line.toNat
        ++ Json.intMember "end_col" stop.column.toNat
      else []

/-- A note as a JSON object. -/
def noteObject (o : DocumentOptions) (p : Places) (n : Note) : Except Fault Json := do
  let at' ← location o p n.span
  return .object [(utf8 "message", .text n.message), (utf8 "location", at')]

/-- A diagnostic as a JSON object. -/
def diagnosticObject (o : DocumentOptions) (p : Places) (d : Diagnostic) : Except Fault Json := do
  let at' ← location o p d.span
  let notes ← if o.notes then d.notes.mapM (noteObject o p) else pure []
  return .object <|
    [(utf8 "severity", .text d.severity.name),
      (utf8 "code", .text d.code.id),
      (utf8 "message", .text d.message),
      (utf8 "location", at')]
    ++ if notes.isEmpty then [] else [(utf8 "notes", .array notes)]

/-- The diagnostics that a document shows. -/
def shownItems (o : DocumentOptions) (b : Bag) : List Diagnostic :=
  if 0 < o.max then b.items.toList.take o.max.toNat else b.items.toList

/-- The document of a bag: the diagnostics shown, the number kept and the number dropped. -/
def document (o : DocumentOptions) (p : Places) (b : Bag) : Except Fault Json := do
  let items ← (shownItems o b).mapM (diagnosticObject o p)
  return .object <|
    [(utf8 "diagnostics", .array items), (utf8 "count", .int b.size)]
    ++ Json.intMember "dropped" b.droppedWord.toInt

/-- The text of a document. -/
def documentText (o : DocumentOptions) (p : Places) (b : Bag) : Except Fault Bytes := do
  let doc ← document o p b
  return doc.indented 0 ++ utf8 "\n"

end ThreeAddress.Render
