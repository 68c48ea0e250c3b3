import ThreeAddress.Diagnostic.Bag
import ThreeAddress.Render.Location
import ThreeAddress.Render.Style
import ThreeAddress.Unicode.DisplayWidth

/-!
# Diagnostics for people

Each diagnostic is shown with its place, its severity and code, the source line it starts on, and a
caret under the place. A span that goes on to further lines is underlined to the end of the first.

## Main definitions

* `caretPadding`, `underline` : what stands under the source line.
* `excerpt` : the source line with its caret.
* `pretty` : all diagnostics of a bag.
-/

namespace ThreeAddress.Render

/-- What to show of diagnostics. -/
structure PrettyOptions where
  /-- Whether colors are wanted. -/
  colored : Bool := false
  /-- Whether notes are shown. -/
  notes : Bool := false
deriving Repr, Inhabited

/-- The style of a severity. -/
def severityStyle (s : Severity) : Style :=
  if s = .error then .boldRed else if s = .warning then .boldYellow else .boldCyan

/-- The blanks under a piece of text: tabs stay tabs. -/
def padding (p : Utf8.Piece) : Bytes :=
  if p.char = '\t' then utf8 "\t" else List.replicate (Unicode.charWidth p.char) ' '.toUInt8

/-- The blanks under the text in front of a caret. -/
def caretPadding (text : Bytes) : Bytes :=
  (Utf8.pieces text).flatMap padding

/-- A caret with a line under the rest of a text of the given width. -/
def underline (width : Nat) : Bytes :=
  utf8 "^" ++ List.replicate (width - 1) '~'.toUInt8

/-- The part of a line in front of a column and the part from there to a second column, both
columns counted from 0. A column in front of the line has no such parts. -/
def cut (line : Bytes) (column stop : Int) : Except Fault (Bytes × Bytes) :=
  if column < 0 then .error .absent
  else
    let c := min column.toNat line.length
    let e := max c (min stop.toNat line.length)
    .ok (line.take c, SourceFile.slice line c e)

/-- The source line of a place with a caret under the place. An empty line is not shown, unless the
place is behind it. -/
def excerpt (o : PrettyOptions) (f : SourceFile) (start stop : Position) :
    Except Fault Bytes :=
  let line := f.line start.line
  if line = [] ∧ start.column ≤ 1 then .ok []
  else do
    let last : Int := if stop.line = start.line then (stop.column.toNat : Int) - 1 else line.length
    let (before, marked) ← cut line ((start.column.toNat : Int) - 1) last
    let gutter := decimal start.line.toNat
    let bar := Style.boldBlue.paint o.colored (utf8 "|")
    return utf8 "  " ++ Style.boldBlue.paint o.colored gutter ++ utf8 " " ++ bar ++ utf8 " " ++ line
      ++ utf8 "\n  " ++ List.replicate gutter.length ' '.toUInt8 ++ utf8 " " ++ bar ++ utf8 " "
      ++ caretPadding before
      ++ Style.boldGreen.paint o.colored (underline (Unicode.textWidth marked)) ++ utf8 "\n"

/-- A place as path, line and column. -/
def place (p : Places) (s : Span) : Except Fault Bytes := do
  let f ← p.file s
  return p.showPath f ++ utf8 ":" ++ position (f.position s.start)

/-- A note on a line of its own. -/
def noteLine (o : PrettyOptions) (p : Places) (n : Note) : Except Fault Bytes := do
  let at' ← place p n.span
  return utf8 "  " ++ Style.blue.paint o.colored (utf8 "note:") ++ utf8 " " ++ at' ++ utf8 ": "
    ++ n.message ++ utf8 "\n"

/-- One diagnostic with its excerpt and notes. -/
def diagnostic (o : PrettyOptions) (p : Places) (d : Diagnostic) : Except Fault Bytes := do
  let f ← p.file d.span
  let at' ← place p d.span
  let shown ← excerpt o f (f.position d.span.start) (f.position d.span.stop)
  let notes ← if o.notes then d.notes.mapM (noteLine o p) else pure []
  return at' ++ utf8 ": "
    ++ (severityStyle d.severity).paint o.colored d.severity.name ++ utf8 " "
    ++ Style.bold.paint o.colored d.code.id ++ utf8 ": " ++ d.message ++ utf8 "\n"
    ++ shown ++ notes.flatten

/-- The remark about dropped diagnostics. Their number is told as a signed word, and there is no
remark unless it is positive. -/
def droppedLine (n : Nat) : Bytes :=
  let told := (Int64.ofNat n).toInt
  if told ≤ 0 then []
  else utf8 "... " ++ decimal told.toNat ++ utf8 " more diagnostic(s) not shown\n"

/-- All diagnostics of a bag. -/
def pretty (o : PrettyOptions) (p : Places) (b : Bag) : Except Fault Bytes := do
  let shown ← b.items.toList.mapM (diagnostic o p)
  return shown.flatten ++ droppedLine b.dropped

end ThreeAddress.Render
