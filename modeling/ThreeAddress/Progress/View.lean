import ThreeAddress.Progress.Board
import ThreeAddress.Unicode.CellWidth

/-!
# Showing a progress board

A board is shown as a header, a line for every file, and a bar.
-/

namespace ThreeAddress.Progress

/-- The frames of the spinner. -/
def spinnerFrames : List String :=
  ["⣾", "⣽", "⣻", "⢿", "⡿", "⣟", "⣯", "⣷"]

/-- Cuts a text to a width with dots behind it; where the dots do not fit there are none, and a
width that is not positive cuts nothing. -/
def truncate (text : Bytes) (width : Int) : Bytes :=
  if width ≤ 0 then text
  else Unicode.truncate width (if width ≤ 3 then [] else utf8 "...") text

/-- The columns of a line of a file beside its name. -/
def statusColumns : Int := 16

/-- The smallest width of a name. -/
def minNameWidth : Int := 20

/-- The line of a file. -/
def itemLine (nameWidth : Int) (i : Item) : Bytes :=
  let status := i.label.name
  utf8 "  " ++ Bytes.padLeft 12 status.length status ++ utf8 " " ++ truncate i.path nameWidth
    ++ utf8 "\n"

/-- The bar of a build that is over, or of one that goes on, with its percentage. -/
def bar (width : Int) (isOver : Bool) : Bytes :=
  let cell := utf8 (if isOver then "█" else "░")
  (List.replicate (width - 5).toNat cell).flatten ++ utf8 (if isOver then " 100%" else "   0%")

/-- Shows every tab as four blanks. -/
def expandTabs (text : Bytes) : Bytes :=
  text.flatMap fun b => if b == '\t'.toUInt8 then utf8 "    " else [b]

/-- Pads the lines of a text to the width of the widest one. -/
def block (text : Bytes) : Bytes :=
  let lines := Bytes.splitOn '\n'.toUInt8 (expandTabs text)
  let widest := (lines.map Unicode.cells).foldl max 0
  Bytes.joinWith (utf8 "\n") (lines.map fun l => Bytes.padRight widest (Unicode.cells l) l)

/-- The header of a board. -/
def Board.header (b : Board) : Bytes :=
  let title := match b.label with
    | some l => b.title ++ utf8 " (" ++ l.name ++ utf8 ")"
    | none => b.title
  if b.isOver then utf8 "done: " ++ title
  else utf8 (spinnerFrames.getD b.frame "") ++ utf8 "  " ++ title

/-- Shows a board. Without files there is nothing to show. -/
def Board.view (b : Board) : Bytes :=
  if b.items.isEmpty then []
  else
    let nameWidth := max minNameWidth (b.width - statusColumns)
    block b.header ++ utf8 "\n\n" ++ b.items.flatMap (itemLine nameWidth)
      ++ utf8 "\n" ++ bar b.barWidth b.isOver ++ utf8 "\n"

end ThreeAddress.Progress
