import ThreeAddress.Unicode.DisplayWidth

/-!
# Cells of a terminal line

The number of cells that a line takes when a terminal shows it. Escape sequences and controls take
none, and a printable ASCII character takes one by itself. Any other character is taken together
with its cluster: the parts of a cluster add up, but a flag takes two cells, a Hangul cluster as
many as its first letter, and a pictograph one or two as the selector behind it says.

## Main definitions

* `clusterCells` : the cells of the cluster at the front of a text.
* `Escape` : where a line stands within an escape sequence.
* `cells` : the cells of a line.
-/

namespace ThreeAddress.Unicode

/-- Wide pictographs that are shown as text unless a selector follows. -/
def textPictographs : RangeSet :=
  [(0x3030, 0x3030), (0x303D, 0x303D), (0x3297, 0x3297), (0x3299, 0x3299), (0x1F202, 0x1F202),
  (0x1F237, 0x1F237), (0x1F260, 0x1F265)]

/-- The number of cells of a character within its cluster. -/
def charCells (c : Char) (g : GraphemeBreak) : Nat :=
  match g with
  | .control | .carriageReturn | .lineFeed | .extend | .joiner => 0
  | .regional => 2
  | .pictographic => if wideRanges.contains c && !textPictographs.contains c then 2 else 1
  | _ =>
    if c.toNat = 0x2E3A then 3
    else if c.toNat = 0x2E3B then 4
    else if wideRanges.contains c then 2
    else 1

/-- The cells of a cluster that starts with a property and has so many cells so far, and the number
of further characters in it. -/
def clusterCellsFrom (first : GraphemeBreak) (state : GraphemeState) (width : Nat) :
    List Utf8.Piece → Nat × Nat
  | [] => (width, 0)
  | p :: ps =>
    let c := p.char
    let g := graphemeBreak c
    if state.continues g then
      let width := match first with
        | .pictographic =>
          if c.toNat = 0xFE0E then 1 else if c.toNat = 0xFE0F then 2 else width
        | .regional | .leading => width
        | _ => width + charCells c g
      let (total, more) := clusterCellsFrom first (.after (some state) g) width ps
      (total, more + 1)
    else (width, 0)

/-- The cells of the cluster at the front of a text, and the number of characters behind the first
one in it. -/
def clusterCells : List Utf8.Piece → Nat × Nat
  | [] => (0, 0)
  | p :: ps =>
    let g := graphemeBreak p.char
    clusterCellsFrom g (.after none g) (charCells p.char g) ps

/-- Where a line stands within an escape sequence. -/
inductive Escape where
  /-- Outside. -/
  | none
  /-- Behind the escape character. -/
  | start
  /-- Behind the escape character and further marks. -/
  | marks
  /-- Within a control sequence. -/
  | control
  /-- Within a string, which an alert may end or not. -/
  | string (alertEnds : Bool)
deriving Repr, DecidableEq

/-- Where a line stands behind an ASCII character or a control of one byte. -/
def Escape.after (e : Escape) (n : Nat) : Escape :=
  if n = 0x1B then .start
  else if n = 0x18 ∨ n = 0x1A then .none
  else if n = 0x9B then .control
  else if n = 0x9D then .string true
  else if n = 0x90 ∨ n = 0x98 ∨ n = 0x9E ∨ n = 0x9F then .string false
  else if 0x80 ≤ n then .none
  else match e with
    | .none => .none
    | .start =>
      if n < 0x20 ∨ n = 0x7F then .start
      else if n < 0x30 then .marks
      else if n = '['.toNat then .control
      else if n = ']'.toNat then .string true
      else if n = 'P'.toNat ∨ n = 'X'.toNat ∨ n = '^'.toNat ∨ n = '_'.toNat then .string false
      else .none
    | .marks => if n < 0x30 ∨ n = 0x7F then .marks else .none
    | .control => if n < 0x40 ∨ n = 0x7F then .control else .none
    | .string alertEnds => if alertEnds && n = 0x07 then .none else .string alertEnds

/-- The cells of a line that stands within an escape sequence or outside, not counting the `skip`
characters that belong to a cluster already counted. -/
def cellsFrom (e : Escape) : (skip : Nat) → List Utf8.Piece → Nat
  | _, [] => 0
  | skip + 1, _ :: ps => cellsFrom e skip ps
  | 0, p :: ps =>
    let n := (p.bytes.head?.getD 0).toNat
    if 0xC2 ≤ n ∧ n ≤ 0xF4 then
      match e with
      | .string _ => cellsFrom e 0 ps
      | _ =>
        let (width, more) := clusterCells (p :: ps)
        width + cellsFrom .none more ps
    else
      let width := if e = .none ∧ 0x20 ≤ n ∧ n < 0x7F then 1 else 0
      width + cellsFrom (e.after n) 0 ps

/-- The cells of a line. -/
def cells (line : Bytes) : Nat :=
  cellsFrom .none 0 (Utf8.pieces line)

end ThreeAddress.Unicode
