import ThreeAddress.Progress.Event

/-!
# Progress boards

A board follows the events of a build: it keeps for every file what is being done with it, and for
the whole build a label.

## Main definitions

* `Progress.Board` : the state of all files.
* `Progress.Board.apply` : follows an event.
* `Progress.Board.share` : which part of the work is done.
-/

namespace ThreeAddress.Progress

/-- What is being done with a file, or with the whole build. -/
inductive Label where
  /-- It waits. -/
  | queued
  /-- It is being compiled. -/
  | compiling
  /-- Its code is being written. -/
  | writing
  /-- The build is going on. -/
  | building
  /-- Its result was stored before. -/
  | cached
  /-- It has worked. -/
  | done
  /-- It has failed. -/
  | error
deriving Repr, DecidableEq, Inhabited

namespace Label

/-- The wording of a label. -/
def name : Label → Bytes
  | queued => utf8 "queued"
  | compiling => utf8 "compiling"
  | writing => utf8 "writing"
  | building => utf8 "building"
  | cached => utf8 "cached"
  | done => utf8 "done"
  | error => utf8 "error"

/-- The label of work on a stage. -/
def ofStage? : Stage → Option Label
  | .compile => some compiling
  | .write => some writing
  | .build => some building
  | .other _ => none

/-- The label of a stage that stands in some way. -/
def of? (stage : Stage) : Status → Option Label
  | .queued => some queued
  | .done => some done
  | .cached => some cached
  | .error => some error
  | .working => ofStage? stage
  | .other _ => none

end Label

/-- A file on a board. -/
structure Item where
  /-- The file. -/
  path : Bytes
  /-- What is being done with it. -/
  label : Label := .queued
  /-- The stage of the last event about it. -/
  stage : Option Stage := none
deriving Repr, DecidableEq, Inhabited

namespace Item

/-- The part of the work on a file that is done. -/
def share (i : Item) : Float :=
  match i.label with
  | .done | .cached | .error => 1.0
  | .queued => 0.0
  | _ =>
    match i.stage with
    | some .compile => 0.4
    | some .write => 0.9
    | _ => 0.0

end Item

/-- The state of a build as it is shown. -/
structure Board where
  /-- What is built. -/
  title : Bytes
  /-- The files. -/
  items : List Item
  /-- What is being done with the whole build. -/
  label : Option Label := none
  /-- The width of the screen. -/
  width : Int := 80
  /-- The width of the bar with its percentage. -/
  barWidth : Int := 76
  /-- The frame of the spinner. -/
  frame : Nat := 0
  /-- Whether the build is over. -/
  isOver : Bool := false
deriving Repr, Inhabited

namespace Board

/-- The board in front of a build. -/
def start (title : Bytes) (files : List Bytes) : Board where
  title := title
  items := files.map fun f => { path := f }

/-- Changes the last item for which a test holds. -/
def updateLast (test : Item → Bool) (f : Item → Item) : List Item → List Item
  | [] => []
  | i :: is =>
    if is.any test then i :: updateLast test f is
    else if test i then f i :: is
    else i :: is

/-- Follows an event. Of several items for one file the last one is changed. -/
def apply (b : Board) (e : Event) : Board :=
  match Label.of? e.stage e.status with
  | none => b
  | some l =>
    if e.file = [] then { b with label := some l }
    else
      let follow (i : Item) := { i with label := l, stage := some e.stage }
      { b with items := updateLast (fun i => i.path = e.file) follow b.items }

/-- The part of the work that is done. -/
def share (b : Board) : Float :=
  if b.items.isEmpty then 0.0
  else (b.items.foldl (fun t i => t + i.share) 0.0) / b.items.length.toFloat

/-- The number of frames of the spinner. -/
def frameCount : Nat := 8

/-- Turns the spinner, unless the build is over. -/
def tick (b : Board) : Board :=
  if b.isOver then b else { b with frame := (b.frame + 1) % frameCount }

/-- Follows a change of the screen; a width that is not positive changes nothing. -/
def resize (b : Board) (width : Int) : Board :=
  if 0 < width then { b with width := width, barWidth := width - 4 } else b

/-- Notes that the build is over. -/
def finish (b : Board) : Board :=
  { b with isOver := true }

end Board

/-- What reaches a board. -/
inductive Message where
  /-- An event of the build. -/
  | event (e : Event)
  /-- The build is over. -/
  | closed
  /-- The spinner turns. -/
  | tick
  /-- The screen has a new width. -/
  | resize (width : Int)
  /-- Something that is not meant for the board. -/
  | other
deriving Repr

/-- Follows a message. The answer tells whether the board wants something done next: waiting for
the next event or tick, or ending the show. -/
def Board.receive (b : Board) : Message → Board × Bool
  | .event e => (b.apply e, true)
  | .closed => (b.finish, true)
  | .tick => (b.tick, !b.isOver)
  | .resize w => (b.resize w, false)
  | .other => (b, false)

end ThreeAddress.Progress
