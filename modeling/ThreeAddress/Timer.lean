import ThreeAddress.Text.Fixed
import ThreeAddress.Text.Utf8

/-!
# Timers

A timer keeps the phases of some work: what was done, how long it took, and a note about it.

## Main definitions

* `Timer.begin`, `Timer.finish` : the two ends of a phase.
* `Timer.merge` : takes over the phases of another timer.
* `Timer.summary` : a table of the phases.
-/

namespace ThreeAddress

/-- A phase of some work. -/
structure Phase where
  /-- Its name. -/
  name : Bytes
  /-- A note about it. -/
  note : Bytes := []
  /-- How long it took, in nanoseconds. -/
  elapsed : Nat := 0
deriving Repr, DecidableEq, Inhabited

/-- The phases of some work. -/
structure Timer where
  /-- The phases in the order they began. -/
  phases : List Phase := []
deriving Repr, DecidableEq, Inhabited

namespace Timer

/-- Begins a phase; the answer is its number. -/
def begin (t : Timer) (name : Bytes) : Nat × Timer :=
  (t.phases.length, ⟨t.phases ++ [{ name := name }]⟩)

/-- Ends a phase. A number without a phase changes nothing. -/
def finish (t : Timer) (number : Int) (note : Bytes) (elapsed : Nat) : Timer :=
  if number < 0 then t
  else ⟨t.phases.modify number.toNat fun p => { p with note := note, elapsed := elapsed }⟩

/-- Takes over the phases of another timer, with a prefix and a slash in front of their names. -/
def merge (t : Timer) (heading : Bytes) (other : Timer) : Timer :=
  ⟨t.phases ++ other.phases.map fun p =>
    if heading = [] then p else { p with name := heading ++ utf8 "/" ++ p.name }⟩

/-- How long all phases took. -/
def total (t : Timer) : Nat :=
  t.phases.foldl (fun total p => total + p.elapsed) 0

/-- A duration in milliseconds with two places. -/
def milliseconds (elapsed : Nat) : Bytes :=
  let number := Fixed.quotient 2 elapsed 1000000
  Bytes.padLeft 8 number.length number ++ utf8 " ms"

/-- The line of a phase. -/
def line (name : Bytes) (elapsed : Nat) (note : Bytes) : Bytes :=
  utf8 "  " ++ Bytes.padRight 28 (Utf8.length name) name ++ utf8 " " ++ milliseconds elapsed
    ++ (if note = [] then [] else utf8 "  // " ++ note) ++ utf8 "\n"

/-- A table of the phases with their total. -/
def summary (t : Timer) : Bytes :=
  utf8 "timings:\n" ++ t.phases.flatMap (fun p => line p.name p.elapsed p.note)
    ++ line (utf8 "total") t.total []

end Timer

end ThreeAddress
