import ThreeAddress.Diagnostic.Basic

/-!
# Bags of diagnostics

A bag keeps diagnostics up to a limit and counts the ones it had to drop. The count is told as a
signed 64-bit word.

## Main definitions

* `Bag.new`, `Bag.add`, `Bag.merge` : building bags.
* `Bag.droppedWord` : the count of dropped diagnostics as it is told.
* `Bag.sort` : by place, then by severity and code.
* `Bag.dedup` : drops repeats of a code at a place.
-/

namespace ThreeAddress

/-- Diagnostics kept up to a limit. -/
structure Bag where
  /-- The diagnostics kept, in order. -/
  items : Array Diagnostic := #[]
  /-- The largest number of diagnostics to keep. -/
  limit : UInt16
  /-- The number of diagnostics dropped. -/
  dropped : Nat := 0
deriving Repr, DecidableEq, Inhabited

namespace Bag

/-- The largest limit. -/
def maxLimit : UInt16 := 65535

/-- Gives the limit for a wanted number of diagnostics: anything above the largest is cut. -/
def limitOf (n : Nat) : UInt16 :=
  if n ≤ maxLimit.toNat then UInt16.ofNat n else maxLimit

/-- An empty bag. A limit that is not positive means 100. -/
def new (limit : Int) : Bag where
  limit := if limit ≤ 0 then 100 else limitOf limit.toNat

/-- The number of diagnostics kept. -/
def size (b : Bag) : Nat :=
  b.items.size

/-- The number of diagnostics dropped as it is told: a signed 64-bit word, which wraps around. -/
def droppedWord (b : Bag) : Int64 :=
  Int64.ofNat b.dropped

/-- Tests whether the bag takes another diagnostic. -/
def hasRoom (b : Bag) : Bool :=
  decide (b.items.size < b.limit.toNat)

/-- Keeps a diagnostic, or drops it if the bag is full. -/
def add (b : Bag) (d : Diagnostic) : Bag :=
  if b.hasRoom then { b with items := b.items.push d }
  else { b with dropped := b.dropped + 1 }

/-- Keeps diagnostics one after another. -/
def addAll (b : Bag) (ds : List Diagnostic) : Bag :=
  ds.foldl add b

/-- Tests whether a kept diagnostic makes its unit fail. -/
def hasErrors (b : Bag) : Bool :=
  b.items.any fun d => d.severity.isError

/-- Tests whether a kept diagnostic is a warning or more. -/
def hasWarnings (b : Bag) : Bool :=
  b.items.any fun d => d.severity.isWarning

/-- Raises the limit so that `n` diagnostics fit, as far as limits go. -/
def growTo (b : Bag) (n : Nat) : Bag :=
  if b.limit.toNat < n then { b with limit := limitOf n } else b

/-- Adds the diagnostics of another bag, with a raised limit if they need it, and its count of
dropped ones. -/
def merge (b other : Bag) : Bag :=
  let joined := (b.growTo (b.size + other.size)).addAll other.items.toList
  { joined with dropped := joined.dropped + other.dropped }

/-- Adds a bag to itself. What is dropped on the way counts in both roles. -/
def mergeSelf (b : Bag) : Bag :=
  let joined := (b.growTo (b.size + b.size)).addAll b.items.toList
  { joined with dropped := joined.dropped + joined.dropped }

/-- Compares diagnostics by file, start and end of the span, falling severity, and code. -/
def precedes (d e : Diagnostic) : Bool :=
  if d.span.file ≠ e.span.file then d.span.file < e.span.file
  else if d.span.start ≠ e.span.start then d.span.start < e.span.start
  else if d.span.stop ≠ e.span.stop then d.span.stop < e.span.stop
  else if d.severity ≠ e.severity then e.severity.rank < d.severity.rank
  else d.code.number < e.code.number

/-- Sorts the kept diagnostics; those that compare equal stay in order. -/
def sort (b : Bag) : Bag :=
  { b with items := (b.items.toList.mergeSort fun d e => !precedes e d).toArray }

end Bag

/-- What makes diagnostics repeats of each other: the code identifier and the place, in one text. -/
def Diagnostic.repeatKey (d : Diagnostic) : Bytes :=
  d.code.id ++ utf8 ":" ++ d.span.render

/-- An array of diagnostics that is being cleared of repeats in place. -/
structure Sieve where
  /-- The array; the diagnostics kept so far stand in front. -/
  items : Array Diagnostic
  /-- The number of diagnostics kept. -/
  kept : Nat := 0
  /-- The keys of the diagnostics kept. -/
  seen : List Bytes := []
deriving Repr

/-- Looks at the diagnostic at an index: it moves behind those kept, unless it repeats one. -/
def Sieve.look (s : Sieve) (i : Nat) : Sieve :=
  match s.items[i]? with
  | none => s
  | some d =>
    if s.seen.contains d.repeatKey then s
    else ⟨s.items.setIfInBounds s.kept d, s.kept + 1, d.repeatKey :: s.seen⟩

/-- Keeps the first of the diagnostics that share a code identifier and a place. -/
def Bag.dedup (b : Bag) : Bag :=
  let s := (List.range b.items.size).foldl Sieve.look { items := b.items }
  { b with items := s.items.take s.kept }

end ThreeAddress
