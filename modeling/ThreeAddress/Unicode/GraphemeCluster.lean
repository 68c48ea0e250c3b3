import ThreeAddress.Text.Utf8
import ThreeAddress.Unicode.GraphemeBreak

/-!
# Grapheme clusters

A text is cut into user-perceived characters by the rules of extended grapheme clusters. Bytes that
are no encoding of a character count as characters without a special rule, as many together as
follow a first byte in the way an encoding would; if they break off at the end of the text, they
stay with what is before them.

## Main definitions

* `stretches` : the stretches of a text that the rules see as one character.
* `GraphemeState` : what the rules need to know about the text before a boundary.
* `clusters` : the clusters of a text.
-/

namespace ThreeAddress.Unicode

/-- Where a cluster stands with respect to sequences of joined pictographs. -/
inductive Joining where
  /-- Not behind a pictograph. -/
  | none
  /-- Behind a pictograph and marks. -/
  | pictograph
  /-- Behind a pictograph, marks and a joiner. -/
  | joined
deriving Repr, DecidableEq

/-- What the rules need to know about the text before a boundary. -/
structure GraphemeState where
  /-- The property of the last character. -/
  last : GraphemeBreak
  /-- Whether an odd number of flag halves is last. -/
  oddRegional : Bool
  /-- The state of joined pictographs. -/
  joining : Joining
deriving Repr, DecidableEq

/-- The state behind a character, given the state before it. -/
def GraphemeState.after (before : Option GraphemeState) (g : GraphemeBreak) : GraphemeState where
  last := g
  oddRegional := g == .regional && !((before.map GraphemeState.oddRegional).getD false)
  joining := match g, (before.map GraphemeState.joining).getD .none with
    | .pictographic, _ => .pictograph
    | .extend, .pictograph => .pictograph
    | .joiner, .pictograph => .joined
    | _, _ => .none

/-- Tests whether a cluster goes on with a character. -/
def GraphemeState.continues (s : GraphemeState) (g : GraphemeBreak) : Bool :=
  match s.last, g with
  | .carriageReturn, .lineFeed => true
  | .carriageReturn, _ | .lineFeed, _ | .control, _ => false
  | _, .carriageReturn | _, .lineFeed | _, .control => false
  | .leading, .leading | .leading, .vowel => true
  | .leading, .openSyllable | .leading, .closedSyllable => true
  | .openSyllable, .vowel | .openSyllable, .trailing | .vowel, .vowel | .vowel, .trailing => true
  | .closedSyllable, .trailing | .trailing, .trailing => true
  | _, .extend | _, .joiner | _, .spacingMark => true
  | .prepended, _ => true
  | _, .pictographic => s.joining == .joined
  | .regional, .regional => s.oddRegional
  | _, _ => false

/-- A stretch of bytes that the rules see as one character. -/
structure Stretch where
  /-- The property of the character; the rest of a text that breaks off has none. -/
  property : Option GraphemeBreak
  /-- Its bytes. -/
  bytes : Bytes
deriving Repr, DecidableEq

/-- The number of bytes of an encoding that starts with a byte. -/
def encodingSize (b : UInt8) : Nat :=
  if b < 0xC2 then 1
  else if b < 0xE0 then 2
  else if b < 0xF0 then 3
  else if b < 0xF8 then 4
  else 1

/-- Cuts a text into stretches, passing over the `skip` bytes that the last stretch has already
taken. -/
def stretchesFrom : (skip : Nat) → Bytes → List Stretch
  | _, [] => []
  | skip + 1, _ :: rest => stretchesFrom skip rest
  | 0, b :: rest =>
    let size := encodingSize b
    if ((b :: rest).take size).length < size then [⟨none, b :: rest⟩]
    else match Utf8.encoding? (b :: rest) with
      | some (c, n) => ⟨some (graphemeBreak c), (b :: rest).take n⟩ :: stretchesFrom (n - 1) rest
      | none =>
        let more := (rest.take (size - 1)).takeWhile (Utf8.between 0x80 0xBF)
        ⟨some .other, b :: more⟩ :: stretchesFrom more.length rest

/-- The stretches of a text. -/
def stretches (b : Bytes) : List Stretch :=
  stretchesFrom 0 b

/-- Joins stretches to clusters; `pending` holds the parts of the cluster being read, the last one
first, with the state behind them. -/
def clustersFrom (state : Option GraphemeState) (pending : List Bytes) :
    List Stretch → List Bytes
  | [] => if pending.isEmpty then [] else [pending.reverse.flatten]
  | p :: ps =>
    match p.property, state with
    | none, _ => clustersFrom state (p.bytes :: pending) ps
    | some g, none => clustersFrom (some (.after none g)) (p.bytes :: pending) ps
    | some g, some s =>
      let next := some (GraphemeState.after (some s) g)
      if s.continues g then clustersFrom next (p.bytes :: pending) ps
      else pending.reverse.flatten :: clustersFrom next [p.bytes] ps

/-- The clusters of a text. -/
def clusters (b : Bytes) : List Bytes :=
  clustersFrom none [] (stretches b)

end ThreeAddress.Unicode
