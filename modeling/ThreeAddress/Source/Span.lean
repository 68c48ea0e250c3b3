import ThreeAddress.Bytes

/-!
# Spans

A span is a half-open range of byte offsets in one source file. Offsets are 32-bit words.
-/

namespace ThreeAddress

/-- The number of a source file within its file set. -/
abbrev FileId := UInt32

/-- The bytes from `start` up to, not including, `stop` of one file. -/
structure Span where
  /-- The file. -/
  file : FileId := 0
  /-- Offset of the first byte. -/
  start : UInt32 := 0
  /-- Offset just behind the last byte. -/
  stop : UInt32 := 0
deriving Repr, DecidableEq, Inhabited

namespace Span

/-- Tests whether a span holds no byte. -/
def isEmpty (s : Span) : Bool :=
  s.start == s.stop

/-- The number of bytes of a span, as a 32-bit word. -/
def size (s : Span) : UInt32 :=
  s.stop - s.start

/-- Writes a span as `file:start-stop`. -/
def render (s : Span) : Bytes :=
  decimal s.file.toNat ++ utf8 ":" ++ decimal s.start.toNat ++ utf8 "-" ++ decimal s.stop.toNat

/-- The smallest span that contains both spans. Spans of different files are not joined: the first
one is kept. -/
def cover (s t : Span) : Span :=
  if s.file = t.file then
    ⟨s.file, if s.start ≤ t.start then s.start else t.start,
      if s.stop ≤ t.stop then t.stop else s.stop⟩
  else s

end Span

end ThreeAddress
