import ThreeAddress.Fault
import ThreeAddress.Source.Span
import ThreeAddress.Text.Utf8

/-!
# Cursors

A cursor is a position in the bytes of a source file. Positions are 32-bit words, so a cursor
exists only for sources of fewer than `2 ^ 32` bytes; the type carries that bound, the bound on the
position, and the bytes that are still ahead.

## Main definitions

* `Cursor.start?` : the cursor in front of a source.
* `Cursor.advance` : moves ahead, at most to the end.
* `Cursor.peek`, `Cursor.peekTwo` : the bytes ahead.
* `Cursor.bump`, `Cursor.eat`, `Cursor.bumpChar` : single steps.
* `Cursor.reset` : goes back to a saved position.
-/

namespace ThreeAddress

/-- A position in the bytes of a source file. -/
structure Cursor where
  /-- The file. -/
  file : FileId
  /-- The bytes of the file. -/
  content : Bytes
  /-- The offset of the position. -/
  offset : UInt32
  /-- The bytes ahead. -/
  rest : Bytes
  /-- Offsets are 32-bit words. -/
  fits : content.length < UInt32.size
  /-- The position is in the file or at its end. -/
  inside : offset.toNat ≤ content.length
  /-- The bytes ahead are those from the offset on. -/
  rest_eq : rest = content.drop offset.toNat

namespace Cursor

/-- The cursor in front of a source; none for a source that 32-bit offsets do not cover. -/
def start? (file : FileId) (content : Bytes) : Option Cursor :=
  if h : content.length < UInt32.size then
    some ⟨file, content, 0, content, h, by simp, by simp⟩
  else none

/-- The number of bytes of the source as a 32-bit word. -/
def limit (c : Cursor) : UInt32 :=
  UInt32.ofNat c.content.length

/-- Tests whether the cursor stands at the end. -/
def atEnd (c : Cursor) : Bool :=
  decide (c.limit ≤ c.offset)

/-- Moves a cursor to an offset of its source. -/
def moveTo (c : Cursor) (n : Nat) (h : n ≤ c.content.length) : Cursor where
  file := c.file
  content := c.content
  offset := UInt32.ofNat n
  rest := c.content.drop n
  fits := c.fits
  inside := by
    have := c.fits
    rw [UInt32.toNat_ofNat_of_lt' (by omega)]
    exact h
  rest_eq := by
    have := c.fits
    rw [UInt32.toNat_ofNat_of_lt' (by omega)]

theorem length_rest (c : Cursor) : c.rest.length = c.content.length - c.offset.toNat := by
  rw [c.rest_eq, List.length_drop]

/-- Moves a cursor `n` bytes ahead, or to the end if fewer are left. -/
def advance (c : Cursor) (n : Nat) : Cursor where
  file := c.file
  content := c.content
  offset := UInt32.ofNat (c.offset.toNat + (c.rest.take n).length)
  rest := c.rest.drop n
  fits := c.fits
  inside := by
    have := c.fits
    have := c.inside
    have := c.length_rest
    rw [List.length_take, UInt32.toNat_ofNat_of_lt' (by omega)]
    omega
  rest_eq := by
    have := c.fits
    have := c.inside
    have := c.length_rest
    rw [List.length_take, UInt32.toNat_ofNat_of_lt' (by omega), c.rest_eq, List.drop_drop]
    by_cases h : n ≤ c.rest.length
    · rw [← c.rest_eq, Nat.min_eq_left h]
    · rw [← c.rest_eq, List.drop_eq_nil_of_le (by omega), List.drop_eq_nil_of_le (by omega)]

/-- The byte ahead, or 0 at the end. -/
def peek (c : Cursor) : UInt8 :=
  c.rest.headD 0

/-- The two bytes ahead, or nothing when the word after the offset reaches the limit. The offset
is a word, so at the last offset of the largest possible source the word after it is 0. -/
def peekTwo (c : Cursor) : Except Fault (Option (UInt8 × UInt8)) :=
  if c.limit ≤ c.offset + 1 then .ok none
  else match c.rest with
    | b0 :: b1 :: _ => .ok (some (b0, b1))
    | _ => .error .absent

/-- Takes the byte ahead, or 0 at the end. -/
def bump (c : Cursor) : UInt8 × Cursor :=
  (c.peek, c.advance 1)

/-- Takes the byte ahead if it is the given one. -/
def eat (c : Cursor) (b : UInt8) : Bool × Cursor :=
  if c.rest.head? = some b then (true, c.advance 1) else (false, c)

/-- Takes the character ahead. -/
def bumpChar (c : Cursor) : Cursor :=
  match Utf8.decode? c.rest with
  | some (_, n) => c.advance n
  | none => c

/-- The span from a saved offset to the cursor. -/
def spanFrom (c : Cursor) (mark : UInt32) : Span :=
  ⟨c.file, mark, c.offset⟩

/-- Goes to a saved offset. Offsets outside the source are not taken. -/
def reset (c : Cursor) (mark : UInt32) : Cursor :=
  if h : mark.toNat ≤ c.content.length then c.moveTo mark.toNat h else c

@[simp] theorem rest_advance (c : Cursor) (n : Nat) : (c.advance n).rest = c.rest.drop n := rfl

@[simp] theorem content_advance (c : Cursor) (n : Nat) : (c.advance n).content = c.content := rfl

@[simp] theorem file_advance (c : Cursor) (n : Nat) : (c.advance n).file = c.file := rfl

theorem toNat_offset_advance (c : Cursor) (n : Nat) :
    (c.advance n).offset.toNat = c.offset.toNat + min n c.rest.length := by
  have := c.fits
  have := c.inside
  have := c.length_rest
  simp only [advance, List.length_take]
  rw [UInt32.toNat_ofNat_of_lt' (by omega)]

end Cursor

end ThreeAddress
