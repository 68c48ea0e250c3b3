import ThreeAddress.Bytes

/-!
# Reading MessagePack

A reader takes a value from the front of a byte string. It has no answer if the bytes end too early
or if the value has none of the forms it accepts. Numbers are accepted in every integer form, texts
in every form of text or byte string, and nothing stands for zero, for no text and for no elements.

## Main definitions

* `MessagePack.Reader` : readers.
* `MessagePack.readNumber`, `readBool`, `readText`, `readTexts` : values.
* `MessagePack.skip` : passes over any value.
-/

namespace ThreeAddress.MessagePack

/-- Takes a value from the front of a byte string. -/
abbrev Reader := StateT Bytes Option

/-- Reads one byte. -/
def readByte : Reader UInt8 := fun b =>
  match b with
  | [] => none
  | x :: rest => some (x, rest)

/-- Reads so many bytes. -/
def readBytes (n : Nat) : Reader Bytes := fun b =>
  if n ≤ b.length then some (b.take n, b.drop n) else none

/-- The number that bytes write, the highest one first. -/
def ofBigEndian (b : Bytes) : Nat :=
  b.foldl (fun n x => n * 256 + x.toNat) 0

/-- Reads a number of so many bytes. -/
def readBigEndian (width : Nat) : Reader Nat := do
  return ofBigEndian (← readBytes width)

/-- Reads a number of so many bytes in two's complement. -/
def readSigned (width : Nat) : Reader Int := do
  let n ← readBigEndian width
  return if n < 1 <<< (8 * width - 1) then (n : Int)
    else (n : Int) - ((1 <<< (8 * width) : Nat) : Int)

/-- The number that a byte alone stands for. -/
def smallNumber? (code : UInt8) : Option Int :=
  if code < 0x80 then some code.toNat
  else if 0xE0 ≤ code then some ((code.toNat : Int) - 256)
  else none

/-- Reads a number of any integer form. -/
def readNumber : Reader Int := do
  let code ← readByte
  match smallNumber? code with
  | some n => return n
  | none =>
    match code.toNat with
    | 0xC0 => return 0
    | 0xCC => return (← readBigEndian 1 : Nat)
    | 0xCD => return (← readBigEndian 2 : Nat)
    | 0xCE => return (← readBigEndian 4 : Nat)
    | 0xCF => return (← readBigEndian 8 : Nat)
    | 0xD0 => readSigned 1
    | 0xD1 => readSigned 2
    | 0xD2 => readSigned 4
    | 0xD3 => readSigned 8
    | _ => failure

/-- Reads a truth value. -/
def readBool : Reader Bool := do
  match (← readByte).toNat with
  | 0xC0 | 0xC2 => return false
  | 0xC3 => return true
  | _ => failure

/-- Reads a length behind its first byte, the code. The codes between two bounds hold the length
themselves, one code stands for nothing, and a table tells of others how many bytes the length
takes. -/
def readLengthOf (low high : UInt8) (widths : List (UInt8 × Nat)) (code : UInt8) :
    Reader (Option Nat) :=
  if low ≤ code && code < high then return some (code.toNat - low.toNat)
  else if code = 0xC0 then return none
  else match widths.lookup code with
    | some width => return some (← readBigEndian width)
    | none => failure

/-- Reads the length of a text or a byte string behind its first byte; no length for nothing. -/
def readLength : UInt8 → Reader (Option Nat) :=
  readLengthOf 0xA0 0xC0 [(0xC4, 1), (0xD9, 1), (0xC5, 2), (0xDA, 2), (0xC6, 4), (0xDB, 4)]

/-- Reads a text or a byte string; nothing if there is nothing. -/
def readBinary? : Reader (Option Bytes) := do
  match ← readLength (← readByte) with
  | none => return none
  | some n => return some (← readBytes n)

/-- Reads a text. -/
def readText : Reader Bytes := do
  return (← readBinary?).getD []

/-- Reads the length of an array behind its first byte; no length for nothing. -/
def readArrayLength : UInt8 → Reader (Option Nat) :=
  readLengthOf 0x90 0xA0 [(0xDC, 2), (0xDD, 4)]

/-- Reads the length of a map behind its first byte; no length for nothing. -/
def readMapLength : UInt8 → Reader (Option Nat) :=
  readLengthOf 0x80 0x90 [(0xDE, 2), (0xDF, 4)]

/-- Does something so often and collects what comes of it. -/
def times (read : Reader α) : Nat → Reader (List α)
  | 0 => return []
  | n + 1 => do
    let a ← read
    return a :: (← times read n)

/-- Reads a list of texts; nothing if there is nothing. -/
def readTexts? : Reader (Option (List Bytes)) := do
  match ← readArrayLength (← readByte) with
  | none => return none
  | some n => return some (← times readText n)

/-- What follows the first byte of a value: so many bytes of its own, then so many values. -/
def layout (code : UInt8) (rest : Bytes) : Option (Nat × Nat) :=
  let sized (width : Nat) (extra : Nat) :=
    if width ≤ rest.length then some (width + ofBigEndian (rest.take width) + extra, 0) else none
  let counted (width : Nat) (each : Nat) :=
    if width ≤ rest.length then some (width, each * ofBigEndian (rest.take width)) else none
  let n := code.toNat
  if n < 0x80 ∨ 0xE0 ≤ n then some (0, 0)
  else if n < 0x90 then some (0, 2 * (n - 0x80))
  else if n < 0xA0 then some (0, n - 0x90)
  else if n < 0xC0 then some (n - 0xA0, 0)
  else match n with
    | 0xC0 | 0xC2 | 0xC3 => some (0, 0)
    | 0xC4 | 0xD9 => sized 1 0
    | 0xC5 | 0xDA => sized 2 0
    | 0xC6 | 0xDB => sized 4 0
    | 0xC7 => sized 1 1
    | 0xC8 => sized 2 1
    | 0xC9 => sized 4 1
    | 0xCC | 0xD0 => some (1, 0)
    | 0xCD | 0xD1 => some (2, 0)
    | 0xCA | 0xCE | 0xD2 => some (4, 0)
    | 0xCB | 0xCF | 0xD3 => some (8, 0)
    | 0xD4 => some (2, 0)
    | 0xD5 => some (3, 0)
    | 0xD6 => some (5, 0)
    | 0xD7 => some (9, 0)
    | 0xD8 => some (17, 0)
    | 0xDC => counted 2 1
    | 0xDD => counted 4 1
    | 0xDE => counted 2 2
    | 0xDF => counted 4 2
    | _ => none

/-- Passes over so many values. -/
def skipValues (pending : Nat) (b : Bytes) : Option Bytes :=
  match pending, b with
  | 0, b => some b
  | _ + 1, [] => none
  | pending + 1, code :: rest =>
    match layout code rest with
    | none => none
    | some (own, inner) =>
      if own ≤ rest.length then skipValues (pending + inner) (rest.drop own) else none
termination_by b.length
decreasing_by
  rw [List.length_drop, List.length_cons]
  omega

/-- Passes over a value. -/
def skip : Reader Unit := fun b =>
  (skipValues 1 b).map fun rest => ((), rest)

end ThreeAddress.MessagePack
