import ThreeAddress.Bytes

/-!
# Sinks

Emitted code goes to a sink, which takes texts one after another. A sink may refuse a text; from
then on it refuses everything with the same error.

## Main definitions

* `Sink.recorder`, `Sink.accepting` : a sink without a bound, and one that takes so many texts.
* `Sink.write` and its variants for lines, instructions and labels.
* `Sink.text`, `Sink.lines` : what was written.
-/

namespace ThreeAddress

/-- The failure that stopped emission. -/
structure SinkError where
  /-- What the sink said. -/
  cause : Bytes
deriving Repr, DecidableEq

/-- The wording of a sink failure. -/
def SinkError.message (e : SinkError) : Bytes :=
  utf8 "tac: emit failed: " ++ e.cause

/-- The spelling of a label. -/
def labelName (id : UInt64) : Bytes :=
  utf8 "L" ++ decimal id.toNat

/-- A place that takes texts. -/
structure Sink where
  /-- The texts taken, the latest first. -/
  chunks : List Bytes := []
  /-- How many more texts it takes, if there is a bound. -/
  room : Option Nat := none
  /-- The failure that closed it. -/
  failure : Option SinkError := none
deriving Repr, DecidableEq, Inhabited

namespace Sink

/-- A sink that takes everything. -/
def recorder : Sink := {}

/-- A sink that takes `n` texts. -/
def accepting (n : Nat) : Sink :=
  ⟨[], some n, none⟩

/-- The failure of a sink that is out of room. -/
def closed : SinkError :=
  ⟨utf8 "sink closed"⟩

/-- Writes a text. The answer is the failure of the sink, if it refuses. -/
def write (s : Sink) (text : Bytes) : Option SinkError × Sink :=
  match s.failure with
  | some e => (some e, s)
  | none =>
    match s.room with
    | none => (none, { s with chunks := text :: s.chunks })
    | some 0 => (some closed, { s with failure := some closed })
    | some (n + 1) => (none, { s with chunks := text :: s.chunks, room := some n })

/-- Writes a text and a newline. -/
def writeLine (s : Sink) (text : Bytes) : Option SinkError × Sink :=
  s.write (text ++ utf8 "\n")

/-- Writes one instruction: a tab, the text, a newline. -/
def instruction (s : Sink) (text : Bytes) : Option SinkError × Sink :=
  s.write (utf8 "\t" ++ text ++ utf8 "\n")

/-- Writes a label without a newline. -/
def label (s : Sink) (id : UInt64) : Option SinkError × Sink :=
  s.write (labelName id)

/-- Everything written. -/
def text (s : Sink) : Bytes :=
  s.chunks.reverse.flatten

/-- The lines of a text, without the newline at its end. -/
def linesOf (text : Bytes) : List Bytes :=
  let body := (Bytes.stripEnd? (utf8 "\n") text).getD text
  if body = [] then [] else Bytes.splitOn '\n'.toUInt8 body

/-- The lines written. -/
def lines (s : Sink) : List Bytes :=
  linesOf s.text

end Sink

end ThreeAddress
