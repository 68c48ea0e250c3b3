import ThreeAddress.Text.Letters
import ThreeAddress.Text.Quoted

/-!
# Levels, scopes and kinds of trace events

What a trace records is chosen by its level: the higher the level, the finer the scopes it takes.
Levels, scopes, kinds and storage modes are numbers; numbers without a name behave as their rules
say.
-/

namespace ThreeAddress.Trace

/-- How much a trace records. -/
structure Level where
  /-- The number of the level. -/
  rank : UInt8
deriving Repr, DecidableEq, Inhabited

/-- How large the thing is that an event is about. Lower numbers are coarser. -/
structure Scope where
  /-- The number of the scope. -/
  rank : UInt8
deriving Repr, DecidableEq, Inhabited

/-- What an event marks. -/
structure Kind where
  /-- The number of the kind. -/
  number : UInt8
deriving Repr, DecidableEq, Inhabited

/-- Where a trace keeps its events. -/
structure Mode where
  /-- The number of the mode. -/
  number : UInt8
deriving Repr, DecidableEq, Inhabited

/-- How events are written. Every number but 1 means text. -/
structure Format where
  /-- The number of the format. -/
  number : UInt8
deriving Repr, DecidableEq, Inhabited

namespace Scope

/-- A command. -/
def driver : Scope := ⟨1⟩

/-- A step of a command. -/
def pass : Scope := ⟨2⟩

/-- A source file. -/
def unit : Scope := ⟨3⟩

/-- An expression or an instruction. -/
def node : Scope := ⟨4⟩

/-- The name of a scope. -/
def name (s : Scope) : Bytes :=
  match s.rank.toNat with
  | 1 => utf8 "driver"
  | 2 => utf8 "pass"
  | 3 => utf8 "unit"
  | 4 => utf8 "node"
  | _ => utf8 "unknown"

end Scope

namespace Kind

/-- The start of a span. -/
def spanBegin : Kind := ⟨1⟩

/-- The end of a span. -/
def spanEnd : Kind := ⟨2⟩

/-- A single moment. -/
def point : Kind := ⟨3⟩

/-- The name of a kind. -/
def name (k : Kind) : Bytes :=
  match k.number.toNat with
  | 1 => utf8 "begin"
  | 2 => utf8 "end"
  | 3 => utf8 "point"
  | _ => utf8 "unknown"

/-- The mark of a kind in text. -/
def mark (k : Kind) : Bytes :=
  match k.number.toNat with
  | 1 => utf8 "→ "
  | 2 => utf8 "← "
  | 3 => utf8 "• "
  | _ => []

end Kind

namespace Level

/-- Nothing is recorded. -/
def off : Level := ⟨0⟩

/-- Nothing is recorded, but the trace counts as enabled. -/
def error : Level := ⟨1⟩

/-- Commands and their steps. -/
def phase : Level := ⟨2⟩

/-- Source files as well. -/
def detail : Level := ⟨3⟩

/-- Everything. -/
def debug : Level := ⟨4⟩

/-- The name of a level. -/
def name (l : Level) : Bytes :=
  match l.rank.toNat with
  | 0 => utf8 "off"
  | 1 => utf8 "error"
  | 2 => utf8 "phase"
  | 3 => utf8 "detail"
  | 4 => utf8 "debug"
  | _ => utf8 "unknown"

/-- Tests whether events of a scope are recorded. -/
def admits (l : Level) (s : Scope) : Bool :=
  if l = phase then decide (s.rank ≤ Scope.pass.rank)
  else if l = detail then decide (s.rank ≤ Scope.unit.rank)
  else l == debug

/-- Tests whether tracing is on. -/
def isOn (l : Level) : Bool :=
  l != off

/-- Reads a level; blanks around it and its case do not matter. -/
def read (word : Bytes) : Except Bytes Level :=
  let w := Letters.lower (Letters.trim word)
  if w = [] ∨ w = utf8 "off" then .ok off
  else if w = utf8 "error" then .ok error
  else if w = utf8 "phase" then .ok phase
  else if w = utf8 "detail" then .ok detail
  else if w = utf8 "debug" then .ok debug
  else .error (utf8 "invalid trace level: " ++ Quoted.text word
    ++ utf8 " (expected: off|error|phase|detail|debug)")

end Level

namespace Mode

/-- Events are written at once. -/
def stream : Mode := ⟨1⟩

/-- The latest events are kept. -/
def ring : Mode := ⟨2⟩

/-- Both. -/
def both : Mode := ⟨3⟩

/-- The name of a mode. -/
def name (m : Mode) : Bytes :=
  match m.number.toNat with
  | 1 => utf8 "stream"
  | 2 => utf8 "ring"
  | 3 => utf8 "both"
  | _ => utf8 "unknown"

/-- Reads a mode; its case does not matter. -/
def read (word : Bytes) : Except Bytes Mode :=
  let w := Letters.lower word
  if w = [] ∨ w = utf8 "stream" then .ok stream
  else if w = utf8 "ring" then .ok ring
  else if w = utf8 "both" then .ok both
  else .error (utf8 "invalid storage mode: " ++ Quoted.text word
    ++ utf8 " (expected: stream|ring|both)")

end Mode

namespace Format

/-- Lines for people. -/
def text : Format := ⟨0⟩

/-- One JSON object a line. -/
def ndjson : Format := ⟨1⟩

/-- Reads a format; its case does not matter. -/
def read (word : Bytes) : Except Bytes Format :=
  let w := Letters.lower word
  if w = [] ∨ w = utf8 "text" then .ok text
  else if w = utf8 "ndjson" ∨ w = utf8 "json" then .ok ndjson
  else .error (utf8 "invalid trace format: " ++ Quoted.text word
    ++ utf8 " (expected: text|ndjson)")

end Format

end ThreeAddress.Trace
