import ThreeAddress.Files.System
import ThreeAddress.Trace.Tracer

/-!
# Setting up traces

A trace is described by its level, its mode, its format and the path it goes to. Setting it up may
have to open a file.

## Main definitions

* `Trace.Config` : the description of a trace.
* `Trace.Config.start` : the tracer of a description.
* `Trace.Writer.save` : puts what was written into its file.
-/

namespace ThreeAddress.Trace

/-- The description of a trace. -/
structure Config where
  /-- How much is recorded. -/
  level : Level
  /-- Where events are kept. -/
  mode : Mode
  /-- How events are written. -/
  format : Format
  /-- The file events go to; empty or a dash for the standard error stream. -/
  path : Bytes
  /-- How many events a ring keeps. -/
  ringSize : Int
deriving Repr, Inhabited

/-- Why a trace cannot be set up. -/
inductive SetupError where
  /-- Its file cannot be opened. -/
  | file (cause : FileError)
  /-- There is no such mode. -/
  | mode (mode : Mode)
deriving Repr

/-- The wording of a failed setup. -/
def SetupError.message : SetupError → Bytes
  | file cause => utf8 "failed to open trace output: " ++ cause.message
  | mode m => utf8 "unknown storage mode: " ++ m.name

/-- Tests whether a path means the standard error stream. -/
def isStandardError (path : Bytes) : Bool :=
  path == [] || path == utf8 "-"

/-- The format that a description means: a path that ends in `.ndjson` asks for JSON. -/
def Config.effectiveFormat (c : Config) : Format :=
  if c.format = .text ∧ (Bytes.stripEnd? (utf8 ".ndjson") c.path).isSome then .ndjson else c.format

/-- Opens the stream of a trace. A given outlet comes before the path. -/
def Config.openWriter (c : Config) (given : Option Outlet) : EStateM SetupError FileSystem Writer :=
  match given with
  | some o => pure ⟨o, [], 0, 0⟩
  | none =>
    if isStandardError c.path then pure ⟨.standardError, [], 0, 0⟩
    else fun fs =>
      match (Disk.create c.path []).run fs with
      | .ok _ fs => .ok ⟨.file c.path, [], 0, 0⟩ fs
      | .error e fs => .error (.file e) fs

/-- The tracer of a description. -/
def Config.start (c : Config) (given : Option Outlet) : EStateM SetupError FileSystem Tracer :=
  if c.level = .off then pure .off
  else if c.mode = .stream then do
    return .stream c.level c.effectiveFormat (← c.openWriter given)
  else if c.mode = .ring then pure (.ring c.level (.ofCapacity c.ringSize))
  else if c.mode = .both then do
    return .both c.level c.level c.effectiveFormat (← c.openWriter given) c.level
      (.ofCapacity c.ringSize)
  else throw (.mode c.mode)

/-- Puts what was written into the file it was written to. -/
def Writer.save (w : Writer) : Disk Unit :=
  match w.outlet with
  | .file path => Disk.create path w.text
  | _ => pure ()

end ThreeAddress.Trace
