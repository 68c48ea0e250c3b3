import ThreeAddress.Text.Integer
import ThreeAddress.Text.Quoted

/-!
# Flags

A flag is written with two dashes and its name, some also with one dash and a letter. A switch needs
no value; every other flag takes one.

## Main definitions

* `Flag` : the flags.
* `Options` : what the flags say.
* `Flag.set` : gives a flag its value.
-/

namespace ThreeAddress.CommandLine

/-- A flag of the command line. -/
inductive Flag where
  /-- Whether output is colored. -/
  | color
  /-- Whether timings are shown. -/
  | timings
  /-- How many diagnostics are shown. -/
  | maxDiagnostics
  /-- The file that the trace goes to. -/
  | trace
  /-- How much is traced. -/
  | traceLevel
  /-- Where the trace is kept. -/
  | traceMode
  /-- How the trace is written. -/
  | traceFormat
  /-- How many events are kept. -/
  | traceRingSize
  /-- The file of the processor profile. -/
  | cpuProfile
  /-- The file of the memory profile. -/
  | memProfile
  /-- The file of the runtime trace. -/
  | runtimeTrace
  /-- The directory that code is written to. -/
  | out
  /-- How many units are compiled at the same time. -/
  | jobs
  /-- Whether progress is shown. -/
  | ui
  /-- Whether the cache is left alone. -/
  | noCache
  /-- How the answer is written. -/
  | format
  /-- Whether help is wanted. -/
  | help
  /-- Whether the version is wanted. -/
  | version
deriving Repr, DecidableEq, Inhabited

/-- What the flags say. -/
structure Options where
  /-- Whether output is colored. -/
  color : Bytes := utf8 "auto"
  /-- Whether timings are shown. -/
  timings : Bool := false
  /-- How many diagnostics are shown, if that was said. -/
  maxDiagnostics : Option Int := none
  /-- The file that the trace goes to. -/
  trace : Bytes := []
  /-- How much is traced. -/
  traceLevel : Bytes := utf8 "off"
  /-- Where the trace is kept. -/
  traceMode : Bytes := utf8 "stream"
  /-- How the trace is written. -/
  traceFormat : Bytes := utf8 "text"
  /-- How many events are kept. -/
  traceRingSize : Int := 4096
  /-- The file of the processor profile. -/
  cpuProfile : Bytes := []
  /-- The file of the memory profile. -/
  memProfile : Bytes := []
  /-- The file of the runtime trace. -/
  runtimeTrace : Bytes := []
  /-- The directory that code is written to. -/
  out : Bytes := []
  /-- How many units are compiled at the same time, if that was said. -/
  jobs : Option Int := none
  /-- Whether progress is shown. -/
  ui : Bytes := utf8 "auto"
  /-- Whether the cache is left alone. -/
  noCache : Bool := false
  /-- How the answer is written. -/
  format : Bytes := utf8 "pretty"
  /-- Whether help is wanted. -/
  help : Bool := false
  /-- Whether the version is wanted. -/
  version : Bool := false
deriving Repr, DecidableEq, Inhabited

/-- Why a value does not suit a flag. -/
inductive ValueError where
  /-- It is no number. -/
  | number (value : Bytes) (cause : Integer.ReadError)
  /-- It is no truth value. -/
  | truth (value : Bytes)
deriving Repr, DecidableEq

/-- The wording of an unsuitable value. -/
def ValueError.message : ValueError → Bytes
  | number value cause =>
    utf8 "strconv.ParseInt: parsing " ++ Quoted.text value ++ utf8 ": " ++ cause.message
  | truth value =>
    utf8 "strconv.ParseBool: parsing " ++ Quoted.text value ++ utf8 ": invalid syntax"

/-- Reads a number. -/
def readNumber (value : Bytes) : Except ValueError Int :=
  (Integer.readInt64 .announced value).mapError (.number value)

/-- Reads a truth value. -/
def readTruth (value : Bytes) : Except ValueError Bool :=
  if (["1", "t", "T", "TRUE", "true", "True"].map utf8).contains value then .ok true
  else if (["0", "f", "F", "FALSE", "false", "False"].map utf8).contains value then .ok false
  else .error (.truth value)

namespace Flag

/-- The name of a flag. -/
def name : Flag → Bytes
  | color => utf8 "color"
  | timings => utf8 "timings"
  | maxDiagnostics => utf8 "max-diagnostics"
  | trace => utf8 "trace"
  | traceLevel => utf8 "trace-level"
  | traceMode => utf8 "trace-mode"
  | traceFormat => utf8 "trace-format"
  | traceRingSize => utf8 "trace-ring-size"
  | cpuProfile => utf8 "cpu-profile"
  | memProfile => utf8 "mem-profile"
  | runtimeTrace => utf8 "runtime-trace"
  | out => utf8 "out"
  | jobs => utf8 "jobs"
  | ui => utf8 "ui"
  | noCache => utf8 "no-cache"
  | format => utf8 "format"
  | help => utf8 "help"
  | version => utf8 "version"

/-- The letter of a flag. -/
def letter? : Flag → Option UInt8
  | out => some 'o'.toUInt8
  | help => some 'h'.toUInt8
  | version => some 'v'.toUInt8
  | _ => none

/-- Tests whether a flag needs no value. -/
def isSwitch : Flag → Bool
  | timings | noCache | help | version => true
  | _ => false

/-- A flag as it is named in complaints. -/
def title (f : Flag) : Bytes :=
  (match f.letter? with
    | some l => utf8 "-" ++ [l] ++ utf8 ", "
    | none => []) ++ utf8 "--" ++ f.name

/-- Gives a flag its value. -/
def set (f : Flag) (value : Bytes) (o : Options) : Except ValueError Options :=
  match f with
  | color => .ok { o with color := value }
  | timings => do return { o with timings := ← readTruth value }
  | maxDiagnostics => do return { o with maxDiagnostics := some (← readNumber value) }
  | trace => .ok { o with trace := value }
  | traceLevel => .ok { o with traceLevel := value }
  | traceMode => .ok { o with traceMode := value }
  | traceFormat => .ok { o with traceFormat := value }
  | traceRingSize => do return { o with traceRingSize := ← readNumber value }
  | cpuProfile => .ok { o with cpuProfile := value }
  | memProfile => .ok { o with memProfile := value }
  | runtimeTrace => .ok { o with runtimeTrace := value }
  | out => .ok { o with out := value }
  | jobs => do return { o with jobs := some (← readNumber value) }
  | ui => .ok { o with ui := value }
  | noCache => do return { o with noCache := ← readTruth value }
  | format => .ok { o with format := value }
  | help => do return { o with help := ← readTruth value }
  | version => do return { o with version := ← readTruth value }

end Flag

end ThreeAddress.CommandLine
