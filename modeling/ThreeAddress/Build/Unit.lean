import ThreeAddress.Analysis
import ThreeAddress.Cache.Store
import ThreeAddress.Source.Load
import ThreeAddress.Timer
import ThreeAddress.Trace.Tracer

/-!
# Compiling a unit

A unit is a source file with the code it compiles to and what is told about it. A clean unit is
stored, and the next time it is taken from the store instead of being compiled.

## Main definitions

* `CompiledUnit` : a unit.
* `compileSource` : compiles a file.
* `Workspace` : the file system and the trace that compiling works with.
* `compileFile` : compiles a file or takes it from the store, step by step.
-/

namespace ThreeAddress.Build

/-- How to compile. -/
structure CompileOptions where
  /-- The largest number of diagnostics to tell; none or less for the default. -/
  maxDiagnostics : Int := 0
  /-- The store of compiled units. -/
  store : Option CacheStore := none
  /-- What goes wrong with writing to the store. -/
  medium : Medium := .sound

/-- A compiled unit. -/
structure CompiledUnit where
  /-- The path of the source. -/
  path : Bytes
  /-- The code. -/
  lines : List Bytes := []
  /-- What is told about the source. -/
  bag : Bag
  /-- How many declarations were accepted. -/
  declarations : Int64 := 0
  /-- How many statements were lowered. -/
  statements : Int64 := 0
  /-- The size of the largest frame. -/
  maxFrame : UInt64 := 0
  /-- How many temporaries the code uses. -/
  temps : UInt64 := 0
  /-- How many labels the code uses. -/
  labels : UInt64 := 0
  /-- The phases of compiling; none for a source that could not be loaded. -/
  timer : Option Timer := none
  /-- Whether the unit was taken from the store. -/
  cached : Bool := false
deriving Repr, DecidableEq

namespace CompiledUnit

/-- Tests whether a unit has errors. -/
def failed (u : CompiledUnit) : Bool :=
  u.bag.hasErrors

/-- The record of a unit. A unit about which something is told is marked as broken. -/
def toRecord (u : CompiledUnit) (f : SourceFile) : CacheRecord where
  schema := CacheRecord.currentSchema
  path := u.path
  hash := f.hash
  lines := u.lines
  temps := u.temps
  labels := u.labels
  declarations := u.declarations
  statements := u.statements
  maxFrame := u.maxFrame
  broken := decide (0 < u.bag.size)

/-- The unit that a record holds. -/
def ofRecord (o : CompileOptions) (f : SourceFile) (r : CacheRecord) : CompiledUnit where
  path := f.path
  lines := r.lines
  bag := Bag.new o.maxDiagnostics
  declarations := r.declarations
  statements := r.statements
  maxFrame := r.maxFrame
  temps := r.temps
  labels := r.labels
  timer := some {}
  cached := true

/-- The unit of a source that could not be loaded. -/
def unloaded (o : CompileOptions) (f : SourceFile) (cause : FileError) : CompiledUnit where
  path := f.path
  bag := (Bag.new o.maxDiagnostics).add
    (.ofError .loadFailed ⟨f.id, 0, 0⟩ (utf8 "failed to load file: " ++ cause.message))

end CompiledUnit

/-- The failure of a unit whose code could not be emitted. -/
structure EmissionFailure where
  /-- The path of the source. -/
  path : Bytes
  /-- The statement and the cause. -/
  failure : StatementFailure
deriving Repr, DecidableEq

/-- The wording of a failed emission. -/
def EmissionFailure.message (e : EmissionFailure) : Bytes :=
  e.path ++ utf8 ": " ++ e.failure.message

/-- The name of the only phase of compiling. -/
def compilePhase : Bytes := utf8 "lex+parse+lower"

/-- The timer of a compilation with so many statements. -/
def compileTimer (statements : Nat) : Timer :=
  let (number, t) := ({} : Timer).begin compilePhase
  t.finish number (decimal statements ++ utf8 " statements") 0

/-- The bound on errors for a wanted number of diagnostics. -/
def CompileOptions.limits (o : CompileOptions) : Analysis.Limits :=
  ⟨UInt64.ofNat o.maxDiagnostics.toNat, 0⟩

/-- The unit that an analysis yields. -/
def CompiledUnit.ofOutcome (o : CompileOptions) (f : SourceFile) (out : Outcome) :
    CompiledUnit where
  path := f.path
  lines := out.generator.sink.lines
  bag := (out.deliver { dedup := true } (Bag.new o.maxDiagnostics)).sort
  declarations := Int64.ofNat out.counts.declarations
  statements := Int64.ofNat out.counts.statements
  maxFrame := out.counts.maxFrame
  temps := out.generator.ids.temps
  labels := out.generator.ids.labels
  timer := some (compileTimer out.counts.statements)

/-- Compiles a file; the answer comes with the steps of the generator. -/
def compileSource (o : CompileOptions) (f : SourceFile) :
    Except EmissionFailure CompiledUnit × List Point :=
  let out := Analysis.run o.limits {} f.lexemes
  let unit := match out.failure with
    | some failure => .error ⟨f.path, failure⟩
    | none => .ok (.ofOutcome o f out)
  (unit, out.generator.points.reverse)

/-- The usable record of a file in a store. -/
def lookup? (o : CompileOptions) (f : SourceFile) (fs : FileSystem) : Option CacheRecord :=
  match o.store with
  | none => none
  | some s =>
    match s.get (.ofFile f) fs with
    | .record r => if r.isUsable f.path then some r else none
    | _ => none

/-- The file system and the trace that compiling works with. -/
structure Workspace where
  /-- The file system. -/
  files : FileSystem
  /-- The trace. -/
  trace : Trace.Session := {}
deriving Repr, Inhabited

/-- Operations on a workspace. -/
abbrev Work := StateM Workspace

namespace Work

/-- Tells the trace something. -/
def tell (f : Trace.Session → Trace.Session) : Work Unit :=
  modify fun w => { w with trace := f w.trace }

/-- Begins a span. -/
def begin (scope : Trace.Scope) (name : Bytes) (parent : UInt64) : Work Trace.OpenSpan :=
  modifyGet fun w =>
    let (o, t) := w.trace.begin scope name parent
    (o, { w with trace := t })

/-- Sets a value of a span. -/
def setExtra (o : Trace.OpenSpan) (key value : Bytes) : Work Trace.OpenSpan :=
  modifyGet fun w =>
    let (o, t) := w.trace.setExtra o key value
    (o, { w with trace := t })

/-- Ends a span. -/
def finish (o : Trace.OpenSpan) (detail : Bytes) : Work Unit :=
  tell fun t => t.finish o detail

/-- Does something with the file system; the answer is the failure, if there is one. -/
def disk (act : Disk Unit) : Work (Option FileError) :=
  modifyGet fun w =>
    match act.run w.files with
    | .ok _ fs => (none, { w with files := fs })
    | .error e fs => (some e, { w with files := fs })

end Work

/-- Begins a unit. -/
def beginUnit (f : SourceFile) (parent : UInt64) : Work Trace.OpenSpan := do
  let span ← Work.begin .unit (utf8 "unit") parent
  Work.setExtra span (utf8 "path") f.path

/-- Takes a unit from the store, if it is there. -/
def fetchUnit (o : CompileOptions) (f : SourceFile) (span : Trace.OpenSpan) :
    Work (Option CompiledUnit) := do
  match lookup? o f (← get).files with
  | none => return none
  | some r =>
    Work.finish span (utf8 "cache hit")
    return some (.ofRecord o f r)

/-- Compiles a unit that is not in the store. -/
def makeUnit (o : CompileOptions) (f : SourceFile) (span : Trace.OpenSpan) :
    Work (Except EmissionFailure CompiledUnit) := do
  let (unit, points) := compileSource o f
  Work.tell fun t => t.points points
  if let .error _ := unit then Work.finish span (utf8 "emission failed")
  return unit

/-- Puts a unit into the store. That it cannot be stored is told to the trace alone. -/
def storeUnit (o : CompileOptions) (f : SourceFile) (u : CompiledUnit) : Work Unit := do
  match o.store with
  | none => return
  | some s =>
    match ← Work.disk (s.put o.medium (.ofFile f) (u.toRecord f)) with
    | none => return
    | some e => Work.tell fun t => t.point .unit (utf8 "cache_put_failed") e.message

/-- Stores a unit that was compiled and ends it. -/
def keepUnit (o : CompileOptions) (f : SourceFile) (span : Trace.OpenSpan) (u : CompiledUnit) :
    Work Unit := do
  storeUnit o f u
  let span ← Work.setExtra span (utf8 "temps") (decimal u.temps.toNat)
  let span ← Work.setExtra span (utf8 "diagnostics") (decimal u.bag.size)
  Work.finish span []

/-- Compiles a file or takes it from the store. -/
def compileFile (o : CompileOptions) (f : SourceFile) (parent : UInt64) :
    Work (Except EmissionFailure CompiledUnit) := do
  let span ← beginUnit f parent
  match ← fetchUnit o f span with
  | some u => return .ok u
  | none =>
    match ← makeUnit o f span with
    | .error e => return .error e
    | .ok u =>
      keepUnit o f span u
      return .ok u

/-- Why a path cannot be compiled. -/
inductive CompileError where
  /-- It cannot be read. -/
  | file (cause : FileError)
  /-- Its code cannot be emitted. -/
  | emission (cause : EmissionFailure)
deriving Repr

/-- Compiles the file at a path. -/
def compile (o : CompileOptions) (path : Bytes) : Work (Except CompileError CompiledUnit) := do
  match SourceFile.load (← get).files path with
  | .error e => return .error (.file e)
  | .ok f => return (← compileFile o f 0).mapError .emission

end ThreeAddress.Build
