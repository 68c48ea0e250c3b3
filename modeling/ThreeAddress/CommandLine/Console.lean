import ThreeAddress.Build.Run
import ThreeAddress.CommandLine.Request
import ThreeAddress.Manifest
import ThreeAddress.Trace.Setup

/-!
# Consoles

A command works on a console: it reads and writes files, prints to two streams and keeps a trace. It
may fail half way, and what it has printed and written until then stays.

## Main definitions

* `Host` : what the surroundings tell a command.
* `Console`, `Job` : the state of a command, and operations on it.
* `CommandError` : why a command fails.
* `Job.prepare`, `Job.cleanUp` : what happens before and after every command.
-/

namespace ThreeAddress.CommandLine

/-- What the surroundings tell a command. -/
structure Host where
  /-- The cache directory of the user; empty if there is none. -/
  cacheHome : Bytes := []
  /-- The home directory of the user; empty if there is none. -/
  home : Bytes := []
  /-- The toolchain that the program was built with. -/
  toolchain : Bytes := []
deriving Repr, DecidableEq, Inhabited

/-- The state of a command. -/
structure Console where
  /-- The file system. -/
  files : FileSystem
  /-- The trace. -/
  trace : Trace.Session := {}
  /-- The format in which a ring is written at the end. -/
  ringFormat : Trace.Format := .text
  /-- The path that a ring is written to at the end. -/
  ringPath : Bytes := []
  /-- The memory profile to write at the end; empty for none. -/
  memProfile : Bytes := []
  /-- What was printed to the standard output stream. -/
  output : Bytes := []
  /-- What was printed to the standard error stream. -/
  messages : Bytes := []
deriving Repr

/-- Why a command fails. -/
inductive CommandError where
  /-- A word that describes the trace means nothing. -/
  | trace (what complaint : Bytes)
  /-- The trace cannot be set up. -/
  | tracer (cause : Trace.SetupError)
  /-- Something is wrong with a file. -/
  | file (cause : FileError)
  /-- The manifest cannot be used. -/
  | manifest (cause : ManifestError)
  /-- There is no manifest. -/
  | noManifest
  /-- There is nothing to build. -/
  | noSources (dir : Bytes)
  /-- A flag with three choices has another value. -/
  | badChoice (flag : Flag) (value : Bytes)
  /-- There is no such format for tokens. -/
  | unknownFormat (format : Bytes)
  /-- There is no such format for versions. -/
  | unsupportedFormat (format : Bytes)
  /-- A file cannot be split into tokens. -/
  | tokens (cause : FileError)
  /-- The build fails. -/
  | build (cause : Build.BuildFailure)
  /-- Something is shown that is not there. -/
  | fault (cause : Fault)
  /-- The sources have errors, which are printed already. -/
  | sources
deriving Repr

/-- The wording of a failure; nothing if everything is printed already. -/
def CommandError.message? : CommandError → Option Bytes
  | trace what complaint => some (utf8 "invalid trace " ++ what ++ utf8 ": " ++ complaint)
  | tracer cause => some (utf8 "failed to create tracer: " ++ cause.message)
  | file cause => some cause.message
  | manifest cause => some cause.message
  | noManifest =>
    some (utf8 "no " ++ Manifest.fileName ++ utf8 " found; pass a file or directory to build")
  | noSources dir => some (utf8 "no " ++ Build.sourceEnding ++ utf8 " files in " ++ dir)
  | badChoice flag value =>
    some (utf8 "invalid --" ++ flag.name ++ utf8 " value " ++ Quoted.text value
      ++ utf8 " (expected auto|on|off)")
  | unknownFormat format => some (utf8 "unknown format: " ++ format)
  | unsupportedFormat format =>
    some (utf8 "unsupported format " ++ Quoted.text format ++ utf8 " (must be pretty or json)")
  | tokens cause => some (utf8 "tokenization failed: " ++ cause.message)
  | build cause => some cause.message
  | fault cause => some cause.message
  | sources => none

/-- Operations on a console. -/
abbrev Job := EStateM CommandError Console

namespace Job

/-- Prints to the standard output stream. -/
def print (text : Bytes) : Job Unit :=
  modify fun c => { c with output := c.output ++ text }

/-- Prints to the standard error stream. -/
def warn (text : Bytes) : Job Unit :=
  modify fun c => { c with messages := c.messages ++ text }

/-- Hands on an outcome. -/
def lift (x : Except CommandError α) : Job α :=
  match x with
  | .ok a => pure a
  | .error e => throw e

/-- Does something with the file system; the answer is the failure, if there is one. -/
def disk (act : Disk α) : Job (Except FileError α) :=
  modifyGet fun c =>
    match act.run c.files with
    | .ok a fs => (.ok a, { c with files := fs })
    | .error e fs => (.error e, { c with files := fs })

/-- What a trace has written to the standard error stream. -/
def tracedMessages (t : Trace.Session) : Bytes :=
  match t.tracer.writer? with
  | some w => if w.outlet = .standardError then w.text else []
  | none => []

/-- Does something with the file system and the trace. What the trace writes meanwhile to the
standard error stream is printed. -/
def work (act : Build.Work α) : Job α :=
  modifyGet fun c =>
    let (a, w) := act.run ⟨c.files, c.trace⟩
    let written := (tracedMessages w.trace).drop (tracedMessages c.trace).length
    (a, { c with files := w.files, trace := w.trace, messages := c.messages ++ written })

/-- Sets the trace up. A path alone asks for phases. -/
def startTrace (o : Options) : Job Unit := do
  let level ← lift ((Trace.Level.read o.traceLevel).mapError (.trace (utf8 "level")))
  let level := if level = .off ∧ o.trace ≠ [] then .phase else level
  if level = .off then return
  let mode ← lift ((Trace.Mode.read o.traceMode).mapError (.trace (utf8 "mode")))
  let format ← lift ((Trace.Format.read o.traceFormat).mapError (.trace (utf8 "format")))
  let c ← get
  match (Trace.Config.start ⟨level, mode, format, o.trace, o.traceRingSize⟩ none).run c.files with
  | .error e fs =>
    set { c with files := fs }
    throw (.tracer e)
  | .ok tracer fs =>
    set { c with files := fs, trace := ⟨tracer, {}⟩, ringFormat := format, ringPath := o.trace }

/-- Makes the file of a profile, if one is wanted. -/
def makeProfile (path : Bytes) : Job (Except FileError Unit) :=
  if path = [] then pure (.ok ()) else disk (Disk.create path [])

/-- Sets the profiles up. The memory profile is made at the end, or as soon as the runtime trace
cannot be made. -/
def startProfiles (o : Options) : Job Unit := do
  if let .error e ← makeProfile o.cpuProfile then throw (.file e)
  if let .error e ← makeProfile o.runtimeTrace then
    let _ ← makeProfile o.memProfile
    throw (.file e)
  modify fun c => { c with memProfile := o.memProfile }

/-- What happens before every command. -/
def prepare (o : Options) : Job Unit := do
  startTrace o
  startProfiles o

/-- Writes a ring. -/
def dumpRing (r : Trace.Ring) : Job Unit := do
  let c ← get
  let text := (r.dump c.ringFormat).flatten
  if Trace.isStandardError c.ringPath then warn text
  else if let .error e ← disk (Disk.create c.ringPath text) then
    warn (utf8 "trace: dump error: " ++ e.message ++ utf8 "\n")

/-- Ends the trace: a ring is written, and the file of a stream is completed. -/
def finishTrace : Job Unit := do
  match (← get).trace.tracer with
  | .ring _ r => dumpRing r
  | t =>
    match t.writer? with
    | some w => let _ ← disk w.save
    | none => pure ()

/-- What happens after every command, whether it has failed or not. -/
def cleanUp : Job Unit := do
  if let .error e ← makeProfile (← get).memProfile then
    warn (utf8 "profile: " ++ e.message ++ utf8 "\n")
  finishTrace

end Job

end ThreeAddress.CommandLine
