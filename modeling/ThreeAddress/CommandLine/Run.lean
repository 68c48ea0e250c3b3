import ThreeAddress.Build.Tokens
import ThreeAddress.CommandLine.Console
import ThreeAddress.Render.Pretty
import ThreeAddress.Render.TokenList
import ThreeAddress.Version

/-!
# Running commands

What the commands do, and how a run of the program ends.

## Main definitions

* `BuildPlan` : what a build command has resolved to.
* `Job.tokenize`, `Job.build`, `Job.version` : the commands.
* `run` : a run of the program, from its words to what it prints and leaves behind.
-/

namespace ThreeAddress.CommandLine

/-- What a build command has resolved to. -/
structure BuildPlan where
  /-- The directory that paths are seen from. -/
  baseDir : Bytes
  /-- The sources. -/
  files : List Bytes
  /-- The directory that code is written to; empty for printing it. -/
  outDir : Bytes
  /-- How many diagnostics are kept of a unit. -/
  maxDiagnostics : Int
  /-- Whether the cache is used. -/
  cache : Bool
deriving Repr, DecidableEq

/-- How many diagnostics are shown if nobody says anything. -/
def defaultMaxDiagnostics : Int := 100

/-- The name under which the cache of the program is kept. -/
def cacheName : Bytes := programName

/-- Tests whether output is colored. No stream is a terminal. -/
def colored (o : Options) : Except CommandError Bool :=
  if o.color = utf8 "on" then .ok true
  else if o.color = utf8 "off" ∨ o.color = utf8 "auto" then .ok false
  else .error (.badChoice .color o.color)

/-- Tests whether the choice about showing progress is one. -/
def checkUi (o : Options) : Except CommandError Unit :=
  if (["", "auto", "on", "off"].map utf8).contains (Letters.trim (Letters.lower o.ui)) then .ok ()
  else .error (.badChoice .ui o.ui)

/-- The code of clean units, with headings if there are several units. -/
def unitsText (units : List (Option Build.CompiledUnit)) : Bytes :=
  units.flatMap fun
    | none => []
    | some u =>
      if u.failed then []
      else (if 1 < units.length then u.path ++ utf8 ":\n" else [])
        ++ u.lines.flatMap fun l => l ++ utf8 "\n"

/-- The phases of all units. -/
def unitsTimer (units : List (Option Build.CompiledUnit)) : Timer :=
  units.foldl (fun t u =>
    match u with
    | none => t
    | some u =>
      let heading := u.path ++ if u.cached then utf8 " (cached)" else []
      t.merge heading (u.timer.getD {})) {}

/-- The table of phases and the time of the whole build. -/
def timingsText (units : List (Option Build.CompiledUnit)) : Bytes :=
  let t := unitsTimer units
  t.summary ++ utf8 "built " ++ Fixed.quotient 1 t.total 1000000 ++ utf8 " ms\n"

namespace Job

/-- Prints the diagnostics of a bag. -/
def printBag (colored : Bool) (files : FileSet) (bag : Bag) : Job Unit := do
  let places : Render.Places := { files := files, workDir := (← get).files.workPath }
  warn (← lift ((Render.pretty ⟨colored, true⟩ places bag).mapError .fault))

/-- Plans the build of the project around the working directory. Keys of the manifest that mean
nothing are pointed out. -/
def planProject (o : Options) : Job BuildPlan := do
  let fs := (← get).files
  let some m ← lift ((Manifest.loadFor fs (utf8 ".")).mapError .manifest) | throw .noManifest
  for key in m.unknown do
    warn (utf8 "warning: " ++ m.path ++ utf8 ": unknown key " ++ Quoted.text (Toml.renderKey key)
      ++ utf8 "\n")
  let files ← lift ((Build.listSources fs m.sourcesDir).mapError .file)
  return {
    baseDir := m.sourcesDir
    files := files
    outDir := if o.out = [] then m.outDir else o.out
    maxDiagnostics := o.maxDiagnostics.getD m.settings.maxDiagnostics
    cache := !o.noCache && m.settings.cache }

/-- Plans the build of a file or a directory. -/
def planTarget (o : Options) (target : Bytes) : Job BuildPlan := do
  let fs := (← get).files
  let (baseDir, files) ← match ← lift ((fs.stat target).mapError .file) with
    | .directory => pure (target, ← lift ((Build.listSources fs target).mapError .file))
    | .file _ => pure (Path.directory target, [target])
  return {
    baseDir := baseDir
    files := files
    outDir := o.out
    maxDiagnostics := o.maxDiagnostics.getD defaultMaxDiagnostics
    cache := !o.noCache }

/-- Opens the cache. That there is none is only pointed out. -/
def openStore (host : Host) : Job (Option CacheStore) := do
  let disabled (why : Bytes) : Job (Option CacheStore) := do
    warn (utf8 "warning: cache disabled: " ++ why ++ utf8 "\n")
    return none
  match CacheStore.directoryFor? host.cacheHome host.home cacheName with
  | none => disabled (utf8 "$HOME is not defined")
  | some dir =>
    match ← disk (CacheStore.openAt dir) with
    | .ok s => return some s
    | .error e => disabled e.message

/-- Builds a file, a directory or the project. -/
def build (host : Host) (o : Options) (target : Option Bytes) : Job Unit := do
  let plan ← match target with
    | none => planProject o
    | some t => planTarget o t
  if plan.files = [] then throw (.noSources plan.baseDir)
  lift (checkUi o)
  let store ← if plan.cache then openStore host else pure none
  let options : Build.BuildOptions :=
    { maxDiagnostics := plan.maxDiagnostics, store := store, outDir := plan.outDir }
  let r ← work (Build.buildFiles options plan.baseDir plan.files)
  let c ← lift (colored o)
  for unit in r.units do
    if let some u := unit then
      if 0 < u.bag.size then printBag c r.files u.bag
  if let some f := r.failure then throw (.build f)
  if plan.outDir = [] then print (unitsText r.units)
  if o.timings then warn (timingsText r.units)
  if ← lift (r.failed.mapError .fault) then throw .sources

/-- Shows the tokens of a file. -/
def tokenize (o : Options) (path : Bytes) : Job Unit := do
  if o.format ≠ utf8 "pretty" ∧ o.format ≠ utf8 "json" then throw (.unknownFormat o.format)
  let limit := o.maxDiagnostics.getD defaultMaxDiagnostics
  let t ← lift ((Build.tokenize (← get).files path limit).mapError .tokens)
  let files := FileSet.ofFile t.file
  if 0 < t.bag.size then
    printBag (← lift (colored o)) files t.bag
  if o.format = utf8 "json" then print (Render.tokenDocument t.tokens)
  else print (← lift ((Render.tokenListing files t.tokens).mapError .fault))
  if t.bag.hasErrors then throw .sources

/-- Shows the version. -/
def version (host : Host) (o : Options) : Job Unit := do
  let v : Version := {}
  let format := Letters.lower o.format
  if format = utf8 "json" then print ((v.toJson host.toolchain).indented 0 ++ utf8 "\n")
  else if format = utf8 "pretty" then
    let c ← lift (colored o)
    print (v.banner c ++ utf8 "\n")
  else throw (.unsupportedFormat o.format)

end Job

/-- How a run of the program ends. -/
structure Outcome where
  /-- The exit code. -/
  code : UInt32
  /-- What was printed to the standard output stream. -/
  output : Bytes
  /-- What was printed to the standard error stream. -/
  messages : Bytes
  /-- The file system it leaves behind. -/
  files : FileSystem
deriving Repr

/-- The line that an error is printed on. -/
def errorLine (message : Bytes) : Bytes :=
  utf8 "error: " ++ message ++ utf8 "\n"

/-- Runs a command with what happens before and after it. -/
def runJob (files : FileSystem) (o : Options) (job : Job Unit) : Outcome :=
  let (failure, c) := match (do Job.prepare o; job : Job Unit).run { files := files } with
    | .ok _ c => (none, c)
    | .error e c => (some e, c)
  let c := match Job.cleanUp.run c with
    | .ok _ c | .error _ c => c
  match failure with
  | none => ⟨0, c.output, c.messages, c.files⟩
  | some e => ⟨1, c.output, c.messages ++ (e.message?.map errorLine).getD [], c.files⟩

/-- The help text. -/
def helpText : Bytes :=
  utf8 "usage: ezc tokenize [--format pretty|json] file.ez\n"
    ++ utf8 "       ezc build [-o dir] [--jobs n] [--ui auto|on|off] [--no-cache] [file.ez|dir]\n"
    ++ utf8 "       ezc version [--format pretty|json]\n"

/-- A run of the program. -/
def run (host : Host) (files : FileSystem) (args : List Bytes) : Outcome :=
  match Request.read args with
  | .error e => ⟨1, [], errorLine e.message, files⟩
  | .ok (.help, _) => ⟨0, helpText, [], files⟩
  | .ok (.programVersion, _) =>
    ⟨0, programName ++ utf8 " version " ++ ({} : Version).number ++ utf8 "\n", [], files⟩
  | .ok (.tokenize path, o) => runJob files o (Job.tokenize o path)
  | .ok (.build target, o) => runJob files o (Job.build host o target)
  | .ok (.version, o) => runJob files o (Job.version host o)

end ThreeAddress.CommandLine
