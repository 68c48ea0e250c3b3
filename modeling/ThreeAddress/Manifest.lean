import ThreeAddress.Files.System
import ThreeAddress.Text.Letters
import ThreeAddress.Text.Quoted
import ThreeAddress.Toml.Document

/-!
# Project manifests

A project is described by a manifest in its root directory. The manifest names the package and may
change the settings of its builds; keys that mean nothing are kept as a warning.

## Main definitions

* `Settings` : what a manifest can say about a build, with what holds if it says nothing.
* `Settings.ofDocument?` : the settings in a document, with the keys that were understood.
* `Manifest`, `Manifest.load` : a manifest, read from its path.
* `Manifest.find` : the path of the manifest that governs a directory.
-/

namespace ThreeAddress

/-- What a manifest can say about a project and its builds. -/
structure Settings where
  /-- The name of the package. -/
  name : Bytes := []
  /-- The directory of the sources. -/
  sources : Bytes := utf8 "src"
  /-- The directory that code is written to. -/
  out : Bytes := utf8 "build"
  /-- How many units are compiled at the same time; zero leaves it open. -/
  jobs : Int := 0
  /-- How many diagnostics are kept of a unit. -/
  maxDiagnostics : Int := 100
  /-- Whether compiled units are cached. -/
  cache : Bool := true
deriving Repr, DecidableEq, Inhabited

/-- A key of a section. -/
inductive Setting where
  /-- The name of the package. -/
  | name
  /-- The directory of the sources. -/
  | sources
  /-- The directory that code is written to. -/
  | out
  /-- How many units are compiled at the same time. -/
  | jobs
  /-- How many diagnostics are kept of a unit. -/
  | maxDiagnostics
  /-- Whether compiled units are cached. -/
  | cache
deriving Repr, DecidableEq, Inhabited

/-- The sections of a manifest with their keys. -/
def Setting.sections : List (Bytes × List (Bytes × Setting)) :=
  [(utf8 "package", [(utf8 "name", .name)]),
   (utf8 "build", [(utf8 "sources", .sources), (utf8 "out", .out), (utf8 "jobs", .jobs),
     (utf8 "max_diagnostics", .maxDiagnostics), (utf8 "cache", .cache)])]

/-- Gives a key its value. A value of another type is refused. -/
def Setting.assign? : Setting → Toml.Node → Settings → Option Settings
  | .name, .scalar (.text t), s => some { s with name := t }
  | .sources, .scalar (.text t), s => some { s with sources := t }
  | .out, .scalar (.text t), s => some { s with out := t }
  | .jobs, .scalar (.integer n), s => some { s with jobs := n }
  | .maxDiagnostics, .scalar (.integer n), s => some { s with maxDiagnostics := n }
  | .cache, .scalar (.truth b), s => some { s with cache := b }
  | _, _, _ => none

namespace Settings

/-- Looks a written name up: as it is written, or else without regard to case. -/
def match? (choices : List (Bytes × α)) (written : Bytes) : Option α :=
  (choices.lookup written).or
    ((choices.find? fun c => Letters.fold c.1 == Letters.fold written).map Prod.snd)

/-- Takes the settings of a section, with the names that were understood. -/
def takeSection? (choices : List (Bytes × Setting)) :
    Toml.Table → Settings → Option (Settings × List Bytes)
  | [], s => some (s, [])
  | (name, node) :: rest, s =>
    match match? choices name with
    | none => takeSection? choices rest s
    | some setting => do
      let s ← setting.assign? node s
      let (s, understood) ← takeSection? choices rest s
      return (s, name :: understood)

/-- Takes the settings of all sections, with the keys that were understood. A section has to be a
table. -/
def takeSections? : Toml.Table → Settings → Option (Settings × List Toml.Key)
  | [], s => some (s, [])
  | (name, node) :: rest, s =>
    match match? Setting.sections name with
    | none => takeSections? rest s
    | some choices =>
      match node with
      | .table entries => do
        let (s, inner) ← takeSection? choices entries s
        let (s, understood) ← takeSections? rest s
        return (s, [name] :: inner.map (fun n => [name, n]) ++ understood)
      | _ => none

/-- The settings in a document, with the keys that were understood. -/
def ofDocument? (d : Toml.Document) : Option (Settings × List Toml.Key) :=
  takeSections? d.root {}

end Settings

/-- Why there is no manifest. -/
inductive ManifestError where
  /-- The file cannot be read. -/
  | unreadable (path : Bytes) (cause : FileError)
  /-- The file is no document, or a value has the wrong type. -/
  | malformed (path : Bytes)
  /-- The package section is missing. -/
  | noPackage (path : Bytes)
  /-- The package has no name. -/
  | noName (path : Bytes)
  /-- The number of jobs is negative. -/
  | negativeJobs (path : Bytes) (jobs : Int)
  /-- No diagnostics would be kept. -/
  | noDiagnostics (path : Bytes) (limit : Int)
  /-- It cannot be told whether there is a manifest at a path. -/
  | uncertain (path : Bytes) (cause : FileError)
deriving Repr, DecidableEq

namespace ManifestError

/-- The wording of a failure. -/
def message : ManifestError → Bytes
  | unreadable path cause => path ++ utf8 ": failed to parse TOML: " ++ cause.message
  | malformed path => path ++ utf8 ": failed to parse TOML"
  | noPackage path => path ++ utf8 ": missing [package]"
  | noName path => path ++ utf8 ": missing [package].name"
  | negativeJobs path jobs =>
    path ++ utf8 ": [build].jobs must not be negative, got " ++ signedDecimal jobs
  | noDiagnostics path limit =>
    path ++ utf8 ": [build].max_diagnostics must be positive, got " ++ signedDecimal limit
  | uncertain path cause =>
    utf8 "failed to stat " ++ Quoted.text path ++ utf8 ": " ++ cause.message

end ManifestError

/-- The description of a project. -/
structure Manifest where
  /-- Where it was read. -/
  path : Bytes
  /-- What it says. -/
  settings : Settings
  /-- The keys that mean nothing, in the order they are written. -/
  unknown : List Toml.Key
deriving Repr, DecidableEq

namespace Manifest

/-- The name of manifests. -/
def fileName : Bytes := utf8 "ez.toml"

/-- The root directory of the project. -/
def root (m : Manifest) : Bytes :=
  Path.directory m.path

/-- A path of the manifest as seen from the working directory. -/
def resolve (m : Manifest) (path : Bytes) : Bytes :=
  if Path.isAbsolute path then path else Path.join [m.root, path]

/-- The directory of the sources. -/
def sourcesDir (m : Manifest) : Bytes :=
  m.resolve m.settings.sources

/-- The directory that code is written to. -/
def outDir (m : Manifest) : Bytes :=
  m.resolve m.settings.out

/-- Reads a manifest from its content. -/
def ofContent (path content : Bytes) : Except ManifestError Manifest := do
  let some d := Toml.read? content | throw (.malformed path)
  let some (s, understood) := Settings.ofDocument? d | throw (.malformed path)
  if (d.root.find? [utf8 "package"]).isNone then
    throw (.noPackage path)
  if (d.root.find? [utf8 "package", utf8 "name"]).isNone ∨ Letters.trim s.name = [] then
    throw (.noName path)
  if s.jobs < 0 then
    throw (.negativeJobs path s.jobs)
  if s.maxDiagnostics ≤ 0 then
    throw (.noDiagnostics path s.maxDiagnostics)
  return ⟨path, s, d.keys.filter fun k => !understood.contains k⟩

/-- Reads a manifest from its path. -/
def load (fs : FileSystem) (path : Bytes) : Except ManifestError Manifest :=
  match fs.read path with
  | .error e => .error (.unreadable path e)
  | .ok content => ofContent path content

/-- Looks for a manifest in some directories, given by their elements. -/
def findAmong (fs : FileSystem) : List (List Bytes) → Except ManifestError (Option Bytes)
  | [] => .ok none
  | dir :: dirs =>
    let candidate := Path.ofElements true (dir ++ [fileName])
    match fs.stat candidate with
    | .ok _ => .ok (some candidate)
    | .error e => if e.isNotFound then findAmong fs dirs else .error (.uncertain candidate e)

/-- The path of the manifest that governs a directory: the nearest one in it or above it. -/
def find (fs : FileSystem) (dir : Bytes) : Except ManifestError (Option Bytes) :=
  let es := Path.cleanElements (Path.absolute fs.workPath (if dir = [] then utf8 "." else dir))
  findAmong fs ((List.range (es.length + 1)).reverse.map fun n => es.take n)

/-- Reads the manifest that governs a directory, if there is one. -/
def loadFor (fs : FileSystem) (dir : Bytes) : Except ManifestError (Option Manifest) := do
  match ← find fs dir with
  | none => return none
  | some path => return some (← load fs path)

end Manifest

end ThreeAddress
