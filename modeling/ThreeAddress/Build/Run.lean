import ThreeAddress.Build.Sources
import ThreeAddress.Build.Unit
import ThreeAddress.Progress.Event

/-!
# Builds

A build compiles a list of files and writes their code. Every file is a task that goes on in steps:
it is begun, looked up in the store, compiled, stored and written. The steps of different tasks may
come in any order; a schedule says which task goes on next. After the first failure no further task
is begun.

## Main definitions

* `Task`, `TaskStage` : a file on its way.
* `BuildState.step` : the next step of a task.
* `sequential` : the schedule that finishes one task after another.
* `buildFiles` : a whole build.
-/

namespace ThreeAddress.Build

/-- How to build. -/
structure BuildOptions extends CompileOptions where
  /-- The directory that code is written to; empty for not writing it. -/
  outDir : Bytes := []
  /-- Whether the build is called off before it begins. -/
  calledOff : Bool := false

/-- Why a build fails, apart from errors in its sources. -/
inductive BuildFailure where
  /-- It was called off. -/
  | calledOff
  /-- Code cannot be written. -/
  | file (cause : FileError)
  /-- Code cannot be emitted. -/
  | emission (cause : EmissionFailure)
deriving Repr, DecidableEq

/-- The wording of a failure. -/
def BuildFailure.message : BuildFailure → Bytes
  | calledOff => utf8 "context canceled"
  | file cause => cause.message
  | emission cause => cause.message

/-- How far a task is. -/
inductive TaskStage where
  /-- It has not begun. -/
  | waiting
  /-- It has begun. -/
  | begun (span : Trace.OpenSpan)
  /-- It is not in the store. -/
  | missing (span : Trace.OpenSpan)
  /-- It is compiled and not yet stored. -/
  | compiled (span : Trace.OpenSpan) (unit : CompiledUnit)
  /-- It is to be written. -/
  | writing (unit : CompiledUnit)
  /-- Nothing more is to be done. -/
  | finished
deriving Repr

/-- A file on its way. -/
structure Task where
  /-- The path as it was given. -/
  path : Bytes
  /-- The file; an empty one if it could not be loaded. -/
  file : SourceFile
  /-- Why it could not be loaded. -/
  loadError : Option FileError := none
  /-- How far it is. -/
  stage : TaskStage := .waiting
  /-- The unit it has become. -/
  unit : Option CompiledUnit := none
  /-- Where its code was written. -/
  written : Option Bytes := none
deriving Repr

/-- The state of a build. -/
structure BuildState where
  /-- The file system and the trace. -/
  work : Workspace
  /-- The tasks. -/
  tasks : Array Task
  /-- What was told, the latest first. -/
  events : List Progress.Event := []
  /-- The first failure. -/
  failure : Option BuildFailure := none
deriving Repr

namespace BuildState

/-- Tells an event. -/
def tell (s : BuildState) (e : Progress.Event) : BuildState :=
  { s with events := e :: s.events }

/-- Tells an event of a task. -/
def tellTask (s : BuildState) (t : Task) (stage : Progress.Stage) (status : Progress.Status)
    (failure : Option Bytes) : BuildState :=
  s.tell ⟨t.path, stage, status, failure⟩

/-- Puts a task back. -/
def setTask (s : BuildState) (i : Nat) (t : Task) : BuildState :=
  { s with tasks := s.tasks.setIfInBounds i t }

/-- Does something with the workspace. -/
def work' (s : BuildState) (act : Work α) : α × BuildState :=
  let (a, w) := act.run s.work
  (a, { s with work := w })

/-- Notes a failure, unless there was one before. -/
def fail (s : BuildState) (f : BuildFailure) : BuildState :=
  { s with failure := s.failure <|> some f }

/-- Ends a task whose code needs no more work. -/
def finishTask (s : BuildState) (i : Nat) (t : Task) (u : CompiledUnit) : BuildState :=
  (s.tellTask t .compile (if u.cached then .cached else .done) none).setTask i
    { t with stage := .finished }

/-- Takes up the unit of a task: one with errors ends here, any other is written if that is
wanted. -/
def takeUnit (o : BuildOptions) (s : BuildState) (i : Nat) (t : Task) (u : CompiledUnit) :
    BuildState :=
  let t := { t with unit := some u }
  if u.failed then
    (s.tellTask t .compile .error none).setTask i { t with stage := .finished }
  else if o.outDir ≠ [] then
    (s.tellTask t .write .working none).setTask i { t with stage := .writing u }
  else s.finishTask i t u

/-- Begins a task, unless the build has failed before. -/
def beginTask (o : BuildOptions) (parent : UInt64) (s : BuildState) (i : Nat) (t : Task) :
    BuildState :=
  if o.calledOff || s.failure.isSome then
    (s.fail .calledOff).setTask i { t with stage := .finished }
  else match t.loadError with
    | some e =>
      let u := CompiledUnit.unloaded o.toCompileOptions t.file e
      (s.tellTask t .compile .error (some e.message)).setTask i
        { t with unit := some u, stage := .finished }
    | none =>
      let (span, s) := (s.tellTask t .compile .working none).work' (beginUnit t.file parent)
      s.setTask i { t with stage := .begun span }

/-- Writes the code of a task. -/
def writeTask (o : BuildOptions) (baseDir : Bytes) (s : BuildState) (i : Nat) (t : Task)
    (u : CompiledUnit) : BuildState :=
  let target := outputPath baseDir o.outDir t.path
  match s.work' (Work.disk (Disk.replaceLines o.medium target u.lines)) with
  | (some e, s) =>
    ((s.tellTask t .write .error (some e.message)).fail (.file e)).setTask i
      { t with stage := .finished }
  | (none, s) => s.finishTask i { t with written := some target } u

/-- The next step of a task. -/
def stepTask (o : BuildOptions) (baseDir : Bytes) (parent : UInt64) (s : BuildState) (i : Nat)
    (t : Task) : BuildState :=
  match t.stage with
  | .waiting => s.beginTask o parent i t
  | .begun span =>
    match s.work' (fetchUnit o.toCompileOptions t.file span) with
    | (some u, s) => s.takeUnit o i t u
    | (none, s) => s.setTask i { t with stage := .missing span }
  | .missing span =>
    match s.work' (makeUnit o.toCompileOptions t.file span) with
    | (.ok u, s) => s.setTask i { t with stage := .compiled span u }
    | (.error e, s) =>
      ((s.tellTask t .compile .error (some e.message)).fail (.emission e)).setTask i
        { t with stage := .finished }
  | .compiled span u =>
    let (_, s) := s.work' (keepUnit o.toCompileOptions t.file span u)
    s.takeUnit o i t u
  | .writing u => s.writeTask o baseDir i t u
  | .finished => s

/-- The next step of the task with a number. -/
def step (o : BuildOptions) (baseDir : Bytes) (parent : UInt64) (s : BuildState) (i : Nat) :
    BuildState :=
  match s.tasks[i]? with
  | none => s
  | some t => s.stepTask o baseDir parent i t

/-- Follows a schedule. -/
def run (o : BuildOptions) (baseDir : Bytes) (parent : UInt64) (schedule : List Nat)
    (s : BuildState) : BuildState :=
  schedule.foldl (step o baseDir parent) s

end BuildState

/-- The largest number of steps of a task. -/
def stepsPerTask : Nat := 5

/-- The schedule that finishes one task after another. -/
def sequential (count : Nat) : List Nat :=
  (List.range count).flatMap fun i => List.replicate stepsPerTask i

/-- Loads files into a set; one that cannot be loaded is replaced by an empty one. -/
def loadTasks (fs : FileSystem) (files : FileSet) : List Bytes → FileSet × List Task
  | [] => (files, [])
  | path :: rest =>
    let (id, files, e) := match files.load fs path with
      | .ok (id, files) => (id, files, none)
      | .error e =>
        let (id, files) := files.addVirtual path []
        (id, files, some e)
    let (all, tasks) := loadTasks fs files rest
    (all, ⟨path, (files.get? id).getD default, e, .waiting, none, none⟩ :: tasks)

/-- What a build yields. -/
structure BuildResult where
  /-- The files. -/
  files : FileSet
  /-- The units; nothing for a file that was never compiled. -/
  units : List (Option CompiledUnit)
  /-- The paths of the code that was written. -/
  written : List Bytes
  /-- Why the build failed. -/
  failure : Option BuildFailure
  /-- What was told. -/
  events : List Progress.Event
deriving Repr

/-- Tests whether a unit has errors; there is no answer if a unit without one is asked for first. -/
def anyFailed : List (Option CompiledUnit) → Except Fault Bool
  | [] => .ok false
  | none :: _ => .error .absent
  | some u :: us => if u.failed then .ok true else anyFailed us

/-- Tests whether a unit of a build has errors. -/
def BuildResult.failed (r : BuildResult) : Except Fault Bool :=
  anyFailed r.units

/-- Tests whether a build went well: nothing failed and no unit has errors. -/
def wentWell (s : BuildState) : Bool :=
  s.failure.isNone && !s.tasks.any fun t => t.unit.any CompiledUnit.failed

/-- The events in front of a build. -/
def openingEvents (files : List Bytes) : List Progress.Event :=
  files.map (fun f => ⟨f, .compile, .queued, none⟩) ++ [⟨[], .build, .working, none⟩]

/-- Builds files, following a schedule. -/
def buildWith (schedule : List Nat) (o : BuildOptions) (baseDir : Bytes) (files : List Bytes) :
    Work BuildResult := do
  let span ← Work.begin .driver (utf8 "build") 0
  let span ← Work.setExtra span (utf8 "files") (decimal files.length)
  let w ← get
  let (set, tasks) := loadTasks w.files { baseDir := baseDir } files
  let start : BuildState :=
    { work := w, tasks := tasks.toArray, events := (openingEvents files).reverse }
  let s := start.run o baseDir span.id schedule
  let status : Progress.Status := if wentWell s then .done else .error
  let s := s.tell ⟨[], .build, status, s.failure.map BuildFailure.message⟩
  MonadStateOf.set s.work
  Work.finish span status.name
  return {
    files := set
    units := s.tasks.toList.map Task.unit
    written := s.tasks.toList.filterMap Task.written
    failure := s.failure
    events := s.events.reverse }

/-- Builds files one after another. -/
def buildFiles (o : BuildOptions) (baseDir : Bytes) (files : List Bytes) : Work BuildResult :=
  buildWith (sequential files.length) o baseDir files

/-- Builds the sources below a directory. -/
def buildDir (o : BuildOptions) (dir : Bytes) : Work (Except FileError BuildResult) := do
  match listSources (← get).files dir with
  | .error e => return .error e
  | .ok files => return .ok (← buildFiles o dir files)

end ThreeAddress.Build
