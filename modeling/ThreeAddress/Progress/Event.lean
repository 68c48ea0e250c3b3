import ThreeAddress.Bytes

/-!
# Progress of a build

A build tells its progress by events: which file, which stage of its work, and how that stage
stands. Events without a file are about the whole build.
-/

namespace ThreeAddress.Progress

/-- A stage of a build. -/
inductive Stage where
  /-- Compiling a file. -/
  | compile
  /-- Writing the code of a file. -/
  | write
  /-- The whole build. -/
  | build
  /-- A stage that this library does not know. -/
  | other (name : Bytes)
deriving Repr, DecidableEq, Inhabited

namespace Stage

/-- The name of a stage. -/
def name : Stage → Bytes
  | compile => utf8 "compile"
  | write => utf8 "write"
  | build => utf8 "build"
  | other name => name

/-- The stage with a name. -/
def ofName (name : Bytes) : Stage :=
  (([compile, write, build] : List Stage).find? fun s => s.name = name).getD (other name)

end Stage

/-- How a stage stands. -/
inductive Status where
  /-- It waits. -/
  | queued
  /-- It is being worked on. -/
  | working
  /-- Its result was stored before. -/
  | cached
  /-- It has worked. -/
  | done
  /-- It has failed. -/
  | error
  /-- A status that this library does not know. -/
  | other (name : Bytes)
deriving Repr, DecidableEq, Inhabited

namespace Status

/-- The name of a status. -/
def name : Status → Bytes
  | queued => utf8 "queued"
  | working => utf8 "working"
  | cached => utf8 "cached"
  | done => utf8 "done"
  | error => utf8 "error"
  | other name => name

/-- The status with a name. -/
def ofName (name : Bytes) : Status :=
  (([queued, working, cached, done, error] : List Status).find? fun s => s.name = name).getD
    (other name)

end Status

/-- A step of a build. -/
structure Event where
  /-- The file it is about; empty for the whole build. -/
  file : Bytes := []
  /-- The stage. -/
  stage : Stage
  /-- How the stage stands. -/
  status : Status
  /-- Why it failed, if something outside the code is to blame. -/
  failure : Option Bytes := none
deriving Repr, DecidableEq, Inhabited

end ThreeAddress.Progress
