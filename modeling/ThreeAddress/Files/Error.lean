import ThreeAddress.Code.Sink

/-!
# Failures of file operations

A failure tells what was attempted, on which path, and why it did not work.
-/

namespace ThreeAddress

/-- Why a file operation did not work. -/
inductive FileCause where
  /-- Nothing is there. -/
  | notFound
  /-- A file stands where a directory is needed. -/
  | notDirectory
  /-- A directory stands where a file is needed. -/
  | isDirectory
  /-- Something is there already. -/
  | alreadyExists
  /-- A name or a path is too long. -/
  | nameTooLong
  /-- The request makes no sense. -/
  | invalid
  /-- The place is in use. -/
  | busy
  /-- Trouble of the medium, in its own words. -/
  | medium (words : Bytes)
deriving Repr, DecidableEq, Inhabited

/-- The wording of a cause. -/
def FileCause.message : FileCause → Bytes
  | notFound => utf8 "no such file or directory"
  | notDirectory => utf8 "not a directory"
  | isDirectory => utf8 "is a directory"
  | alreadyExists => utf8 "file exists"
  | nameTooLong => utf8 "file name too long"
  | invalid => utf8 "invalid argument"
  | busy => utf8 "device or resource busy"
  | medium words => words

/-- What was attempted on a single path. -/
inductive FileAction where
  /-- Opening a file. -/
  | open
  /-- Reading what was opened. -/
  | read
  /-- Asking what stands at a path. -/
  | stat
  /-- Asking what stands at a path, for a walk. -/
  | lstat
  /-- Making a directory. -/
  | makeDirectory
  /-- Writing to what was opened. -/
  | write
  /-- Closing a file. -/
  | close
  /-- Taking a path away. -/
  | remove
deriving Repr, DecidableEq, Inhabited

/-- The wording of an action. -/
def FileAction.name : FileAction → Bytes
  | «open» => utf8 "open"
  | read => utf8 "read"
  | stat => utf8 "stat"
  | lstat => utf8 "lstat"
  | makeDirectory => utf8 "mkdir"
  | write => utf8 "write"
  | close => utf8 "close"
  | remove => utf8 "unlinkat"

/-- A failed file operation. -/
inductive FileError where
  /-- An action on one path. -/
  | single (action : FileAction) (path : Bytes) (cause : FileCause)
  /-- Moving one path to another. -/
  | moving (source target : Bytes) (cause : FileCause)
  /-- Emitting code meant for a path. -/
  | emitting (target : Bytes) (failure : SinkError)
deriving Repr, DecidableEq

namespace FileError

/-- The cause of a failure. -/
def cause : FileError → FileCause
  | single _ _ c | moving _ _ c => c
  | emitting _ e => .medium e.cause

/-- The wording of a failure. -/
def message : FileError → Bytes
  | single action path cause => action.name ++ utf8 " " ++ path ++ utf8 ": " ++ cause.message
  | moving source target cause =>
    utf8 "rename " ++ source ++ utf8 " " ++ target ++ utf8 ": " ++ cause.message
  | emitting target failure => utf8 "write " ++ target ++ utf8 ": " ++ failure.message

/-- Tests whether a failure says that nothing is there. -/
def isNotFound (e : FileError) : Bool :=
  e.cause == .notFound

end FileError

end ThreeAddress
