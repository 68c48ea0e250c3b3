import ThreeAddress.Fault
import ThreeAddress.Source.File

/-!
# Showing places

How the path of a file is shown, and the positions of spans.
-/

namespace ThreeAddress.Render

/-- How paths are shown. -/
inductive PathMode where
  /-- As seen from the base directory, where that works. -/
  | fromBase
  /-- As seen from the root. -/
  | absolute
  /-- The last element alone. -/
  | baseName
deriving Repr, DecidableEq, Inhabited

/-- Gives the mode with a number: 1 for absolute paths, 3 for last elements, every other number for
paths from the base directory. -/
def PathMode.ofNumber (n : Nat) : PathMode :=
  match n with
  | 1 => .absolute
  | 3 => .baseName
  | _ => .fromBase

/-- Files to show places in, with the working directory. -/
structure Places where
  /-- The files. -/
  files : FileSet
  /-- The working directory. -/
  workDir : Bytes
  /-- How paths are shown. -/
  mode : PathMode := .fromBase
deriving Repr, Inhabited

namespace Places

/-- The file of a span. -/
def file (p : Places) (s : Span) : Except Fault SourceFile :=
  match p.files.get? s.file with
  | some f => .ok f
  | none => .error .absent

/-- The path of a file as it is shown. -/
def showPath (p : Places) (f : SourceFile) : Bytes :=
  match p.mode with
  | .fromBase => f.displayPath (p.files.displayDir p.workDir)
  | .absolute => Path.absolute p.workDir f.path
  | .baseName => Path.base f.path

end Places

/-- Writes a position as line and column. -/
def position (p : Position) : Bytes :=
  decimal p.line.toNat ++ utf8 ":" ++ decimal p.column.toNat

end ThreeAddress.Render
