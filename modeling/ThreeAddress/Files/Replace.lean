import ThreeAddress.Files.System

/-!
# Replacing files

A file is replaced by writing its new content to a fresh file beside it and moving that file over
it. Whatever goes wrong, the target holds either its old content or all of the new one, and the
fresh file is taken away.

## Main definitions

* `WriteStep`, `Medium` : the steps of a replacement, and a medium that may fail them.
* `Disk.replace` : replaces a file.
* `Disk.replaceLines` : replaces a file by lines of code.
-/

namespace ThreeAddress

/-- The steps of replacing a file. -/
inductive WriteStep where
  /-- Making the directory. -/
  | makeDirectory
  /-- Making the fresh file. -/
  | createFresh
  /-- Writing the piece with a number. -/
  | write (number : Nat)
  /-- Closing the fresh file. -/
  | close
  /-- Moving the fresh file over the target. -/
  | rename
deriving Repr, DecidableEq

/-- Which steps a medium fails, and why. -/
abbrev Medium := WriteStep → Option FileCause

/-- A medium without trouble. -/
def Medium.sound : Medium := fun _ => none

namespace Disk

/-- Does a step, unless the medium fails it. -/
def attempt (m : Medium) (step : WriteStep) (failure : FileCause → FileError) (act : Disk α) :
    Disk α :=
  match m step with
  | some c => throw (failure c)
  | none => act

/-- The first failure of a medium among the writes of so many pieces. -/
def writeTrouble? (m : Medium) (count : Nat) : Option FileCause :=
  (List.range count).findSome? fun n => m (.write n)

/-- Writes pieces to a file one after another. -/
def writePieces (m : Medium) (failure : FileCause → FileError) (path : Bytes)
    (pieces : List Bytes) : Disk Unit :=
  match writeTrouble? m pieces.length with
  | some c => throw (failure c)
  | none => create path pieces.flatten

/-- Takes a file away and does not mind if that fails. -/
def discard (path : Bytes) : Disk Unit :=
  try remove path catch _ => pure ()

/-- Fills a fresh file and moves it over the target. -/
def fillAndMove (m : Medium) (failure : FileCause → FileError) (fresh target : Bytes)
    (pieces : List Bytes) : Disk Unit := do
  writePieces m failure fresh pieces
  attempt m .close (.single .close fresh) (pure ())
  attempt m .rename (.moving fresh target) (rename fresh target)

/-- Replaces a file, making its directory if that is missing. -/
def replace (m : Medium) (stem : Bytes) (failure : Bytes → FileCause → FileError) (target : Bytes)
    (pieces : List Bytes) : Disk Unit := do
  let dir := Path.directory target
  attempt m .makeDirectory (.single .makeDirectory dir) (makeDirectories dir)
  let fresh ← attempt m .createFresh (.single .open (below dir stem)) (createFresh dir stem)
  try fillAndMove m (failure fresh) fresh target pieces
  catch e =>
    discard fresh
    throw e

/-- The beginning of the names of fresh files for code. -/
def codeStem : Bytes := utf8 ".tac-"

/-- Replaces a file by lines of code. -/
def replaceLines (m : Medium) (target : Bytes) (lines : List Bytes) : Disk Unit :=
  replace m codeStem (fun fresh c => .emitting target ⟨(FileError.single .write fresh c).message⟩)
    target (lines.map fun l => l ++ utf8 "\n")

end Disk

end ThreeAddress
