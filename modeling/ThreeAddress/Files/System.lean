import ThreeAddress.Files.Error
import ThreeAddress.Files.Tree

/-!
# File systems

A file system is a file tree with a working directory. Paths are followed name by name from the
root or from the working directory, and every name but the last has to lead to a directory.

## Main definitions

* `FileSystem.reach`, `FileSystem.locate` : the place a path leads to.
* `FileSystem.stat`, `FileSystem.read` : what stands there.
* `Disk` : operations that change a file system and may fail half way.
* `Disk.makeDirectories`, `Disk.create`, `Disk.rename`, `Disk.removeAll` : such operations.
-/

namespace ThreeAddress

/-- A file tree with a working directory. -/
structure FileSystem where
  /-- The tree. -/
  tree : FileTree := {}
  /-- The working directory. -/
  workDir : Place := []
deriving Repr, DecidableEq, Inhabited

namespace FileSystem

/-- The longest name. -/
def maxName : Nat := 255

/-- The first length that a path may not have. -/
def pathBound : Nat := 4096

/-- Follows one name from a place, which has to be a directory. -/
def enter (t : FileTree) (p : Place) (name : Bytes) : Except FileCause Place :=
  match t.get? p with
  | none => .error .notFound
  | some (.file _) => .error .notDirectory
  | some .directory =>
    if name = utf8 "." then .ok p
    else if name = utf8 ".." then .ok p.dropLast
    else if maxName < name.length then .error .nameTooLong
    else .ok (p ++ [name])

/-- The names of a path in order. -/
def names (path : Bytes) : List Bytes :=
  (Bytes.splitOn Path.slash path).filter fun n => n != []

/-- Tests whether a path ends with a slash. -/
def endsInSlash (path : Bytes) : Bool :=
  path.getLast? == some Path.slash

/-- The working directory as a path. -/
def workPath (fs : FileSystem) : Bytes :=
  Path.ofElements true fs.workDir

/-- The place a path leads to, whether something is there or not. -/
def reach (fs : FileSystem) (path : Bytes) : Except FileCause Place :=
  if path.contains 0 then .error .invalid
  else if path = [] then .error .notFound
  else if pathBound ≤ path.length then .error .nameTooLong
  else (names path).foldlM (enter fs.tree) (if Path.isAbsolute path then [] else fs.workDir)

/-- The place a path leads to. A path that ends with a slash does not lead to a file. -/
def locate (fs : FileSystem) (path : Bytes) : Except FileCause Place := do
  let p ← fs.reach path
  match fs.tree.get? p with
  | some (.file _) => if endsInSlash path then .error .notDirectory else .ok p
  | _ => .ok p

/-- What stands at the end of a path. -/
def find (fs : FileSystem) (path : Bytes) : Except FileCause Entry := do
  let p ← fs.locate path
  match fs.tree.get? p with
  | some e => .ok e
  | none => .error .notFound

/-- What stands at the end of a path; the failure names the question. -/
def stat (fs : FileSystem) (path : Bytes) : Except FileError Entry :=
  (fs.find path).mapError (.single .stat path)

/-- Tests whether a path leads to a directory. -/
def isDirectory (fs : FileSystem) (path : Bytes) : Bool :=
  match fs.find path with
  | .ok .directory => true
  | _ => false

/-- The content of the file at a path. -/
def read (fs : FileSystem) (path : Bytes) : Except FileError Bytes :=
  match fs.find path with
  | .error c => .error (.single .open path c)
  | .ok .directory => .error (.single .read path .isDirectory)
  | .ok (.file content) => .ok content

/-- The files below a path, seen from it, in the order of their places. -/
def filesBelow (fs : FileSystem) (path : Bytes) : Except FileError (List (Place × Bytes)) :=
  match fs.locate path with
  | .error c => .error (.single .lstat path c)
  | .ok p =>
    match fs.tree.get? p with
    | none => .error (.single .lstat path .notFound)
    | some _ => .ok (fs.tree.files p)

end FileSystem

/-- Operations that change a file system. One that fails half way leaves behind what it has done. -/
abbrev Disk := EStateM FileError FileSystem

namespace Disk

/-- Changes the tree. -/
def change (f : FileTree → FileTree) : Disk Unit :=
  modify fun fs => { fs with tree := f fs.tree }

/-- Hands on the outcome of a question. -/
def ask (question : FileSystem → Except FileError α) : Disk α := do
  match question (← get) with
  | .ok a => pure a
  | .error e => throw e

/-- Makes a directory. -/
def makeDirectory (path : Bytes) : Disk Unit := do
  let fs ← get
  match fs.reach path with
  | .error c => throw (.single .makeDirectory path c)
  | .ok p =>
    match fs.tree.get? p with
    | some _ => throw (.single .makeDirectory path .alreadyExists)
    | none => change fun t => t.put p .directory

/-- The path above the last name of a path; empty if there is no such path. -/
def above (path : Bytes) : Bytes :=
  let trimmed := (path.reverse.dropWhile fun b => b == Path.slash).reverse
  (Path.splitLast trimmed).1.dropLast

/-- Makes a directory with all directories above it, as far as they are missing. -/
def makeDirectories (path : Bytes) : Disk Unit := do
  match (← get).find path with
  | .ok .directory => pure ()
  | .ok (.file _) => throw (.single .makeDirectory path .notDirectory)
  | .error _ =>
    if above path ≠ [] then
      if (above path).length < path.length then makeDirectories (above path)
    try makeDirectory path
    catch e => if !(← get).isDirectory path then throw e
termination_by path.length

/-- Writes a file, which is made if it is missing. -/
def create (path content : Bytes) : Disk Unit := do
  let fs ← get
  match fs.reach path with
  | .error c => throw (.single .open path c)
  | .ok p =>
    if FileSystem.endsInSlash path then throw (.single .open path .isDirectory)
    else match fs.tree.get? p with
      | some .directory => throw (.single .open path .isDirectory)
      | _ => change fun t => t.put p (.file content)

/-- A path below a directory, without cleaning. -/
def below (dir name : Bytes) : Bytes :=
  if FileSystem.endsInSlash dir then dir ++ name else dir ++ [Path.slash] ++ name

/-- A path below a directory where nothing stands: the stem with the first free number. -/
def freshPath (fs : FileSystem) (dir stem : Bytes) : Bytes :=
  let candidate (n : Nat) := below dir (stem ++ decimal n)
  let bound := fs.tree.entries.length
  let free (n : Nat) := match fs.find (candidate n) with
    | .ok _ => false
    | .error _ => true
  candidate (((List.range (bound + 1)).find? free).getD bound)

/-- Makes an empty file with a fresh name in a directory. -/
def createFresh (dir stem : Bytes) : Disk Bytes := do
  let path := freshPath (← get) dir stem
  create path []
  return path

/-- Adds to the end of a file. -/
def append (path content : Bytes) : Disk Unit := do
  let old ← ask fun fs => fs.read path
  create path (old ++ content)

/-- Takes a file away. -/
def remove (path : Bytes) : Disk Unit := do
  match (← get).locate path with
  | .error c => throw (.single .remove path c)
  | .ok p => change fun t => t.erase p

/-- Takes a path away with everything below it; there may be nothing. -/
def removeAll (path : Bytes) : Disk Unit := do
  match (← get).locate path with
  | .error .notFound => pure ()
  | .error c => throw (.single .remove path c)
  | .ok p => change fun t => t.eraseBelow p

/-- Why an entry cannot be moved over what stands at a target that is no directory. -/
def obstacle? (t : FileTree) (source target : Place) (targetPath : Bytes) : Option FileCause :=
  match t.get? source with
  | none => some .notFound
  | some (.file _) => if FileSystem.endsInSlash targetPath then some .notDirectory else none
  | some .directory =>
    if source = [] then some .busy
    else if source.isPrefixOf target then some .invalid
    else if (t.get? target).isSome then some .notDirectory
    else none

/-- Moves a path. A file at the target is replaced; a directory there stops the move. -/
def rename (source target : Bytes) : Disk Unit := do
  let fs ← get
  let fail (c : FileCause) : Disk Unit := throw (.moving source target c)
  match fs.locate source with
  | .error c => fail c
  | .ok p =>
    match fs.reach target with
    | .error c => fail c
    | .ok q =>
      if fs.isDirectory target then
        if (fs.tree.get? p).isNone then fail .notFound
        else if p = q ∧ source ≠ target then pure ()
        else fail .alreadyExists
      else match obstacle? fs.tree p q target with
        | some c => fail c
        | none => if p = q then pure () else change fun t => t.move p q

end Disk

end ThreeAddress
