import ThreeAddress.CommandLine.Run

/-!
# The program

Takes a picture of the files that a run may look at, runs the command line on it, and carries the
changes over to the disk.
-/

namespace ThreeAddress.Main

/-- The path of a place. -/
def pathOf (p : Place) : String :=
  Utf8.toString (Path.ofElements true p)

/-- Takes up a file, or a directory with everything below it. -/
partial def addTree (place : Place) (t : FileTree) : IO FileTree := do
  let path := (← IO.currentDir) / pathOf place
  if ← path.isDir then
    let mut t := t.put place .directory
    for entry in ← path.readDir do
      t ← addTree (place ++ [utf8 entry.fileName]) t
    return t
  else if ← path.pathExists then
    let content ← IO.FS.readBinFile path
    return t.put place (.file content.data.toList)
  else return t

/-- The place that a path leads to. -/
def placeOf (workPath path : Bytes) : Place :=
  Path.cleanElements (Path.absolute workPath path)

/-- The places above a place, the root first. -/
def placesAbove (p : Place) : List Place :=
  (List.range p.length).map fun n => p.take n

/-- Takes up the manifest of a directory, with everything below the directory. -/
def addManifest (p : Place) (t : FileTree) : IO FileTree := do
  let manifest := (← IO.currentDir) / pathOf (p ++ [Manifest.fileName])
  if ← manifest.pathExists then addTree p t else return t

/-- Takes a picture of what the given paths lead to and of the manifests above them. -/
def picture (workPath : Bytes) (paths : List Bytes) : IO FileSystem := do
  let mut t : FileTree := {}
  for path in paths do
    let place := placeOf workPath path
    for p in placesAbove place do
      t := if (t.get? p).isNone then t.put p .directory else t
      t ← addManifest p t
    t ← addTree place t
  return ⟨t, placeOf workPath workPath⟩

/-- Carries the changes of a tree over to the disk. -/
def carryOver (old new : FileTree) : IO Unit := do
  for (place, entry) in new.entries do
    if old.get? place ≠ some entry then
      match entry with
      | .directory => IO.FS.createDirAll (pathOf place)
      | .file content =>
        IO.FS.createDirAll (pathOf place.dropLast)
        IO.FS.writeBinFile (pathOf place) (ByteArray.mk content.toArray)
  for (place, entry) in old.entries do
    if let .file _ := entry then
      if (new.get? place).isNone then
        IO.FS.removeFile (pathOf place)

/-- The value of a variable of the surroundings; empty if it is not set. -/
def surrounding (name : String) : IO Bytes := do
  return ((← IO.getEnv name).map utf8).getD []

/-- Runs the program. -/
def start (args : List String) : IO UInt32 := do
  let workPath := utf8 (← IO.currentDir).toString
  let words := args.map utf8
  let host : CommandLine.Host :=
    { cacheHome := ← surrounding "XDG_CACHE_HOME", home := ← surrounding "HOME" }
  let store := (CacheStore.directoryFor? host.cacheHome host.home CommandLine.cacheName).toList
  let named := words.filter fun w => Path.isAbsolute w || (Bytes.strip? (utf8 "..") w).isSome
  let files ← picture workPath (utf8 "." :: store ++ named)
  let out := CommandLine.run host files words
  carryOver files.tree out.files.tree
  (← IO.getStdout).write (ByteArray.mk out.output.toArray)
  (← IO.getStderr).write (ByteArray.mk out.messages.toArray)
  return out.code

end ThreeAddress.Main

/-- The program. -/
def main (args : List String) : IO UInt32 :=
  ThreeAddress.Main.start args
