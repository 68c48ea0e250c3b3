import ThreeAddress.Files.System

/-!
# Sources and outputs of a build

Which files below a directory are sources, and where the code of a source is written.
-/

namespace ThreeAddress.Build

/-- The ending of sources. -/
def sourceEnding : Bytes := utf8 ".ez"

/-- The ending of code. -/
def codeEnding : Bytes := utf8 ".tac"

/-- The path of a file found below a directory. -/
def pathBelow (dir : Bytes) (p : Place) : Bytes :=
  if p = [] then dir else Path.join (dir :: p)

/-- Tests whether a path is that of a source. -/
def isSource (path : Bytes) : Bool :=
  (Bytes.stripEnd? sourceEnding path).isSome

/-- The sources below a directory, sorted. -/
def listSources (fs : FileSystem) (dir : Bytes) : Except FileError (List Bytes) := do
  let found ← fs.filesBelow dir
  let paths := (found.map fun x => pathBelow dir x.1).filter isSource
  return paths.mergeSort Bytes.lessEq

/-- The source as seen from the base directory; its last name if it lies outside. -/
def sourceName (baseDir source : Bytes) : Bytes :=
  match Path.relative? baseDir source with
  | .ok name => if (Bytes.strip? (utf8 "..") name).isSome then Path.base source else name
  | .error _ => Path.base source

/-- Where the code of a source is written. -/
def outputPath (baseDir outDir source : Bytes) : Bytes :=
  let name := sourceName baseDir source
  Path.join [outDir, (Bytes.stripEnd? sourceEnding name).getD name ++ codeEnding]

end ThreeAddress.Build
