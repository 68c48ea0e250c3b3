import ThreeAddress.Files.System
import ThreeAddress.Lexer.Basic
import ThreeAddress.Source.File

/-!
# Loading source files

Files are taken into a set from a file system, and their content is split into lexemes.
-/

namespace ThreeAddress

/-- Adds the file at a path, without a byte order mark and with plain newlines. -/
def FileSet.load (s : FileSet) (fs : FileSystem) (path : Bytes) :
    Except FileError (FileId × FileSet) := do
  let content ← fs.read path
  return s.addRead path content

/-- Loads a single file into a set of its own. -/
def SourceFile.load (fs : FileSystem) (path : Bytes) : Except FileError SourceFile := do
  let content ← fs.read path
  let (plain, flags) := normalize content
  return .ofContent 0 path plain flags

/-- The set that holds a single file. -/
def FileSet.ofFile (f : SourceFile) : FileSet :=
  { files := #[f] }

/-- The lexemes of a file. A file of 2^32 bytes or more has none. -/
def SourceFile.lexemes (f : SourceFile) : List Lexeme :=
  ((Cursor.start? f.id f.content).map Cursor.lexemes).getD []

end ThreeAddress
