import ThreeAddress.Diagnostic.Bag
import ThreeAddress.Source.Load

/-!
# The tokens of a file
-/

namespace ThreeAddress.Build

/-- A file with its tokens and what is told about them. -/
structure Tokenized where
  /-- The file. -/
  file : SourceFile
  /-- Its tokens. -/
  tokens : List Token
  /-- What is told about them. -/
  bag : Bag
deriving Repr

/-- Splits the file at a path into tokens. -/
def tokenize (fs : FileSystem) (path : Bytes) (maxDiagnostics : Int) :
    Except FileError Tokenized := do
  let f ← SourceFile.load fs path
  let ls := f.lexemes
  return ⟨f, ls.map Lexeme.token,
    ((Bag.new maxDiagnostics).addAll (ls.flatMap Lexeme.diagnostics)).sort⟩

end ThreeAddress.Build
