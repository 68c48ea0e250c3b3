import ThreeAddress.Path
import ThreeAddress.Source.Span
import ThreeAddress.Text.Sha256

/-!
# Source files

A source file is its content with what is derived from it once: the offsets of its newlines and its
hash. A set of files numbers them in the order they are added.

## Main definitions

* `SourceFile` : a file of a set.
* `SourceFile.position` : line and column of an offset.
* `SourceFile.line` : the text of a line.
* `FileSet` : the files of a compilation.
* `normalize` : content without a byte order mark and with plain newlines.
-/

namespace ThreeAddress

/-- What is known about the origin of a content, as bits: from memory, had a byte order mark, had
carriage returns in front of newlines. -/
abbrev FileFlags := UInt8

namespace FileFlags

/-- The content came from memory. -/
def virtual : FileFlags := 1

/-- The content had a byte order mark. -/
def hadMark : FileFlags := 2

/-- The content had carriage returns in front of newlines. -/
def hadReturns : FileFlags := 4

end FileFlags

/-- A line and a column, both from 1 on. -/
structure Position where
  /-- The line. -/
  line : UInt32
  /-- The column in bytes. -/
  column : UInt32
deriving Repr, DecidableEq, Inhabited

/-- The offsets of the newlines of a content that starts at the given offset, as far as they are
32-bit words. -/
def newlinesFrom (offset : Nat) : Bytes → List UInt32
  | [] => []
  | b :: rest =>
    if b == '\n'.toUInt8 && decide (offset < UInt32.size) then
      UInt32.ofNat offset :: newlinesFrom (offset + 1) rest
    else newlinesFrom (offset + 1) rest

/-- A source file. -/
structure SourceFile where
  /-- Its number in its set. -/
  id : FileId
  /-- Its cleaned path. -/
  path : Bytes
  /-- Its bytes. -/
  content : Bytes
  /-- The offsets of its newlines. -/
  newlines : List UInt32
  /-- The hash of its bytes. -/
  hash : Bytes
  /-- Where the content came from. -/
  flags : FileFlags
deriving Repr, DecidableEq, Inhabited

namespace SourceFile

/-- A file from its path and its content. -/
def ofContent (id : FileId) (path content : Bytes) (flags : FileFlags) : SourceFile where
  id := id
  path := Path.clean path
  content := content
  newlines := newlinesFrom 0 content
  hash := Sha256.digest content
  flags := flags

/-- The line and the column of an offset. The column is counted from the last newline before the
offset, as a 32-bit word. -/
def position (f : SourceFile) (offset : UInt32) : Position :=
  let before := f.newlines.takeWhile fun n => decide (n < offset)
  let start := match before.getLast? with
    | some n => n + 1
    | none => 0
  ⟨UInt32.ofNat (before.length + 1), offset - start + 1⟩

/-- The bytes of a content from one offset to another. -/
def slice (content : Bytes) (start stop : Nat) : Bytes :=
  (content.take stop).drop start

/-- The text of a line without its newline; empty for lines that do not exist. -/
def line (f : SourceFile) (n : UInt32) : Bytes :=
  if n = 0 then []
  else
    let i := n.toNat - 1
    if f.newlines.length < i then []
    else
      let start := if i = 0 then 0 else (f.newlines.getD (i - 1) 0).toNat + 1
      let stop := match f.newlines[i]? with
        | some e => e.toNat
        | none => f.content.length
      slice f.content start stop

/-- The path as seen from a directory. A relative path, or one that cannot be seen from there, is
shown as it is. -/
def displayPath (f : SourceFile) (baseDir : Bytes) : Bytes :=
  if baseDir = [] || !Path.isAbsolute f.path then f.path
  else match Path.relative? baseDir f.path with
    | .ok p => p
    | .error _ => f.path

end SourceFile

/-- Removes the carriage return from every pair with a newline. -/
def plainNewlines : Bytes → Bytes
  | [] => []
  | b :: rest =>
    if b == '\r'.toUInt8 && rest.head? == some '\n'.toUInt8 then plainNewlines rest
    else b :: plainNewlines rest

/-- The byte order mark. -/
def byteOrderMark : Bytes := [0xEF, 0xBB, 0xBF]

/-- The content without a byte order mark at its start and with plain newlines, and what was
found. -/
def normalize (content : Bytes) : Bytes × FileFlags :=
  let (body, mark) := match Bytes.strip? byteOrderMark content with
    | some body => (body, FileFlags.hadMark)
    | none => (content, 0)
  let plain := plainNewlines body
  (plain, mark ||| if plain = body then 0 else FileFlags.hadReturns)

/-- The files of a compilation. -/
structure FileSet where
  /-- The files, by number. -/
  files : Array SourceFile := #[]
  /-- The directory that paths are shown from; empty for the working directory. -/
  baseDir : Bytes := []
deriving Repr, Inhabited

namespace FileSet

/-- Adds a file. -/
def add (s : FileSet) (path content : Bytes) (flags : FileFlags) : FileId × FileSet :=
  let id := UInt32.ofNat s.files.size
  (id, { s with files := s.files.push (.ofContent id path content flags) })

/-- Adds a content from memory. -/
def addVirtual (s : FileSet) (path content : Bytes) : FileId × FileSet :=
  s.add path content .virtual

/-- Adds a content as it was read from a file. -/
def addRead (s : FileSet) (path content : Bytes) : FileId × FileSet :=
  let (plain, flags) := normalize content
  s.add path plain flags

/-- The file with a number. -/
def get? (s : FileSet) (id : FileId) : Option SourceFile :=
  s.files[id.toNat]?

/-- The newest file with a path. -/
def latest? (s : FileSet) (path : Bytes) : Option FileId :=
  (s.files.toList.reverse.find? fun f => f.path = Path.clean path).map SourceFile.id

/-- The directory that paths are shown from. -/
def displayDir (s : FileSet) (workDir : Bytes) : Bytes :=
  if s.baseDir = [] then workDir else s.baseDir

/-- The positions of the two ends of a span. -/
def resolve? (s : FileSet) (span : Span) : Option (Position × Position) :=
  (s.get? span.file).map fun f => (f.position span.start, f.position span.stop)

end FileSet

end ThreeAddress
