import ThreeAddress.Bytes

/-!
# Paths

Paths are byte strings with slashes between their elements. The operations here are lexical: they
do not look at any file system.

## Main definitions

* `Path.clean` : the shortest equivalent path.
* `Path.join`, `Path.absolute` : paths below other paths.
* `Path.relative?` : a path as seen from a directory.
* `Path.base`, `Path.directory` : parts of a path.
-/

namespace ThreeAddress.Path

/-- The separator of path elements. -/
def slash : UInt8 := '/'.toUInt8

/-- Tests whether a path starts at the root. -/
def isAbsolute (p : Bytes) : Bool :=
  p.head? == some slash

/-- The elements of a path that are neither empty nor a single dot. -/
def elements (p : Bytes) : List Bytes :=
  (Bytes.splitOn slash p).filter fun e => e != [] && e != utf8 "."

/-- Adds an element to a cleaned list of elements, the last one first: a double dot takes the
element before it away, and stays only where nothing can be taken away. -/
def descend (rooted : Bool) (done : List Bytes) (e : Bytes) : List Bytes :=
  if e = utf8 ".." then
    match done with
    | [] => if rooted then [] else [e]
    | d :: rest => if d = utf8 ".." then e :: d :: rest else rest
  else e :: done

/-- The elements of a cleaned path. -/
def cleanElements (p : Bytes) : List Bytes :=
  ((elements p).foldl (descend (isAbsolute p)) []).reverse

/-- Writes elements as a path. A path without elements is the root or the dot. -/
def ofElements (rooted : Bool) (es : List Bytes) : Bytes :=
  if rooted then slash :: Bytes.joinWith [slash] es
  else if es = [] then utf8 "."
  else Bytes.joinWith [slash] es

/-- The shortest equivalent path. -/
def clean (p : Bytes) : Bytes :=
  ofElements (isAbsolute p) (cleanElements p)

/-- Joins paths, leaving out empty ones in front, and cleans the result. -/
def join (ps : List Bytes) : Bytes :=
  match ps.dropWhile fun p => p == [] with
  | [] => []
  | rest => clean (Bytes.joinWith [slash] rest)

/-- The path as seen from the root, for a working directory. -/
def absolute (workDir p : Bytes) : Bytes :=
  if isAbsolute p then clean p else join [workDir, p]

/-- Removes the common elements at the front of two lists. -/
def dropCommon : List Bytes → List Bytes → List Bytes × List Bytes
  | a :: as, b :: bs => if a = b then dropCommon as bs else (a :: as, b :: bs)
  | as, bs => (as, bs)

/-- The target as seen from the base, for cleaned paths of the same rootedness; none if the base
climbs out of the common part by a double dot. -/
def relativeElements? (base target : List Bytes) : Option (List Bytes) :=
  match dropCommon base target with
  | (up, down) =>
    if up.head? = some (utf8 "..") ∧ down ≠ [] then none
    else some (List.replicate up.length (utf8 "..") ++ down)

/-- The elements of a cleaned path for comparing; a lone dot counts as an element of a target. -/
def targetElements (p : Bytes) : List Bytes :=
  if clean p = utf8 "." then [utf8 "."] else cleanElements p

/-- The target as seen from the base. The answer is an error text if there is no such path. -/
def relative? (base target : Bytes) : Except Bytes Bytes :=
  let failure := utf8 "Rel: can't make " ++ target ++ utf8 " relative to " ++ base
  if clean target = clean base then .ok (utf8 ".")
  else if isAbsolute base ≠ isAbsolute target then .error failure
  else match relativeElements? (cleanElements base) (targetElements target) with
    | some es => .ok (Bytes.joinWith [slash] es)
    | none => .error failure

/-- Splits a byte string behind its last slash. -/
def splitLast (p : Bytes) : Bytes × Bytes :=
  let name := (p.reverse.takeWhile fun b => b != slash).reverse
  (p.take (p.length - name.length), name)

/-- The last element of a path. -/
def base (p : Bytes) : Bytes :=
  if p = [] then utf8 "."
  else
    let trimmed := (p.reverse.dropWhile fun b => b == slash).reverse
    if trimmed = [] then [slash] else (splitLast trimmed).2

/-- The path without its last element. -/
def directory (p : Bytes) : Bytes :=
  clean (splitLast p).1

end ThreeAddress.Path
