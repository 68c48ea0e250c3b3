import ThreeAddress.Toml.Number

/-!
# Reading TOML

A document is read into events: headers, keys, plain values, and the two ends of lists and tables.
A stack of modes says what may come next.

## Main definitions

* `Toml.Event` : what a document consists of.
* `Toml.Mode`, `Toml.Mode.step` : what may come next, and reading it.
* `Toml.events?` : the events of a document.
-/

namespace ThreeAddress.Toml

/-- A key: the names that lead to a value. -/
abbrev Key := List Bytes

/-- What a document consists of. -/
inductive Event where
  /-- The header of a table, or of the next table of a list. -/
  | header (isList : Bool) (key : Key)
  /-- The key of the value that follows. -/
  | assign (key : Key)
  /-- A plain value. -/
  | scalar (value : Scalar)
  /-- A list begins. -/
  | listStart
  /-- A list ends. -/
  | listEnd
  /-- A table within a line begins. -/
  | tableStart
  /-- A table within a line ends. -/
  | tableEnd
deriving Repr, DecidableEq

/-- What may come next. -/
inductive Mode where
  /-- A line. -/
  | line
  /-- The end of a line. -/
  | lineEnd
  /-- A value. -/
  | value
  /-- An element of a list, or its end. -/
  | element
  /-- What follows an element. -/
  | elementEnd
  /-- A key of a table within a line, or its end. -/
  | field
  /-- What follows a value of a table within a line. -/
  | fieldEnd
deriving Repr, DecidableEq

/-- What came of reading one thing. -/
inductive Progress where
  /-- The document is over. -/
  | ended
  /-- It cannot be read. -/
  | stuck
  /-- Something was read: its events, what may come next, and the rest. -/
  | read (events : List Event) (next : List Mode) (rest : Bytes)
deriving Repr

/-- Tests whether a byte may stand in a name without quotes. -/
def isBare (b : UInt8) : Bool :=
  isDigit b || (byte 'a' ≤ b && b ≤ byte 'z') || (byte 'A' ≤ b && b ≤ byte 'Z')
    || b == byte '_' || b == byte '-'

/-- A name of a key, and what follows. -/
def scanName (b : Bytes) : Option (Bytes × Bytes) :=
  match b with
  | [] => none
  | q :: rest =>
    if q == byte '"' then do
      let (raw, rest) ← scanBasic rest
      return (← unescape raw, rest)
    else if q == byte '\'' then scanLiteral rest
    else
      let name := b.takeWhile isBare
      if name = [] then none else some (name, b.drop name.length)

/-- A key, and what follows it and the blanks behind it. -/
def scanKey (b : Bytes) : Option (Key × Bytes) := do
  let (name, rest) ← scanName (skipBlanks b)
  match skipBlanks rest with
  | [] => return ([name], [])
  | c :: more =>
    if c == byte '.' then
      if more.length < b.length then
        let (key, rest) ← scanKey more
        return (name :: key, rest)
      else none
    else return ([name], c :: more)
termination_by b.length

/-- A key with its equals sign. -/
def readAssign (next : List Mode) (b : Bytes) : Progress :=
  match scanKey b with
  | some (key, c :: rest) =>
    if c == byte '=' then .read [.assign key] next rest else .stuck
  | _ => .stuck

/-- The header of a table behind its first bracket. -/
def readHeader (b : Bytes) : Progress :=
  match Bytes.strip? (utf8 "[") b with
  | some b =>
    match scanKey b with
    | some (key, rest) =>
      match Bytes.strip? (utf8 "]]") rest with
      | some rest => .read [.header true key] [.lineEnd] rest
      | none => .stuck
    | none => .stuck
  | none =>
    match scanKey b with
    | some (key, rest) =>
      match Bytes.strip? (utf8 "]") rest with
      | some rest => .read [.header false key] [.lineEnd] rest
      | none => .stuck
    | none => .stuck

/-- Skips a comment up to the end of its line. -/
def skipComment (b : Bytes) : Bytes :=
  b.dropWhile fun x => x != byte '\n'

/-- A value in front of which there are no blanks. -/
def readValue (next : List Mode) (b : Bytes) : Progress :=
  match b with
  | [] => .stuck
  | x :: rest =>
    if x == byte '[' then .read [.listStart] (.element :: next) rest
    else if x == byte '{' then .read [.tableStart] (.field :: next) rest
    else match scanScalar b with
      | some (s, rest) => .read [.scalar s] next rest
      | none => .stuck

/-- Reads one thing. -/
def Mode.step (m : Mode) (b : Bytes) : Progress :=
  match m with
  | line =>
    match b.dropWhile fun x => isBlank x || isBreak x with
    | [] => .ended
    | x :: rest =>
      if x == byte '#' then .read [] [line] (skipComment rest)
      else if x == byte '[' then readHeader rest
      else readAssign [value, lineEnd] (x :: rest)
  | lineEnd =>
    match skipBlanks b with
    | [] => .ended
    | x :: rest =>
      if x == byte '#' then .read [] [line] (skipComment rest)
      else if isBreak x then .read [] [line] rest
      else .stuck
  | value => readValue [] (skipBlanks b)
  | element =>
    match b.dropWhile fun x => isBlank x || isBreak x with
    | [] => .stuck
    | x :: rest =>
      if x == byte '#' then .read [] [element] (skipComment rest)
      else if x == byte ']' then .read [.listEnd] [] rest
      else readValue [elementEnd] (x :: rest)
  | elementEnd =>
    match b.dropWhile fun x => isBlank x || isBreak x with
    | [] => .stuck
    | x :: rest =>
      if x == byte '#' then .read [] [elementEnd] (skipComment rest)
      else if x == byte ',' then .read [] [element] rest
      else if x == byte ']' then .read [.listEnd] [] rest
      else .stuck
  | field =>
    match skipBlanks b with
    | [] => .stuck
    | x :: rest =>
      if x == byte '}' then .read [.tableEnd] [] rest
      else readAssign [value, fieldEnd] (x :: rest)
  | fieldEnd =>
    match skipBlanks b with
    | [] => .stuck
    | x :: rest =>
      if x == byte '}' then .read [.tableEnd] [] rest
      else if x == byte ',' then
        if (skipBlanks rest).head? == some (byte '}') then .stuck else .read [] [field] rest
      else .stuck

/-- Reads everything. Each step leaves less to read. -/
def readAll (modes : List Mode) (b : Bytes) : Option (List Event) :=
  match modes with
  | [] => none
  | m :: below =>
    match m.step b with
    | .ended => some []
    | .stuck => none
    | .read events next rest =>
      if rest.length < b.length then (readAll (next ++ below) rest).map fun es => events ++ es
      else none
termination_by b.length

/-- The events of a document. -/
def events? (content : Bytes) : Option (List Event) :=
  let b := withoutMark content
  if isPlain b then readAll [.line] b else none

end ThreeAddress.Toml
