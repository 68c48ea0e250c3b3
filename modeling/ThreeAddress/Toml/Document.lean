import ThreeAddress.Toml.Event

/-!
# TOML documents

The events of a document are run against its tables. Tables that only stand inside a longer key
are implied and may still be written out once; everything else is written once, and only a list may
take the place of something else. A table within a line is built like any other; where it takes the
place of a list, its values are found under the last names of their keys only.

## Main definitions

* `Toml.Node`, `Toml.Table` : what is known about the values of a document.
* `Toml.Builder.act` : runs one event.
* `Toml.Document` : the tables of a document and its keys in order.
* `Toml.read?` : reads a document.
-/

namespace ThreeAddress.Toml

/-- What stands behind a key. The elements of lists are not kept. -/
inductive Node where
  /-- A plain value. -/
  | scalar (value : Scalar)
  /-- A list within a line. -/
  | list
  /-- A table. -/
  | table (entries : List (Bytes × Node))
  /-- A list of tables with headers; only the last table can still change. -/
  | tables (earlier : List (List (Bytes × Node))) (latest : List (Bytes × Node))

/-- The values of a table by their names. -/
abbrev Table := List (Bytes × Node)

namespace Table

/-- Puts a value into a table. -/
def put (name : Bytes) (n : Node) : Table → Table
  | [] => [(name, n)]
  | (k, v) :: rest => if k = name then (name, n) :: rest else (k, v) :: put name n rest

/-- Changes the table that a key leads to. -/
def within (f : Table → Option Table) : Key → Table → Option Table
  | [], t => f t
  | k :: key, t =>
    match t.lookup k with
    | some (.table inner) => (within f key inner).map fun new => put k (.table new) t
    | some (.tables earlier latest) =>
      (within f key latest).map fun new => put k (.tables earlier new) t
    | _ => none

/-- What stands behind a key. -/
def find? : Key → Table → Option Node
  | [], t => some (.table t)
  | [k], t => t.lookup k
  | k :: key, t =>
    match t.lookup k with
    | some (.table inner) => find? key inner
    | _ => none

end Table

/-- What a value stands in. -/
inductive Frame where
  /-- A list. -/
  | list
  /-- A table within a line, with what was going on around it, and its values so far by the last
  names of their keys. -/
  | table (base context : Key) (name : Bytes) (flat : Table)

/-- The state of building a document. -/
structure Builder where
  /-- The outermost table. -/
  root : Table := []
  /-- The keys written so far, the latest first. -/
  keys : List Key := []
  /-- The tables that are only implied. -/
  implied : List Key := []
  /-- The keys whose value is a list within a line. -/
  lists : List Key := []
  /-- The table that keys are written in. -/
  base : Key := []
  /-- The table of the current key. -/
  context : Key := []
  /-- The last name of the current key. -/
  name : Bytes := []
  /-- What the current value stands in, the innermost first. -/
  frames : List Frame := []

namespace Builder

/-- Marks a table as implied. -/
def imply (s : Builder) (key : Key) : Builder :=
  { s with implied := key :: s.implied.erase key }

/-- Notes whether the value of a name is a list. A name without letters stands for its table. -/
def setKind (s : Builder) (name : Bytes) (isList : Bool) : Builder :=
  let key := if name = [] then s.context else s.context ++ [name]
  let key := if key = [] then [[]] else key
  let others := s.lists.filter fun k => k != key
  { s with lists := if isList then key :: others else others }

/-- Puts a value into the current table. Where something stands already, a list gives way to the
value and an implied table takes the place of it; from then on it is written out. -/
def setValue (s : Builder) (name : Bytes) (n : Node) : Option Builder := do
  let key := s.context ++ [name]
  let place (t : Table) : Option Table :=
    match t.lookup name with
    | none => some (t.put name n)
    | some _ =>
      if s.lists.contains key then some (t.put name n)
      else if s.implied.contains key then some t
      else none
  let existed :=
    (s.root.within (fun t => if (t.lookup name).isSome then some t else none) s.context).isSome
  let root ← s.root.within place s.context
  return { s with root := root, implied := if existed then s.implied.erase key else s.implied }

/-- Makes sure that the tables on the way to a key exist; missing ones are implied. -/
def ensure (s : Builder) : (done todo : Key) → Option Builder
  | _, [] => some s
  | done, k :: todo => do
    let here := done ++ [k]
    let place (t : Table) : Option Table :=
      match t.lookup k with
      | none => some (t.put k (.table []))
      | some (.table _) | some (.tables _ _) => some t
      | some _ => none
    let missing :=
      (s.root.within (fun t => if (t.lookup k).isNone then some t else none) done).isSome
    let root ← s.root.within place done
    let s := { s with root := root }
    ensure (if missing then s.imply here else s) here todo

/-- Enters a table, or the next table of a list. -/
def enter (s : Builder) (key : Key) (isList : Bool) : Option Builder := do
  let above := key.dropLast
  let name := key.getLast?.getD []
  let s ← s.ensure [] above
  let s := { s with context := above }
  let s ← if isList then do
      let place (t : Table) : Option Table :=
        match t.lookup name with
        | none => some (t.put name (.tables [] []))
        | some (.tables earlier latest) => some (t.put name (.tables (earlier ++ [latest]) []))
        | some _ => none
      let root ← s.root.within place above
      pure { s with root := root }
    else s.setValue name (.table [])
  return { s with context := key }

/-- Enters the tables that a longer key implies, one name at a time. -/
def enterImplied (s : Builder) : Key → Option Builder
  | [] => some s
  | k :: rest => do
    let key := s.context ++ [k]
    let s ← (s.imply key).enter key false
    s.enterImplied rest

/-- Completes a value: in a list it is passed over, otherwise it goes to the current key, and the
table within a line that it stands in takes it up as well. -/
def complete (s : Builder) (n : Node) (isList : Bool) : Option Builder :=
  match s.frames with
  | .list :: _ => some s
  | frames => do
    let s ← s.setValue s.name n
    let s := s.setKind s.name isList
    let frames := match frames with
      | .table base context name flat :: outer =>
        .table base context name (flat.put s.name n) :: outer
      | _ => frames
    return { s with context := s.base, name := [], frames := frames }

/-- Runs one event. -/
def act (s : Builder) : Event → Option Builder
  | .header isList key => do
    let s ← s.enter key isList
    let s := s.setKind [] false
    return { s with keys := key :: s.keys, base := s.context }
  | .assign key => do
    let s ← { s with context := s.base }.enterImplied key.dropLast
    let name := key.getLast?.getD []
    return { s with name := name, keys := (s.context ++ [name]) :: s.keys }
  | .scalar v => s.complete (.scalar v) false
  | .listStart =>
    let s := s.setKind s.name true
    some { s with frames := .list :: s.frames }
  | .listEnd =>
    { s with frames := s.frames.drop 1 }.complete .list true
  | .tableStart => do
    let inList := match s.frames with
      | .list :: _ => true
      | _ => false
    let frame := Frame.table s.base s.context s.name []
    let key := s.context ++ [s.name]
    let s ← (s.imply key).enter key inList
    return { s with base := key, name := [], frames := frame :: s.frames }
  | .tableEnd =>
    match s.frames with
    | .table base context name flat :: frames =>
      { s with base := base, context := context, name := name, frames := frames }.complete
        (.table flat) false
    | _ => none

end Builder

/-- The tables of a document and its keys in order. -/
structure Document where
  /-- The outermost table. -/
  root : Table
  /-- The keys in the order they are written. Implied tables have none. -/
  keys : List Key

/-- Reads a document. -/
def read? (content : Bytes) : Option Document := do
  let events ← events? content
  let s ← events.foldlM Builder.act {}
  return ⟨s.root, s.keys.reverse⟩

/-- The escape of a control character in a quoted name. -/
def controlEscape (b : UInt8) : Bytes :=
  match b.toNat with
  | 8 => utf8 "\\b"
  | 9 => utf8 "\\t"
  | 10 => utf8 "\\n"
  | 12 => utf8 "\\f"
  | 13 => utf8 "\\r"
  | n => utf8 "\\u" ++ hexPadded 4 n

/-- Writes a name of a key, with quotes if it needs them. -/
def renderName (name : Bytes) : Bytes :=
  if name ≠ [] ∧ name.all isBare then name
  else
    let escape (b : UInt8) : Bytes :=
      if b == byte '"' || b == byte '\\' then [byte '\\', b]
      else if b < 0x20 || b == 0x7F then controlEscape b
      else [b]
    utf8 "\"" ++ name.flatMap escape ++ utf8 "\""

/-- Writes a key with dots between its names. -/
def renderKey (key : Key) : Bytes :=
  Bytes.joinWith (utf8 ".") (key.map renderName)

end ThreeAddress.Toml
