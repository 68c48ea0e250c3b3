import ThreeAddress.MessagePack.Read
import ThreeAddress.MessagePack.Write

/-!
# Cache records

What is stored about a compiled unit: its code, what was counted, and whether it may be used again.
A record is written as a map from the names of its fields to their values.

## Main definitions

* `CacheRecord` : what is stored.
* `CacheRecord.encode`, `CacheRecord.decode?` : the written form.
* `CacheRecord.isUsable` : whether a record answers for a path.
-/

namespace ThreeAddress

/-- What is stored about a compiled unit. -/
structure CacheRecord where
  /-- The version of the format. -/
  schema : UInt16 := 0
  /-- The path of the unit. -/
  path : Bytes := []
  /-- The hash of its content. -/
  hash : Bytes := List.replicate 32 0
  /-- Its code. -/
  lines : List Bytes := []
  /-- How many temporaries it uses. -/
  temps : UInt64 := 0
  /-- How many labels it uses. -/
  labels : UInt64 := 0
  /-- How many declarations it has. -/
  declarations : Int64 := 0
  /-- How many statements it has. -/
  statements : Int64 := 0
  /-- The size of its largest frame. -/
  maxFrame : UInt64 := 0
  /-- Whether something was told about it. Such a unit is compiled again. -/
  broken : Bool := false
deriving Repr, DecidableEq, Inhabited

namespace CacheRecord

open MessagePack

/-- The version of records that are written now. -/
def currentSchema : UInt16 := 1

/-- Tests whether a record answers for a path. -/
def isUsable (r : CacheRecord) (path : Bytes) : Bool :=
  r.schema == currentSchema && r.path == path && !r.broken

/-- The fields of a record. -/
inductive Field where
  /-- The version of the format. -/
  | schema
  /-- The path. -/
  | path
  /-- The hash. -/
  | hash
  /-- The code. -/
  | lines
  /-- The number of temporaries. -/
  | temps
  /-- The number of labels. -/
  | labels
  /-- The number of declarations. -/
  | declarations
  /-- The number of statements. -/
  | statements
  /-- The size of the largest frame. -/
  | maxFrame
  /-- Whether something was told. -/
  | broken
deriving Repr, DecidableEq

namespace Field

/-- The fields in the order they are written. -/
def all : List Field :=
  [schema, path, hash, lines, temps, labels, declarations, statements, maxFrame, broken]

/-- The name of a field. -/
def name : Field → Bytes
  | schema => utf8 "Schema"
  | path => utf8 "Path"
  | hash => utf8 "Hash"
  | lines => utf8 "Lines"
  | temps => utf8 "Temps"
  | labels => utf8 "Labels"
  | declarations => utf8 "Declarations"
  | statements => utf8 "Statements"
  | maxFrame => utf8 "MaxFrame"
  | broken => utf8 "Broken"

/-- The field with a name. -/
def ofName? (n : Bytes) : Option Field :=
  all.find? fun f => f.name = n

/-- Writes the value of a field. -/
def write (r : CacheRecord) : Field → Bytes
  | schema => writeWord16 r.schema
  | path => writeText r.path
  | hash => writeBinary r.hash
  | lines => writeTexts r.lines
  | temps => writeWord64 r.temps
  | labels => writeWord64 r.labels
  | declarations => writeInt r.declarations
  | statements => writeInt r.statements
  | maxFrame => writeWord64 r.maxFrame
  | broken => writeBool r.broken

/-- Puts the front of a hash into a hash; no answer if it is longer. -/
def overlay? (new old : Bytes) : Option Bytes :=
  if new.length ≤ old.length then some (new ++ old.drop new.length) else none

/-- Reads the value of a field into a record. Words take the low bits of a number. -/
def read (r : CacheRecord) : Field → Reader CacheRecord
  | schema => do return { r with schema := UInt16.ofInt (← readNumber) }
  | path => do return { r with path := ← readText }
  | hash => do
    match ← readBinary? with
    | none => return r
    | some h => return { r with hash := ← (overlay? h r.hash : Option Bytes) }
  | lines => do
    match ← readTexts? with
    | none => return r
    | some ls => return { r with lines := ls }
  | temps => do return { r with temps := UInt64.ofInt (← readNumber) }
  | labels => do return { r with labels := UInt64.ofInt (← readNumber) }
  | declarations => do return { r with declarations := Int64.ofInt (← readNumber) }
  | statements => do return { r with statements := Int64.ofInt (← readNumber) }
  | maxFrame => do return { r with maxFrame := UInt64.ofInt (← readNumber) }
  | broken => do return { r with broken := ← readBool }

end Field

/-- Writes a record. -/
def encode (r : CacheRecord) : Bytes :=
  writeMapLength Field.all.length ++ Field.all.flatMap fun f => writeText f.name ++ f.write r

/-- Reads one entry of a map into a record; an unknown one is passed over. -/
def readEntry (r : CacheRecord) : Reader CacheRecord := do
  match Field.ofName? (← readText) with
  | some f => f.read r
  | none =>
    skip
    return r

/-- Reads so many entries of a map into a record. -/
def readEntries : Nat → CacheRecord → Reader CacheRecord
  | 0, r => return r
  | n + 1, r => do readEntries n (← readEntry r)

/-- Reads the values of all fields in order. -/
def readList (r : CacheRecord) : Reader CacheRecord :=
  Field.all.foldlM (fun r f => f.read r) r

/-- Reads a record: a map, a list of all values in order, or nothing. -/
def reader : Reader CacheRecord := fun b => do
  let (code, rest) ← readByte b
  match readMapLength code rest with
  | some (none, rest) => return ({}, rest)
  | some (some n, rest) => readEntries n {} rest
  | none =>
    match ← readArrayLength code rest with
    | (some 0, rest) | (none, rest) => return ({}, rest)
    | (some n, rest) => if n = Field.all.length then readList {} rest else none

/-- The record at the front of a byte string. What follows it does not matter. -/
def decode? (b : Bytes) : Option CacheRecord :=
  (reader b).map Prod.fst

end CacheRecord

end ThreeAddress
