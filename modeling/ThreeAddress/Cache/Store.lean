import ThreeAddress.Cache.Record
import ThreeAddress.Files.Replace
import ThreeAddress.Source.File

/-!
# Cache stores

A store keeps records in the files of a directory. The name of a file is the key of its record, and
the key depends on everything that decides what a unit compiles to: its content, its path and the
version of the format.

## Main definitions

* `CacheKey.ofFile` : the key of a unit.
* `CacheStore.get`, `CacheStore.put` : reading and writing a record.
* `CacheStore.dropAll` : forgets all records.
* `CacheStore.directoryFor?` : where the store of an application is.
-/

namespace ThreeAddress

/-- The digest of a content and further parts. -/
def combine (content : Bytes) (parts : List Bytes) : Bytes :=
  Sha256.digest (content ++ parts.flatten)

/-- The name of a record. -/
abbrev CacheKey := Bytes

/-- The key of a file: its hash, its path and the version of records, taken together. -/
def CacheKey.ofFile (f : SourceFile) : CacheKey :=
  combine f.hash [f.path, MessagePack.bigEndian 2 CacheRecord.currentSchema.toNat]

/-- A directory of records. -/
structure CacheStore where
  /-- The directory. -/
  dir : Bytes
deriving Repr, DecidableEq, Inhabited

namespace CacheStore

/-- Opens a store, making its directory if that is missing. -/
def openAt (dir : Bytes) : Disk CacheStore := do
  Disk.makeDirectories dir
  return ⟨dir⟩

/-- The directory for the store of an application: below the cache directory of the user, or else
below the home directory. -/
def directoryFor? (cacheHome home app : Bytes) : Option Bytes :=
  if cacheHome ≠ [] then some (Path.join [cacheHome, app])
  else if home ≠ [] then some (Path.join [Path.join [home, utf8 ".cache"], app])
  else none

/-- The file of a record. -/
def pathFor (s : CacheStore) (key : CacheKey) : Bytes :=
  Path.join [s.dir, utf8 "units", hex key ++ utf8 ".mp"]

/-- What came of looking for a record. -/
inductive Found where
  /-- There is none. -/
  | missing
  /-- There is one. -/
  | record (r : CacheRecord)
  /-- There is something that cannot be read as a record. -/
  | unreadable
deriving Repr, DecidableEq

/-- Looks for a record. -/
def get (s : CacheStore) (key : CacheKey) (fs : FileSystem) : Found :=
  match fs.read (s.pathFor key) with
  | .error e => if e.isNotFound then .missing else .unreadable
  | .ok b =>
    match CacheRecord.decode? b with
    | some r => .record r
    | none => .unreadable

/-- The beginning of the names of fresh files for records. -/
def recordStem : Bytes := utf8 "tmp-"

/-- Stores a record. -/
def put (m : Medium) (s : CacheStore) (key : CacheKey) (r : CacheRecord) : Disk Unit :=
  Disk.replace m recordStem (fun fresh => .single .write fresh) (s.pathFor key) [r.encode]

/-- Forgets all records: the directory is moved aside under a name with a stamp, made anew, and
what was moved is removed. A store without a directory has nothing to forget. -/
def dropAll (s : CacheStore) (stamp : Bytes) : Disk Unit := do
  let old := s.dir ++ utf8 ".old-" ++ stamp
  let moved ← tryCatch (do Disk.rename s.dir old; pure true) fun e =>
    if e.isNotFound then pure false else throw e
  if moved then
    Disk.makeDirectories s.dir
    Disk.removeAll old

end CacheStore

end ThreeAddress
