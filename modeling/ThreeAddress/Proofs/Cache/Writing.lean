import ThreeAddress.Proofs.Cache.Record
import ThreeAddress.Proofs.Cache.Store
import ThreeAddress.Proofs.Code.Lines
import ThreeAddress.Proofs.Files.Replacement

/-!
# Writing records and code

A record that was put into a store is found there under its key, and what is found under any other
key stays what it was. Records and code are both written by replacing a file, so either is written
as a whole or not at all.

## Main definitions

* `CacheStore.unitsDir` : the directory that the records of a store stand in.

## Main results

* `CacheStore.get_put` : what is found after putting a record.
* `CacheStore.allOrNothing_outputs` : code and records are written as a whole or not at all.
-/

namespace ThreeAddress

open ThreeAddress.Path (slash IsName)
open FileSystem (placeOf)

namespace CacheStore

variable {s : CacheStore} {key : CacheKey} {r : CacheRecord} {fs fs' : FileSystem}

/-! ### The path of a record -/

/-- The directory that the records of a store stand in. -/
def unitsDir (s : CacheStore) : Bytes :=
  Path.clean s.unitsPath

theorem unitsPath_extends (s : CacheStore) :
    ∃ dir, Path.Extends dir [unitsName] s.unitsPath := by
  unfold unitsPath
  split
  · exact ⟨[], rfl, by decide⟩
  · rename_i hdir
    have hunits : ∀ n ∈ [unitsName], IsName n := by simp [isName_unitsName]
    have hjoined := Path.extends_joinWith_cons hdir hunits
    exact ⟨s.dir, by simpa [Bytes.joinWith] using hjoined⟩

/-- A record stands in the directory of records under the name of its key. -/
theorem pathFor_eq_append (s : CacheStore) (key : CacheKey) :
    s.pathFor key = (s.unitsDir ++ [slash]) ++ recordName key := by
  have hnames : ∀ n ∈ [recordName key], IsName n := by simp [isName_recordName]
  have hjoined := Path.extends_joinWith_cons s.unitsPath_ne_nil hnames
  obtain ⟨dir, hdir⟩ := s.unitsPath_extends
  have hne : Path.cleanElements s.unitsPath ≠ [] := by
    rw [hdir.cleanElements (by simp [isName_unitsName])]
    simp
  have hpath : s.unitsPath ++ slash :: recordName key =
      Bytes.joinWith [slash] [s.unitsPath, recordName key] := by
    simp [Bytes.joinWith]
  rw [pathFor_eq, hpath, hjoined.clean_eq hnames, Path.ofElements_concat _ hne, unitsDir,
    Path.clean, List.append_assoc]
  rfl

theorem isFront_unitsDir (s : CacheStore) : FileSystem.IsFront (s.unitsDir ++ [slash]) :=
  .inr ⟨_, rfl⟩

theorem clean_pathFor (s : CacheStore) (key : CacheKey) :
    Path.clean (s.pathFor key) = s.pathFor key := by
  rw [pathFor_eq, Path.clean_clean]

theorem splitLast_pathFor (s : CacheStore) (key : CacheKey) :
    Path.splitLast (s.pathFor key) = (s.unitsDir ++ [slash], recordName key) := by
  rw [pathFor_eq_append, FileSystem.splitLast_append s.isFront_unitsDir
    (isName_recordName key).noSlash]

theorem endsInSlash_pathFor (s : CacheStore) (key : CacheKey) :
    FileSystem.endsInSlash (s.pathFor key) = false := by
  rw [FileSystem.endsInSlash, pathFor_eq_append, List.getLast?_append, getLast?_recordName,
    Option.some_or]
  decide

theorem directory_pathFor (s : CacheStore) (key : CacheKey) :
    Path.directory (s.pathFor key) = s.unitsDir := by
  have hne : s.unitsDir ≠ [] := Path.clean_ne_nil _
  rw [Path.directory, splitLast_pathFor, Path.clean_append_slash hne, unitsDir, Path.clean_clean]

theorem endsInSlash_unitsDir (s : CacheStore) : FileSystem.endsInSlash s.unitsDir = false := by
  obtain ⟨dir, hdir⟩ := s.unitsPath_extends
  obtain ⟨front, hfront, -⟩ := Path.exists_front_ofElements (Path.isAbsolute s.unitsPath)
    (Path.cleanElements dir) unitsName
  have hunits : unitsName.getLast? = some 115 := by decide
  rw [FileSystem.endsInSlash, unitsDir, Path.clean,
    hdir.cleanElements (by simp [isName_unitsName]), hfront, List.getLast?_append, hunits,
    Option.some_or]
  decide

/-- The directory of the path of a record leads to where records stand. -/
theorem placeFor_eq_directory (s : CacheStore) (workDir : Place) (key : CacheKey) :
    s.placeFor workDir key =
      placeOf workDir (Path.directory (s.pathFor key)) ++ [recordName key] := by
  have hname : IsName (Path.splitLast (s.pathFor key)).2 := by
    rw [splitLast_pathFor]
    exact isName_recordName key
  rw [← placeOf_pathFor, FileSystem.placeOf_directory workDir hname, splitLast_pathFor]

theorem length_hex (b : Bytes) : (hex b).length = 2 * b.length := by
  induction b with
  | nil => rfl
  | cons x b ih =>
    have hcons : hex (x :: b) = hexPadded 2 x.toNat ++ hex b := rfl
    rw [hcons, List.length_append, ih, hexPadded_two]
    simp
    omega

theorem length_recordName (key : CacheKey) : (recordName key).length = 2 * key.length + 3 := by
  have hend : (utf8 ".mp").length = 3 := by decide
  rw [recordName, List.length_append, length_hex, hend]

theorem zero_notMem_recordName (key : CacheKey) : 0 ∉ recordName key := by
  intro h
  have hzero : (0 : UInt8).toNat = 0 := rfl
  have := mem_recordName h
  omega

/-- Where any path into the directory of records can be followed, the path of a record can be
followed too, unless it is too long. -/
theorem reach_pathFor {name : Bytes} {p : Place} (hname : IsName name)
    (h : fs.reach ((s.unitsDir ++ [slash]) ++ name) = .ok p)
    (hpath : (s.pathFor key).length < FileSystem.pathBound)
    (hlong : (recordName key).length ≤ FileSystem.maxName) :
    fs.reach (s.pathFor key) = .ok (placeOf fs.workDir (s.pathFor key)) := by
  obtain ⟨⟨hzero, -, -⟩, q, hfold, hq, -⟩ :=
    (FileSystem.reach_append s.isFront_unitsDir hname).mp h
  have hreach : fs.reach (s.pathFor key) = .ok (q ++ [recordName key]) := by
    rw [pathFor_eq_append] at hpath ⊢
    refine (FileSystem.reach_append s.isFront_unitsDir (isName_recordName key)).mpr
      ⟨⟨?_, hpath, hlong⟩, q, hfold, hq, rfl⟩
    rw [List.mem_append, not_or] at hzero ⊢
    exact ⟨hzero.1, zero_notMem_recordName key⟩
  rw [hreach, FileSystem.eq_placeOf hreach]

/-- Where the path of one record can be followed, so can that of another key of the same length. -/
theorem reach_pathFor_of_length {key' : CacheKey} {p : Place} (hlength : key'.length = key.length)
    (h : fs.reach (s.pathFor key) = .ok p) :
    fs.reach (s.pathFor key') = .ok (placeOf fs.workDir (s.pathFor key')) := by
  have hsame : (recordName key').length = (recordName key).length := by
    rw [length_recordName, length_recordName, hlength]
  rw [pathFor_eq_append] at h
  obtain ⟨⟨-, hpath, hlong⟩, -⟩ :=
    (FileSystem.reach_append s.isFront_unitsDir (isName_recordName key)).mp h
  refine reach_pathFor (isName_recordName key) h ?_ (hsame ▸ hlong)
  rwa [pathFor_eq_append, List.length_append, hsame, ← List.length_append]

/-! ### Putting and getting -/

theorem get_congr (h : fs'.find (s.pathFor key) = fs.find (s.pathFor key)) :
    s.get key fs' = s.get key fs := by
  rw [get, get, FileSystem.read, FileSystem.read, h]

theorem allOrNothing_put (hfs : fs.WellFormed) (s : CacheStore) (m : Medium) (key : CacheKey)
    (r : CacheRecord) : Disk.AllOrNothing (s.put m key r) (s.pathFor key) r.encode fs := by
  have h := @Disk.allOrNothing_replace fs recordStem (s.pathFor key) m
    (fun fresh => .single .write fresh) [r.encode] hfs (by decide)
  rwa [List.flatten_singleton] at h

/-- A record that was put is found, and what is found under other keys is what it was. -/
theorem get_of_put (hfs : fs.WellFormed) {m : Medium} (hr : r.Fits)
    (h : (s.put m key r).run fs = .ok () fs') :
    s.get key fs' = .record r ∧ ∀ key' : CacheKey, key'.length = key.length → key' ≠ key →
      s.get key' fs' = s.get key' fs := by
  obtain ⟨hread, made, hpaves, hgains⟩ := (allOrNothing_put hfs s m key r).all fs' h
  refine ⟨?_, fun key' hlength hne => get_congr ?_⟩
  · have hdecode := CacheRecord.decode?_encode_append hr []
    rw [List.append_nil] at hdecode
    exact get_eq_record.mpr ⟨_, hread, hdecode⟩
  · obtain ⟨p, hreach, -, -⟩ := FileSystem.read_eq_ok.mp hread
    have hwork : fs'.workDir = fs.workDir := hgains.workDir.trans hpaves.workDir
    refine FileSystem.find_of_gains hfs hpaves hgains (clean_pathFor s key')
      (reach_pathFor_of_length hlength hreach) ?_ ?_
    · rw [hwork, placeOf_pathFor, placeOf_pathFor]
      exact fun heq => hne (placeFor_injective heq)
    · -- the directory of the records is above all of them
      rw [hwork, placeOf_pathFor, placeFor_eq_directory, directory_pathFor, directory_pathFor]
      exact fun hprefix => by simpa using hprefix.length_le

/-- Nothing stands in the way of a record: its directory and a fresh file can be made, its path is
short enough, and no directory has taken its place. -/
structure CanPut (s : CacheStore) (key : CacheKey) (fs : FileSystem) : Prop where
  /-- The name of the record is short enough. -/
  name : (recordName key).length ≤ FileSystem.maxName
  /-- The path of the record is short enough. -/
  path : (s.pathFor key).length < FileSystem.pathBound
  /-- Its directory can be made. -/
  makes : (Disk.makeDirectories (Path.directory (s.pathFor key))).succeeds fs = true
  /-- A fresh file can be made in it. -/
  creates : (Disk.createFresh (Path.directory (s.pathFor key)) recordStem).succeeds
    ((Disk.makeDirectories (Path.directory (s.pathFor key))).left fs) = true
  /-- No directory stands in its place. -/
  free : fs.tree.get? (s.placeFor fs.workDir key) ≠ some .directory

theorem CanPut.canReplace (h : s.CanPut key fs) (hfs : fs.WellFormed) :
    Disk.CanReplace recordStem (s.pathFor key) fs := by
  obtain ⟨fresh, hcreated⟩ := Disk.run_of_succeeds h.creates
  have hpaving := Disk.paving_makeDirectories (Path.directory (s.pathFor key)) fs
  rw [Path.clean_directory] at hpaving
  have hpaves := (hpaving hfs).2
  refine ⟨h.makes, h.creates, ?_, endsInSlash_pathFor s key, ?_⟩
  · -- the fresh file shows that the directory can be followed
    obtain ⟨hfresh, hcreate⟩ := Disk.createFresh_eq_ok hcreated
    obtain ⟨n, hn⟩ := Disk.exists_freshPath
      ((Disk.makeDirectories (Path.directory (s.pathFor key))).left fs)
      (Path.directory (s.pathFor key)) recordStem
    have hreach := (Disk.create_eq_ok hcreate).1
    rw [hfresh, hn, Disk.below, directory_pathFor,
      if_neg (by simp [endsInSlash_unitsDir])] at hreach
    rw [← hpaves.workDir, directory_pathFor]
    exact reach_pathFor (isName_append_decimal (by decide) n) hreach h.path h.name
  · rw [placeOf_pathFor]
    rcases hpaves.places (s.placeFor fs.workDir key) with heq | ⟨-, -, hfront⟩
    · rw [heq]
      exact h.free
    · rw [placeFor_eq_directory] at hfront
      exact absurd hfront.length_le (by simp)

/-- What comes of putting a record and looking for it. If it was put, it is found under its key, and
what is found under any other key of that length is what it was; and it is put if nothing stands in
its way. What stands in its file is read as the record whatever is added behind, and nothing can be
read from a proper front of it. -/
theorem get_put (hfs : fs.WellFormed) (s : CacheStore) (key : CacheKey) (hr : r.Fits) :
    (∀ m fs', (s.put m key r).run fs = .ok () fs' →
      s.get key fs' = .record r ∧
        ∀ key' : CacheKey, key'.length = key.length → key' ≠ key → s.get key' fs' = s.get key' fs) ∧
    (s.CanPut key fs → ∃ fs', (s.put .sound key r).run fs = .ok () fs') ∧
    (∀ more, CacheRecord.decode? (r.encode ++ more) = some r) ∧
    ∀ n < r.encode.length, CacheRecord.decode? (r.encode.take n) = none :=
  ⟨fun _ _ => get_of_put hfs hr,
    fun h => Disk.exists_replace_eq_ok hfs (by decide) (h.canReplace hfs),
    CacheRecord.decode?_encode_append hr, fun _ => CacheRecord.decode?_take_encode hr⟩

/-- A record with a negative count. -/
def sampleRecord : CacheRecord :=
  { schema := CacheRecord.currentSchema, path := utf8 "/a.ez", lines := [utf8 "\tt0 = 1"],
    declarations := -1 }

/-- A store without a directory yet. -/
def sampleStore : CacheStore :=
  ⟨utf8 "/cache"⟩

/-- The key whose bytes are all the same. -/
def sampleKey (b : UInt8) : CacheKey :=
  List.replicate 32 b

theorem canPut_sample : sampleStore.CanPut (sampleKey 0) {} where
  name := by decide
  path := by decide +kernel
  makes := by decide +kernel
  creates := by decide +kernel
  free := by decide +kernel

theorem fits_sampleRecord : sampleRecord.Fits :=
  ⟨by decide, by decide, by decide, by decide⟩

/-- A record that was put into an empty store is found there, and no other key finds any. -/
theorem get_put_sample : ({} : FileSystem).WellFormed ∧ sampleRecord.Fits ∧
    ∃ fs', (sampleStore.put .sound (sampleKey 0) sampleRecord).run {} = .ok () fs' ∧
      sampleStore.get (sampleKey 0) fs' = .record sampleRecord ∧
      sampleStore.get (sampleKey 1) fs' = .missing ∧
      CacheRecord.decode? (sampleRecord.encode ++ utf8 "more") = some sampleRecord ∧
      CacheRecord.decode? (sampleRecord.encode.take 100) = none := by
  obtain ⟨hfound, hput, hmore, hfront⟩ :=
    get_put FileSystem.wellFormed_empty sampleStore (sampleKey 0) fits_sampleRecord
  obtain ⟨fs', hrun⟩ := hput canPut_sample
  obtain ⟨hget, hothers⟩ := hfound .sound fs' hrun
  refine ⟨FileSystem.wellFormed_empty, fits_sampleRecord, fs', hrun, hget, ?_, hmore _,
    hfront 100 (by decide +kernel)⟩
  rw [hothers (sampleKey 1) rfl (by decide)]
  decide +kernel

/-! ### As a whole or not at all -/

theorem allOrNothing_replaceLines (hfs : fs.WellFormed) (m : Medium) (target : Bytes)
    (lines : List Bytes) :
    Disk.AllOrNothing (Disk.replaceLines m target lines) target (Sink.unlines lines) fs := by
  rw [Sink.unlines, List.flatMap_def]
  exact Disk.allOrNothing_replace hfs (by decide)

open Disk in
/-- Code and records are written as a whole or not at all, at whatever steps the medium fails: if
writing succeeds the target holds all that was to be written, and if it fails nothing has changed,
apart from directories made on the way. Where the first write that the medium fails is that of a
line of code, the failure says so. -/
theorem allOrNothing_outputs (hfs : fs.WellFormed) (m : Medium) :
    (∀ target lines, AllOrNothing (replaceLines m target lines) target (Sink.unlines lines) fs) ∧
    (∀ target lines made fresh fs' k c, m .makeDirectory = none →
      (makeDirectories (Path.directory target)).run fs = .ok () made → m .createFresh = none →
      (createFresh (Path.directory target) codeStem).run made = .ok fresh fs' →
      k < lines.length → m (.write k) = some c → (∀ j < k, m (.write j) = none) →
      ∃ fs'', (replaceLines m target lines).run fs =
        .error (.emitting target ⟨(FileError.single .write fresh c).message⟩) fs'') ∧
    ∀ (s : CacheStore) key r, AllOrNothing (s.put m key r) (s.pathFor key) r.encode fs ∧
      IsName (Path.splitLast (s.pathFor key)).2 := by
  refine ⟨allOrNothing_replaceLines hfs m, ?_, fun s key r => ⟨allOrNothing_put hfs s m key r, ?_⟩⟩
  · intro target lines made fresh fs' k c hmake hmade hcreate hcreated hk hfail hfirst
    exact replace_eq_error_of_write hmake hmade hcreate hcreated (by simpa using hk) hfail hfirst
  · rw [splitLast_pathFor]
    exact isName_recordName key

/-- A target that ends with a slash names no file: replacing it fails, but by then its directory has
been made. -/
theorem standing_of_slash : ¬ ∀ (m : Medium) target lines (fs : FileSystem), fs.WellFormed →
    ∀ e fs', (Disk.replaceLines m target lines).run fs = .error e fs' →
      fs'.standing target = fs.standing target := by
  intro hall
  have hfails : (Disk.replaceLines .sound (utf8 "out/") [utf8 "x"]).succeeds {} = false := by
    decide +kernel
  obtain ⟨e, hrun⟩ := Disk.run_of_fails hfails
  have hsame := hall _ _ _ _ FileSystem.wellFormed_empty e _ hrun
  revert hsame
  decide +kernel

/-- A medium without room for a second write. -/
def fullMedium : Medium
  | .write 1 => some (.medium (utf8 "no space left on device"))
  | _ => none

/-- A file system with code from before. -/
def oldCode : FileSystem :=
  (Disk.replaceLines .sound (utf8 "/out/a.tac") [utf8 "old"]).left {}

theorem wellFormed_oldCode : oldCode.WellFormed :=
  (Disk.changes_replace FileSystem.wellFormed_empty (by decide)).wellFormed

/-- Code whose second line cannot be written leaves the code from before. -/
theorem allOrNothing_outputs_full : oldCode.WellFormed ∧ ∃ fs',
    (Disk.replaceLines fullMedium (utf8 "/out/a.tac") [utf8 "new", utf8 "code"]).run oldCode =
      .error (.emitting (utf8 "/out/a.tac")
        ⟨(FileError.single .write (utf8 "/out/.tac-0")
          (.medium (utf8 "no space left on device"))).message⟩) fs' ∧
    fs'.standing (utf8 "/out/a.tac") = some (.file (utf8 "old\n")) := by
  obtain ⟨hlines, hwrite, -⟩ := allOrNothing_outputs wellFormed_oldCode fullMedium
  have hmakes :
      (Disk.makeDirectories (Path.directory (utf8 "/out/a.tac"))).succeeds oldCode = true := by
    decide +kernel
  obtain ⟨_, hmade⟩ := Disk.run_of_succeeds hmakes
  have hcreates : (Disk.createFresh (Path.directory (utf8 "/out/a.tac")) Disk.codeStem).succeeds
      ((Disk.makeDirectories (Path.directory (utf8 "/out/a.tac"))).left oldCode) = true := by
    decide +kernel
  obtain ⟨fresh, hcreated⟩ := Disk.run_of_succeeds hcreates
  obtain rfl : fresh = utf8 "/out/.tac-0" := by
    rw [(Disk.createFresh_eq_ok hcreated).1]
    decide +kernel
  obtain ⟨fs', hrun⟩ := hwrite (utf8 "/out/a.tac") [utf8 "new", utf8 "code"] _ _ _ 1 _ rfl hmade rfl
    hcreated (by decide) rfl (by decide)
  refine ⟨wellFormed_oldCode, fs', hrun, ?_⟩
  rw [((hlines _ _).nothing _ _ hrun).2 ⟨by decide, by decide, by decide, by decide⟩]
  decide +kernel

end CacheStore

end ThreeAddress
