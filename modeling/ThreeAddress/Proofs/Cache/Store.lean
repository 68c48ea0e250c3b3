import ThreeAddress.Cache.Store
import ThreeAddress.Proofs.Files.Effects
import ThreeAddress.Proofs.Text.Decimal

/-!
# Records in a store

Every key has a place of its own below the directory of a store. Putting a record touches the place
of its key alone, and only if it succeeds; forgetting all records adds none, under whatever name the
old directory is moved aside.

## Main definitions

* `CacheStore.placeFor` : the place of the record of a key.
* `CacheStore.Holds` : a place of a record.

## Main results

* `CacheStore.placeOf_pathFor`, `CacheStore.placeFor_injective` : places of records.
* `CacheStore.put_spec` : what putting a record does.
* `CacheStore.spares_dropAll` : what forgetting all records does.
-/

namespace ThreeAddress

open ThreeAddress.Path (slash IsName)
open FileSystem (placeOf names follow origin)

/-! ### Hexadecimal names -/

theorem hexDigit_mod (n : Nat) : hexDigit n = hexDigit (n % 16) := by
  rw [hexDigit, hexDigit, Nat.mod_mod]

theorem hexDigit_cases : ∀ n < 16, (48 ≤ (hexDigit n).toNat ∧ (hexDigit n).toNat ≤ 57) ∨
    (97 ≤ (hexDigit n).toNat ∧ (hexDigit n).toNat ≤ 102) := by
  decide

theorem hexDigit_injOn : ∀ m < 16, ∀ n < 16, hexDigit m = hexDigit n → m = n := by
  decide

theorem hexPadded_two (n : Nat) : hexPadded 2 n = [hexDigit (n / 16), hexDigit n] := by
  simp [hexPadded, List.range_succ, Nat.shiftRight_eq_div_pow]

/-- Two hexadecimal digits tell a byte. -/
theorem hexPadded_two_injective {x y : UInt8} (h : hexPadded 2 x.toNat = hexPadded 2 y.toNat) :
    x = y := by
  simp only [hexPadded_two, List.cons.injEq, and_true] at h
  obtain ⟨hhigh, hlow⟩ := h
  rw [hexDigit_mod, hexDigit_mod (y.toNat / 16)] at hhigh
  rw [hexDigit_mod, hexDigit_mod y.toNat] at hlow
  have h₁ := hexDigit_injOn _ (Nat.mod_lt _ (by decide)) _ (Nat.mod_lt _ (by decide)) hhigh
  have h₂ := hexDigit_injOn _ (Nat.mod_lt _ (by decide)) _ (Nat.mod_lt _ (by decide)) hlow
  have hx := x.toNat_lt
  have hy := y.toNat_lt
  exact UInt8.toNat_inj.mp (by omega)

theorem hex_injective {a b : Bytes} (h : hex a = hex b) : a = b := by
  induction a generalizing b with
  | nil =>
    cases b with
    | nil => rfl
    | cons y b => simp [hex, hexPadded_two] at h
  | cons x a ih =>
    cases b with
    | nil => simp [hex, hexPadded_two] at h
    | cons y b =>
      have hlength : (hexPadded 2 x.toNat).length = (hexPadded 2 y.toNat).length := by
        rw [hexPadded_two, hexPadded_two]
        rfl
      obtain ⟨hx, hrest⟩ := List.append_inj (show hexPadded 2 x.toNat ++ hex a =
        hexPadded 2 y.toNat ++ hex b from h) hlength
      rw [hexPadded_two_injective hx, ih hrest]

theorem mem_hex {x : UInt8} {b : Bytes} (h : x ∈ hex b) :
    (48 ≤ x.toNat ∧ x.toNat ≤ 57) ∨ (97 ≤ x.toNat ∧ x.toNat ≤ 102) := by
  obtain ⟨y, -, hx⟩ := List.mem_flatMap.mp h
  rw [hexPadded_two, List.mem_cons, List.mem_singleton] at hx
  rcases hx with rfl | rfl
  · rw [hexDigit_mod]
    exact hexDigit_cases _ (Nat.mod_lt _ (by decide))
  · rw [hexDigit_mod]
    exact hexDigit_cases _ (Nat.mod_lt _ (by decide))

namespace CacheStore

variable {s : CacheStore} {workDir : Place} {key : CacheKey} {fs : FileSystem}

/-! ### Places -/

/-- The name of the file of a record. -/
def recordName (key : CacheKey) : Bytes :=
  hex key ++ utf8 ".mp"

/-- The name of the directory that records stand in. -/
def unitsName : Bytes :=
  utf8 "units"

/-- A byte of the name of a record is a digit, a letter up to `f`, or one of the ending. -/
theorem mem_recordName {x : UInt8} (h : x ∈ recordName key) :
    (48 ≤ x.toNat ∧ x.toNat ≤ 57) ∨ (97 ≤ x.toNat ∧ x.toNat ≤ 102) ∨
      x.toNat = 46 ∨ x.toNat = 109 ∨ x.toNat = 112 := by
  rw [recordName, List.mem_append] at h
  rcases h with h | h
  · rcases mem_hex h with h | h
    · exact .inl h
    · exact .inr (.inl h)
  · have hend : utf8 ".mp" = [46, 109, 112] := by decide
    rw [hend] at h
    simp only [List.mem_cons, List.not_mem_nil, or_false] at h
    rcases h with rfl | rfl | rfl <;> decide

theorem getLast?_recordName (key : CacheKey) : (recordName key).getLast? = some 112 := by
  have hend : utf8 ".mp" = [46, 109] ++ [112] := by decide
  rw [recordName, hend, ← List.append_assoc]
  exact List.getLast?_concat

theorem isName_recordName (key : CacheKey) : IsName (recordName key) := by
  have hlast := getLast?_recordName key
  refine ⟨fun h => ?_, fun h => ?_, fun h => ?_, fun h => ?_⟩
  · rw [h] at hlast
    cases hlast
  · have hslash : slash.toNat = 47 := by decide
    have := mem_recordName h
    omega
  · rw [h] at hlast
    revert hlast
    decide
  · rw [h] at hlast
    revert hlast
    decide

theorem isName_unitsName : IsName unitsName :=
  ⟨by decide, by decide, by decide, by decide⟩

theorem recordName_injective {key key' : CacheKey} (h : recordName key = recordName key') :
    key = key' :=
  hex_injective (List.append_cancel_right h)

/-- The place of the record of a key. -/
def placeFor (s : CacheStore) (workDir : Place) (key : CacheKey) : Place :=
  placeOf workDir s.dir ++ [unitsName, recordName key]

/-- The directory of the records of a store, uncleaned. -/
def unitsPath (s : CacheStore) : Bytes :=
  if s.dir = [] then unitsName else s.dir ++ slash :: unitsName

theorem unitsPath_ne_nil : s.unitsPath ≠ [] := by
  unfold unitsPath
  split
  · decide
  · simp

theorem placeOf_unitsPath : placeOf workDir s.unitsPath = placeOf workDir s.dir ++ [unitsName] := by
  unfold unitsPath
  split
  · rename_i hdir
    rw [hdir]
    exact FileSystem.placeOf_append_of_isName workDir (.inl rfl) isName_unitsName
  · rename_i hdir
    rw [List.append_cons, FileSystem.placeOf_append_of_isName workDir (.inr ⟨_, rfl⟩)
      isName_unitsName, FileSystem.placeOf_append_slash workDir hdir]

theorem pathFor_eq : s.pathFor key = Path.clean (s.unitsPath ++ slash :: recordName key) := by
  unfold pathFor unitsPath
  by_cases hdir : s.dir = []
  · simp [Path.join, hdir, Bytes.joinWith, unitsName, recordName, utf8]
  · simp [Path.join, hdir, Bytes.joinWith, unitsName, recordName]

/-- The file of a record stands at the place of its key. -/
theorem placeOf_pathFor (s : CacheStore) (workDir : Place) (key : CacheKey) :
    placeOf workDir (s.pathFor key) = s.placeFor workDir key := by
  rw [pathFor_eq, FileSystem.placeOf_clean, List.append_cons,
    FileSystem.placeOf_append_of_isName workDir (.inr ⟨_, rfl⟩) (isName_recordName key),
    FileSystem.placeOf_append_slash workDir unitsPath_ne_nil, placeOf_unitsPath, placeFor,
    List.append_assoc]
  rfl

/-- Different keys have different places. -/
theorem placeFor_injective {key key' : CacheKey}
    (h : s.placeFor workDir key = s.placeFor workDir key') : key = key' := by
  have hnames := List.append_cancel_left h
  simp only [List.cons.injEq, true_and, and_true] at hnames
  exact recordName_injective hnames

/-- A place where a record may stand. -/
def Holds (s : CacheStore) (workDir : Place) (p : Place) : Prop :=
  ∃ key, p = s.placeFor workDir key

/-- A record is found if the file of its key can be read as one. -/
theorem get_eq_record {r : CacheRecord} : s.get key fs = .record r ↔
    ∃ b, fs.read (s.pathFor key) = .ok b ∧ CacheRecord.decode? b = some r := by
  unfold get
  cases fs.read (s.pathFor key) with
  | error e =>
    dsimp only
    split <;> simp
  | ok b => cases hdecode : CacheRecord.decode? b <;> simp [hdecode]

/-! ### Putting a record -/

theorem placeFor_eq (s : CacheStore) (workDir : Place) (key : CacheKey) :
    s.placeFor workDir key = (placeOf workDir s.dir ++ [unitsName]) ++ [recordName key] :=
  List.append_cons _ _ _

theorem not_isNumbered_placeFor (s : CacheStore) (workDir : Place) (key : CacheKey) :
    ¬ IsNumbered (s.placeFor workDir key) := by
  rw [placeFor_eq]
  exact not_isNumbered (getLast?_recordName key) (by decide) _

/-- A fresh file does not stand where a record may stand. -/
theorem not_holds_fresh (s : CacheStore) (workDir : Place) (key : CacheKey) (n : Nat) :
    ¬ s.Holds workDir (placeOf workDir
      (Disk.below (Path.directory (s.pathFor key)) (recordStem ++ decimal n))) := by
  rintro ⟨key', h⟩
  refine s.not_isNumbered_placeFor workDir key' ?_
  rw [← h]
  exact isNumbered_below workDir (Path.clean_ne_nil _) (by decide) n

theorem eq_of_holds {p : Place} (hp : s.Holds workDir p) (h : s.placeFor workDir key <+: p) :
    p = s.placeFor workDir key := by
  obtain ⟨key', rfl⟩ := hp
  exact (h.eq_of_length (by simp [placeFor])).symm

theorem put_spec (s : CacheStore) (m : Medium) (key : CacheKey) (r : CacheRecord)
    (fs : FileSystem) :
    (∀ e fs', (s.put m key r).run fs = .error e fs' → fs.Spares (s.Holds fs.workDir) fs') ∧
    ∀ fs', (s.put m key r).run fs = .ok () fs' →
      fs.Spares (fun p => s.Holds fs.workDir p ∧ p ≠ s.placeFor fs.workDir key) fs' ∧
        fs'.tree.get? (s.placeFor fs.workDir key) = some (.file r.encode) := by
  have hplace := placeOf_pathFor s fs.workDir key
  have hroot : s.placeFor fs.workDir key ≠ [] := by simp [placeFor]
  have htarget : s.Holds fs.workDir (s.placeFor fs.workDir key) := ⟨key, rfl⟩
  have hflat : [r.encode].flatten = r.encode := by simp
  rw [← hplace] at hroot htarget
  have hbelow (p : Place) (hp : s.Holds fs.workDir p)
      (h : placeOf fs.workDir (s.pathFor key) <+: p) :
      p = placeOf fs.workDir (s.pathFor key) := by
    rw [hplace] at h ⊢
    exact eq_of_holds hp h
  have hspec := @Disk.replace_spec _ fs m _ [r.encode] recordStem
    (fun fresh => .single .write fresh) hroot htarget hbelow (not_holds_fresh s fs.workDir key)
  rwa [hplace, hflat] at hspec

/-! ### Forgetting all records -/

/-- The ending of the name under which a directory is moved aside. -/
def oldEnding (stamp : Bytes) : Bytes :=
  utf8 ".old-" ++ stamp

theorem hyphen_mem_oldEnding (stamp : Bytes) : (45 : UInt8) ∈ oldEnding stamp := by
  have h : utf8 ".old-" = [46, 111, 108, 100, 45] := by decide
  simp [oldEnding, h]

theorem isName_old {name stamp : Bytes} (hname : slash ∉ name) (hstamp : slash ∉ stamp) :
    IsName (name ++ oldEnding stamp) := by
  have hhyphen : (45 : UInt8) ∈ name ++ oldEnding stamp :=
    List.mem_append_right _ (hyphen_mem_oldEnding stamp)
  refine ⟨List.ne_nil_of_mem hhyphen, ?_, fun h => ?_, fun h => ?_⟩
  · have hending : slash ∉ utf8 ".old-" := by decide
    simp [oldEnding, hname, hstamp, hending]
  · rw [h] at hhyphen
    revert hhyphen
    decide
  · rw [h] at hhyphen
    revert hhyphen
    decide

theorem not_isPrefix_stay {base : Place} {old inner record : Bytes} (hinner : old ≠ inner) :
    ¬ base ++ [old] <+: base ++ [inner, record] := by
  rw [List.prefix_append_right_inj, List.cons_prefix_cons]
  exact fun h => hinner h.1

/-- A name beside another one does not lead above anything two names below that one. -/
theorem not_isPrefix_follow (base : Place) {name old inner record : Bytes} (hname : old ≠ name)
    (hinner : old ≠ inner) (hrecord : old ≠ record) :
    ¬ base ++ [old] <+: follow base name ++ [inner, record] := by
  unfold follow
  split
  · exact not_isPrefix_stay hinner
  · split
    · rcases List.eq_nil_or_concat base with rfl | ⟨above, last, rfl⟩
      · exact not_isPrefix_stay hinner
      · rw [List.concat_eq_append, List.dropLast_concat, List.append_assoc,
          List.prefix_append_right_inj, List.singleton_append, List.cons_prefix_cons,
          List.cons_prefix_cons]
        exact fun h => hrecord h.2.1
    · rw [List.append_assoc, List.prefix_append_right_inj, List.singleton_append,
        List.cons_prefix_cons]
      exact fun h => hname h.1

/-- The name under which the directory of a store is moved aside does not lead above a record. -/
theorem not_isPrefix_old {stamp : Bytes} (hstamp : slash ∉ stamp) {p : Place}
    (hp : s.Holds workDir p) : ¬ placeOf workDir (s.dir ++ oldEnding stamp) <+: p := by
  obtain ⟨key, rfl⟩ := hp
  obtain ⟨front, name, hdir, hfront, hname⟩ := FileSystem.exists_front s.dir
  have hold : placeOf workDir (s.dir ++ oldEnding stamp) =
      placeOf workDir front ++ [name ++ oldEnding stamp] := by
    rw [hdir, List.append_assoc]
    exact FileSystem.placeOf_append_of_isName workDir hfront (isName_old hname hstamp)
  have hplace : placeOf workDir s.dir = (names name).foldl follow (placeOf workDir front) := by
    rw [hdir]
    exact FileSystem.placeOf_append workDir hfront hname
  have hhyphen := List.mem_append_right name (hyphen_mem_oldEnding stamp)
  have hself : name ++ oldEnding stamp ≠ name := fun h =>
    List.ne_nil_of_mem (hyphen_mem_oldEnding stamp) (List.append_right_eq_self.mp h)
  have hunits : name ++ oldEnding stamp ≠ unitsName := fun h => by
    rw [h] at hhyphen
    revert hhyphen
    decide
  have hrecord : name ++ oldEnding stamp ≠ recordName key := fun h => by
    rw [h] at hhyphen
    have hbyte : (45 : UInt8).toNat = 45 := by decide
    have := mem_recordName hhyphen
    omega
  rw [hold, placeFor, hplace, names, Bytes.splitOn_of_notMem hname]
  by_cases hnil : name = []
  · rw [hnil] at hunits ⊢
    exact not_isPrefix_stay hunits
  · have hone : [name].filter (fun n => n != []) = [name] := by simp [hnil]
    rw [hone]
    exact not_isPrefix_follow _ hself hunits hrecord

/-- Forgetting all records adds none, whether it succeeds or fails half way. -/
theorem spares_dropAll (s : CacheStore) {stamp : Bytes} (hstamp : slash ∉ stamp)
    (fs : FileSystem) : Disk.SparesAt (s.Holds fs.workDir) (s.dropAll stamp) fs := by
  unfold dropAll
  have hmove : Disk.SparesAt (s.Holds fs.workDir)
      (Disk.rename s.dir (s.dir ++ utf8 ".old-" ++ stamp)) fs := by
    refine Disk.spares_rename fun p hp => ?_
    rw [List.append_assoc]
    exact not_isPrefix_old hstamp hp
  refine .bind (.ofCatch (.bind hmove fun _ _ _ => .ofPure _) fun e _ _ => ?_) fun moved _ _ => ?_
  · split
    · exact .ofPure _
    · exact .ofThrow _
  · split
    · exact .bind (Disk.spares_makeDirectories _) fun _ _ _ => Disk.spares_removeAll _
    · exact .ofPure _

end CacheStore

end ThreeAddress
