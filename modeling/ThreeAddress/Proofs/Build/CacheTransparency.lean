import Mathlib.Data.Set.Function
import ThreeAddress.Proofs.Analysis.Limits
import ThreeAddress.Proofs.Build.Failure
import ThreeAddress.Proofs.Cache.Record
import ThreeAddress.Proofs.Cache.Store

/-!
# Units from a store

A unit that is taken from a store is the one that compiling its file would yield. What a store may
hold is an invariant of everything that happens to its file system: every record in it was made of
one of the files that were compiled, and stands under the key of that file. A key determines the
content and the path of its file, and a record is used only if nothing was told about its file, so
that the number of wanted diagnostics does not matter either.

## Main definitions

* `recordOf` : the record that is made of a file.
* `History` : what happens to the file system of a store.
* `Sound` : the invariant of the records in a store.

## Main results

* `History.sound` : the invariant holds throughout a history.
* `compile_transparent` : compiling with and without the store is the same.
-/

namespace ThreeAddress

/-! ### Keys -/

theorem length_bigEndian (n value : Nat) : (Sha256.bigEndian n value).length = n := by
  simp [Sha256.bigEndian]

theorem Sha256.length_digest (m : Bytes) : (Sha256.digest m).length = 32 := by
  simp [Sha256.digest, length_bigEndian]

/-- The bytes that the key of a file is the digest of. -/
def keyText (f : SourceFile) : Bytes :=
  f.hash ++ (f.path ++ MessagePack.bigEndian 2 CacheRecord.currentSchema.toNat)

theorem keyText_inj {f g : SourceFile} (hlength : f.hash.length = g.hash.length)
    (h : keyText f = keyText g) : f.hash = g.hash ∧ f.path = g.path := by
  obtain ⟨hhash, hrest⟩ := List.append_inj h hlength
  exact ⟨hhash, List.append_cancel_right hrest⟩

theorem CacheKey.ofFile_eq (f : SourceFile) : CacheKey.ofFile f = Sha256.digest (keyText f) := by
  simp [CacheKey.ofFile, combine, keyText]

/-- The bytes that are hashed for files. -/
def digested (fs : List SourceFile) : Set Bytes :=
  { m | ∃ f ∈ fs, m = f.content ∨ m = keyText f }

/-- A file that was loaded on its own. -/
def SourceFile.Single (f : SourceFile) : Prop :=
  f.id = 0 ∧ f.hash = Sha256.digest f.content

/-- A key determines what its file is compiled to. -/
theorem CacheKey.ofFile_injective {f g : SourceFile} {fs : List SourceFile} (hf : f.Single)
    (hg : g.Single) (hff : f ∈ fs) (hgf : g ∈ fs)
    (hinjective : Set.InjOn Sha256.digest (digested fs))
    (h : CacheKey.ofFile f = CacheKey.ofFile g) :
    f.path = g.path ∧ f.hash = g.hash ∧ f.lexemes = g.lexemes := by
  rw [CacheKey.ofFile_eq, CacheKey.ofFile_eq] at h
  have htext : keyText f = keyText g := hinjective ⟨f, hff, .inr rfl⟩ ⟨g, hgf, .inr rfl⟩ h
  have hlength : f.hash.length = g.hash.length := by
    rw [hf.2, hg.2, Sha256.length_digest, Sha256.length_digest]
  obtain ⟨hhash, hpath⟩ := keyText_inj hlength htext
  have hcontent : f.content = g.content := by
    rw [hf.2, hg.2] at hhash
    exact hinjective ⟨f, hff, .inl rfl⟩ ⟨g, hgf, .inl rfl⟩ hhash
  refine ⟨hpath, hhash, ?_⟩
  rw [SourceFile.lexemes, SourceFile.lexemes, hf.1, hg.1, hcontent]

namespace Build

open FileSystem (placeOf)

variable {o : CompileOptions} {s : CacheStore} {f g : SourceFile} {fs fs' : FileSystem}
  {used : List SourceFile}

/-! ### Records -/

/-- The unit that a file is compiled to. -/
def unitOf (o : CompileOptions) (f : SourceFile) : CompiledUnit :=
  .ofOutcome o f (Analysis.run o.limits {} f.lexemes)

/-- The record that is made of a file. -/
def recordOf (o : CompileOptions) (f : SourceFile) : CacheRecord :=
  (unitOf o f).toRecord f

theorem recordOf_congr (o : CompileOptions) (hpath : f.path = g.path) (hhash : f.hash = g.hash)
    (hlexemes : f.lexemes = g.lexemes) : recordOf o f = recordOf o g := by
  unfold recordOf unitOf
  rw [hlexemes]
  unfold CompiledUnit.toRecord CompiledUnit.ofOutcome
  rw [hpath, hhash]

/-- Nothing was reported about a file with a record that may be used. -/
theorem reports_of_not_broken (h : (recordOf o f).broken = false) :
    (Analysis.run o.limits {} f.lexemes).reports = [] := by
  have hsize : ¬ 0 < (unitOf o f).bag.size := of_decide_eq_false h
  rw [unitOf, CompiledUnit.ofOutcome, Bag.size_sort] at hsize
  exact Outcome.reports_of_size_deliver (Nat.eq_zero_of_not_pos hsize)

/-- What a unit is apart from how it came about. -/
def CompiledUnit.essence (u : CompiledUnit) : CompiledUnit :=
  { u with timer := none, cached := false }

theorem bag_unitOf (h : (Analysis.run o.limits {} f.lexemes).reports = []) :
    (unitOf o f).bag = Bag.new o.maxDiagnostics := by
  rw [unitOf, CompiledUnit.ofOutcome, Outcome.deliver, h]
  exact Bag.sort_new o.maxDiagnostics

/-- The record of a file about which nothing is reported does not depend on the options. -/
theorem recordOf_of_silent (h : (Analysis.run o.limits {} f.lexemes).reports = [])
    (o' : CompileOptions) : recordOf o' f = recordOf o f := by
  have hsame := Analysis.run_of_silent o'.limits rfl rfl h
  have hsize (n : Int) : (Bag.new n).size = 0 := rfl
  have hbag := bag_unitOf h
  have hbag' := bag_unitOf (hsame ▸ h)
  rw [recordOf, recordOf, CompiledUnit.toRecord, CompiledUnit.toRecord, hbag, hbag', hsize, hsize]
  unfold unitOf CompiledUnit.ofOutcome
  rw [hsame]

/-- The unit of a usable record is the one that its file is compiled to, however the record was
made. -/
theorem essence_ofRecord {o' : CompileOptions} (h : (recordOf o' f).broken = false) :
    (CompiledUnit.ofRecord o f (recordOf o' f)).essence = (unitOf o f).essence ∧
      (Analysis.run o.limits {} f.lexemes).reports = [] := by
  have hsilent := reports_of_not_broken h
  have hsilent' : (Analysis.run o.limits {} f.lexemes).reports = [] :=
    Analysis.run_of_silent o.limits rfl rfl hsilent ▸ hsilent
  refine ⟨?_, hsilent'⟩
  rw [recordOf_of_silent hsilent', CompiledUnit.essence, CompiledUnit.essence, bag_unitOf hsilent']
  rfl

/-! ### What compiling does to the files -/

theorem Work.run_bind {α β : Type} {act : Work α} {next : α → Work β} {w w' : Workspace} {a : α}
    (h : act.run w = (a, w')) : (act >>= next).run w = (next a).run w' := by
  rw [StateT.run_bind, h]
  rfl

/-- What compiling a file yields, and the files that it leaves. -/
theorem run_compileFile (o : CompileOptions) (f : SourceFile) (parent : UInt64) (w : Workspace) :
    (∃ r, lookup? o f w.files = some r ∧
      ((compileFile o f parent).run w).1 = .ok (.ofRecord o f r) ∧
      ((compileFile o f parent).run w).2.files = w.files) ∨
    lookup? o f w.files = none ∧
      ((compileFile o f parent).run w).1 = .ok (unitOf o f) ∧
      ((compileFile o f parent).run w).2.files = o.stored f (recordOf o f) w.files := by
  obtain ⟨span, w', hbegun⟩ : ∃ span w', (beginUnit f parent).run w = (span, w') := ⟨_, _, rfl⟩
  have hfiles : w'.files = w.files := by
    have hleft := files_beginUnit f parent w
    rwa [hbegun] at hleft
  cases hlookup : lookup? o f w.files with
  | some r =>
    have hfetched := run_fetchUnit_some (hfiles ▸ hlookup) span
    have hrun : (compileFile o f parent).run w =
        (.ok (.ofRecord o f r), ((Work.finish span (utf8 "cache hit")).run w').2) := by
      rw [compileFile, Work.run_bind hbegun, Work.run_bind hfetched]
      rfl
    rw [hrun]
    exact .inl ⟨r, rfl, rfl, hfiles⟩
  | none =>
    have hfetched := run_fetchUnit_none (hfiles ▸ hlookup) span
    obtain ⟨made, w'', hmade⟩ : ∃ made w'', (makeUnit o f span).run w' = (made, w'') :=
      ⟨_, _, rfl⟩
    have hunit : made = .ok (unitOf o f) := by
      have hfst := (fst_makeUnit o f span w').trans (compileSource_eq o f)
      rwa [hmade] at hfst
    have hleft : w''.files = w.files := by
      have hleft := files_makeUnit o f span w'
      rw [hmade] at hleft
      exact hleft.trans hfiles
    have hrun : (compileFile o f parent).run w =
        (.ok (unitOf o f), ((keepUnit o f span (unitOf o f)).run w'').2) := by
      rw [compileFile, Work.run_bind hbegun, Work.run_bind hfetched]
      dsimp only
      rw [Work.run_bind hmade, hunit]
      rfl
    rw [hrun]
    exact .inr ⟨rfl, rfl, hleft ▸ files_keepUnit o f span (unitOf o f) w''⟩

/-- The file that is loaded from a path, if there is one. -/
def loaded (fs : FileSystem) (path : Bytes) : List SourceFile :=
  match SourceFile.load fs path with
  | .ok f => [f]
  | .error _ => []

/-- A file that is loaded has the content that stands at the place of its path. -/
theorem exists_of_load {path : Bytes} (h : SourceFile.load fs path = .ok f) :
    ∃ content, fs.tree.get? (placeOf fs.workDir path) = some (.file content) ∧
      f = .ofContent 0 path (normalize content).1 (normalize content).2 := by
  unfold SourceFile.load at h
  cases hread : fs.read path with
  | error e =>
    rw [hread] at h
    cases h
  | ok content =>
    rw [hread] at h
    cases h
    exact ⟨content, FileSystem.get?_of_read hread, rfl⟩

theorem single_of_load {path : Bytes} (h : SourceFile.load fs path = .ok f) : f.Single := by
  obtain ⟨content, -, rfl⟩ := exists_of_load h
  exact ⟨rfl, rfl⟩

theorem load_of_mem_loaded {path : Bytes} (h : f ∈ loaded fs path) :
    SourceFile.load fs path = .ok f := by
  unfold loaded at h
  split at h
  · rename_i g hload
    rw [List.mem_singleton.mp h, hload]
  · cases h

/-! ### Histories -/

/-- What happens to the file system of a store, with the files that were compiled. -/
inductive History (s : CacheStore) : List SourceFile → FileSystem → Prop where
  /-- The store is empty. -/
  | empty {fs : FileSystem} (h : ∀ key content,
      fs.tree.get? (s.placeFor fs.workDir key) ≠ some (.file content)) : History s [] fs
  /-- A path is compiled, with this store or with none, whatever the medium of the store does. -/
  | compiled {used : List SourceFile} {fs : FileSystem} (h : History s used fs)
      (o : CompileOptions) (hstore : ∀ t, o.store = some t → t = s) (path : Bytes)
      (trace : Trace.Session) :
      History s (loaded fs path ++ used) ((compile o path).run ⟨fs, trace⟩).2.files
  /-- All records are forgotten, or as far as it goes. -/
  | dropped {used : List SourceFile} {fs : FileSystem} (h : History s used fs) {stamp : Bytes}
      (hstamp : Path.slash ∉ stamp) : History s used ((s.dropAll stamp).left fs)
  /-- A record cannot be put. -/
  | failed {used : List SourceFile} {fs fs' : FileSystem} (h : History s used fs) {m : Medium}
      {key : CacheKey} {r : CacheRecord} {e : FileError}
      (hput : (s.put m key r).run fs = .error e fs') : History s used fs'
  /-- Files are written, moved or taken away, but no record is added or changed. -/
  | rewritten {used : List SourceFile} {fs fs' : FileSystem} (h : History s used fs)
      (hspares : fs.Spares (s.Holds fs.workDir) fs') : History s used fs'

/-- Every record was made of one of the files, and stands under its key. -/
def Sound (s : CacheStore) (used : List SourceFile) (fs : FileSystem) : Prop :=
  ∀ key content, fs.tree.get? (s.placeFor fs.workDir key) = some (.file content) →
    ∃ f ∈ used, ∃ o, key = CacheKey.ofFile f ∧ content = (recordOf o f).encode

namespace Sound

theorem mono (h : Sound s used fs) {more : List SourceFile} (hmore : used ⊆ more) :
    Sound s more fs := by
  intro key content hfile
  obtain ⟨f, hf, hrecord⟩ := h key content hfile
  exact ⟨f, hmore hf, hrecord⟩

theorem spares (h : Sound s used fs) (hspares : fs.Spares (s.Holds fs.workDir) fs') :
    Sound s used fs' := by
  intro key content hfile
  rw [hspares.workDir] at hfile
  exact h key content (hspares.files _ ⟨key, rfl⟩ content hfile)

/-- A record is stored under the key of the file that it was made of. -/
theorem put (h : Sound s used fs) (hf : f ∈ used) (o : CompileOptions) (m : Medium) :
    Sound s used ((s.put m (.ofFile f) (recordOf o f)).left fs) := by
  obtain ⟨herror, hok⟩ := s.put_spec m (.ofFile f) (recordOf o f) fs
  cases hrun : (s.put m (.ofFile f) (recordOf o f)).run fs with
  | error e fs' =>
    rw [Disk.left_of_error hrun]
    exact h.spares (herror e fs' hrun)
  | ok _ fs' =>
    rw [Disk.left_of_ok hrun]
    obtain ⟨hspares, hplace⟩ := hok fs' hrun
    intro key content hfile
    rw [hspares.workDir] at hfile
    by_cases hkey : key = .ofFile f
    · subst hkey
      rw [hplace] at hfile
      cases hfile
      exact ⟨f, hf, o, rfl, rfl⟩
    · have hne : s.placeFor fs.workDir key ≠ s.placeFor fs.workDir (.ofFile f) :=
        fun heq => hkey (CacheStore.placeFor_injective heq)
      exact h key content (hspares.files _ ⟨⟨key, rfl⟩, hne⟩ content hfile)

theorem compileFile (h : Sound s used fs) (hf : f ∈ used)
    (hstore : ∀ t, o.store = some t → t = s) (parent : UInt64) (trace : Trace.Session) :
    Sound s used ((compileFile o f parent).run ⟨fs, trace⟩).2.files := by
  rcases run_compileFile o f parent ⟨fs, trace⟩ with ⟨r, -, -, hfiles⟩ | ⟨-, -, hfiles⟩
  · rw [hfiles]
    exact h
  · rw [hfiles]
    unfold CompileOptions.stored
    cases ho : o.store with
    | none => exact h
    | some t =>
      obtain rfl := hstore t ho
      exact h.put hf o o.medium

end Sound

/-- Compiling a path is compiling the file that is loaded from it. -/
theorem run_compile {path : Bytes} (h : SourceFile.load fs path = .ok f) (o : CompileOptions)
    (trace : Trace.Session) :
    ((compile o path).run ⟨fs, trace⟩).1 =
        ((compileFile o f 0).run ⟨fs, trace⟩).1.mapError .emission ∧
      ((compile o path).run ⟨fs, trace⟩).2 = ((compileFile o f 0).run ⟨fs, trace⟩).2 := by
  simp only [compile, StateT.run_bind, StateT.run_get, pure_bind, h]
  exact ⟨rfl, rfl⟩

theorem run_compile_error {path : Bytes} {e : FileError} (h : SourceFile.load fs path = .error e)
    (o : CompileOptions) (trace : Trace.Session) :
    (compile o path).run ⟨fs, trace⟩ = (.error (.file e), ⟨fs, trace⟩) := by
  simp only [compile, StateT.run_bind, StateT.run_get, pure_bind, h]
  rfl

namespace History

theorem single (h : History s used fs) : ∀ f ∈ used, f.Single := by
  induction h with
  | empty => exact fun f hf => absurd hf List.not_mem_nil
  | compiled h o hstore path trace ih =>
    intro f hf
    rcases List.mem_append.mp hf with hf | hf
    · exact single_of_load (load_of_mem_loaded hf)
    · exact ih f hf
  | dropped _ _ ih => exact ih
  | failed _ _ ih => exact ih
  | rewritten _ _ ih => exact ih

/-- Whatever happens to a store, its records stay sound. -/
theorem sound (h : History s used fs) : Sound s used fs := by
  induction h with
  | empty hempty => exact fun key content hfile => absurd hfile (hempty key content)
  | compiled h o hstore path trace ih =>
    rename_i used fs
    cases hload : SourceFile.load fs path with
    | error e =>
      rw [run_compile_error hload]
      exact ih.mono (List.subset_append_right _ _)
    | ok f =>
      have hf : f ∈ loaded fs path ++ used := by simp [loaded, hload]
      rw [(run_compile hload o trace).2]
      exact (ih.mono (List.subset_append_right _ _)).compileFile hf hstore 0 trace
  | dropped h hstamp ih => exact ih.spares (s.spares_dropAll hstamp _)
  | failed h hput ih => exact ih.spares ((s.put_spec _ _ _ _).1 _ _ hput)
  | rewritten h hspares ih => exact ih.spares hspares

end History

/-! ### Transparency -/

/-- A record is used for a file if the store has it and it answers for the path of the file. -/
theorem lookup?_eq_some {r : CacheRecord} : lookup? o f fs = some r ↔
    ∃ s b, o.store = some s ∧ fs.read (s.pathFor (.ofFile f)) = .ok b ∧
      CacheRecord.decode? b = some r ∧ r.isUsable f.path = true := by
  constructor
  · intro h
    unfold lookup? at h
    split at h
    · cases h
    · rename_i s hstore
      split at h
      · rename_i r' hget
        obtain ⟨b, hread, hdecode⟩ := CacheStore.get_eq_record.mp hget
        split at h
        · rename_i husable
          cases h
          exact ⟨s, b, hstore, hread, hdecode, husable⟩
        · cases h
      · cases h
  · rintro ⟨s, b, hstore, hread, hdecode, husable⟩
    simp only [lookup?, hstore, CacheStore.get_eq_record.mpr ⟨b, hread, hdecode⟩, husable, if_true]

/-- A record that is used for a file was made of a file with the same path and content. -/
theorem exists_of_lookup? (hsound : Sound s used fs) (hsingle : ∀ g ∈ used, g.Single)
    (hf : f.Single) (hstore : o.store = some s)
    (hinjective : Set.InjOn Sha256.digest (digested (f :: used)))
    (hdecode : ∀ g ∈ used, ∀ o',
      CacheRecord.decode? (recordOf o' g).encode = some (recordOf o' g))
    {r : CacheRecord} (h : lookup? o f fs = some r) :
    ∃ o', r = recordOf o' f ∧ r.broken = false := by
  obtain ⟨t, content, hstore', hread, hdecodes, husable⟩ := lookup?_eq_some.mp h
  obtain rfl := Option.some.inj (hstore.symm.trans hstore')
  have hbroken : r.broken = false := by
    simp only [CacheRecord.isUsable, Bool.and_eq_true, Bool.not_eq_true'] at husable
    exact husable.2
  have hfile := FileSystem.get?_of_read hread
  rw [CacheStore.placeOf_pathFor] at hfile
  obtain ⟨g, hg, o', hkey, rfl⟩ := hsound _ _ hfile
  obtain rfl := Option.some.inj ((hdecode g hg o').symm.trans hdecodes)
  obtain ⟨hpath, hhash, hlexemes⟩ := CacheKey.ofFile_injective hf (hsingle g hg)
    List.mem_cons_self (List.mem_cons_of_mem _ hg) hinjective hkey
  exact ⟨o', (recordOf_congr o' hpath hhash hlexemes).symm, hbroken⟩

/-- Compiling a file with the store and without it is the same, and a unit about which something
is told is not taken from the store. -/
theorem compileFile_transparent (h : History s used fs) (hstore : o.store = some s)
    (hf : f.Single) (hinjective : Set.InjOn Sha256.digest (digested (f :: used)))
    (hdecode : ∀ g ∈ used, ∀ o',
      CacheRecord.decode? (recordOf o' g).encode = some (recordOf o' g))
    (parent : UInt64) (trace : Trace.Session) :
    ∃ u, ((compileFile o f parent).run ⟨fs, trace⟩).1 = .ok u ∧
      u.essence = (unitOf o f).essence ∧
      ((Analysis.run o.limits {} f.lexemes).reports ≠ [] → u.cached = false) := by
  rcases run_compileFile o f parent ⟨fs, trace⟩ with ⟨r, hlookup, hunit, -⟩ | ⟨-, hunit, -⟩
  · obtain ⟨o', rfl, hbroken⟩ :=
      exists_of_lookup? h.sound h.single hf hstore hinjective hdecode hlookup
    obtain ⟨hsame, hsilent⟩ := essence_ofRecord (o := o) hbroken
    exact ⟨_, hunit, hsame, fun hreports => absurd hsilent hreports⟩
  · exact ⟨_, hunit, rfl, fun _ => rfl⟩

theorem compileFile_without (o : CompileOptions) (f : SourceFile) (parent : UInt64)
    (w : Workspace) :
    ((compileFile { o with store := none } f parent).run w).1 = .ok (unitOf o f) := by
  rcases run_compileFile { o with store := none } f parent w with ⟨r, hlookup, -⟩ | ⟨-, hunit, -⟩
  · cases hlookup
  · exact hunit

/-- After whatever happened to a store since it was empty, compiling a path with it is the same as
compiling it without: the same failure, or units that differ in how they came about alone. A unit
about which anything is reported was not taken from the store. -/
theorem compile_transparent (h : History s used fs) (hstore : o.store = some s) (path : Bytes)
    (hinjective : Set.InjOn Sha256.digest (digested (loaded fs path ++ used)))
    (hdecode : ∀ g ∈ used, ∀ o',
      CacheRecord.decode? (recordOf o' g).encode = some (recordOf o' g))
    (trace trace' : Trace.Session) :
    ((compile o path).run ⟨fs, trace⟩).1.map CompiledUnit.essence =
        ((compile { o with store := none } path).run ⟨fs, trace'⟩).1.map CompiledUnit.essence ∧
      ∀ f u, SourceFile.load fs path = .ok f → ((compile o path).run ⟨fs, trace⟩).1 = .ok u →
        (Analysis.run o.limits {} f.lexemes).reports ≠ [] → u.cached = false := by
  cases hload : SourceFile.load fs path with
  | error e =>
    rw [run_compile_error hload, run_compile_error hload]
    exact ⟨rfl, nofun⟩
  | ok f =>
    have hloaded : loaded fs path ++ used = f :: used := by simp [loaded, hload]
    rw [hloaded] at hinjective
    obtain ⟨u, hunit, hsame, hfresh⟩ := compileFile_transparent h hstore (single_of_load hload)
      hinjective hdecode 0 trace
    rw [(run_compile hload o trace).1, (run_compile hload { o with store := none } trace').1,
      hunit, compileFile_without]
    refine ⟨congrArg Except.ok hsame, ?_⟩
    rintro _ _ ⟨⟩ ⟨⟩ hreports
    exact hfresh hreports

/-! ### A history -/

/-- The sample under a path of its own. -/
def storedSource : SourceFile :=
  .ofContent 0 (utf8 "/sample.ez") Analysis.sampleSource.content 0

/-- A file system with the sample in it. -/
def storedTree (fs : FileSystem) : FileSystem :=
  { fs with tree := fs.tree.put [utf8 "sample.ez"] (.file storedSource.content) }

/-- The store of the history. -/
def sampleStore : CacheStore := ⟨utf8 "/cache"⟩

theorem run_stored (limits : Analysis.Limits) :
    Analysis.run limits {} storedSource.lexemes =
      (Analysis.sampleBody.events.foldl (Analysis.act limits) (.start limits {})).outcome := by
  have hprogram : Parse.IsProgram storedSource.tokens Analysis.sampleBody :=
    Analysis.isProgram_sample
  rw [Analysis.run_eq .recorder,
    Analysis.final_of_isProgram (by decide +kernel) hprogram (by decide +kernel)]

theorem decode_stored (o : CompileOptions) :
    CacheRecord.decode? (recordOf o storedSource).encode = some (recordOf o storedSource) := by
  have hrun : (Analysis.run ({} : CompileOptions).limits {} storedSource.lexemes).reports = [] ∧
      (unitOf {} storedSource).lines.length < UInt32.size ∧
      ∀ l ∈ (unitOf {} storedSource).lines, l.length < UInt32.size := by
    rw [unitOf, run_stored]
    decide +kernel
  obtain ⟨hsilent, hcount, hlines⟩ := hrun
  have hfits : (recordOf {} storedSource).Fits :=
    ⟨by decide, Sha256.length_digest _, hcount, hlines⟩
  have hread := CacheRecord.decode?_encode_append hfits []
  rwa [List.append_nil, ← recordOf_of_silent hsilent o] at hread

theorem eq_storedSource (hf : f ∈ loaded (storedTree fs) (utf8 "/sample.ez")) :
    f = storedSource := by
  obtain ⟨content, hfile, rfl⟩ := exists_of_load (load_of_mem_loaded hf)
  have hplace : placeOf (storedTree fs).workDir (utf8 "/sample.ez") = [utf8 "sample.ez"] := rfl
  rw [hplace, storedTree, FileTree.get?_put_self (by decide)] at hfile
  cases hfile
  -- the content is compared, so that its hash need not be computed
  have hnormal : normalize storedSource.content = (storedSource.content, 0) := by decide +kernel
  rw [hnormal]
  rfl

theorem spares_storedTree (s : CacheStore) (fs : FileSystem) :
    fs.Spares (s.Holds fs.workDir) (storedTree fs) := by
  refine ⟨rfl, ?_⟩
  rintro _ ⟨key, rfl⟩ content hfile
  have hne : s.placeFor fs.workDir key ≠ [utf8 "sample.ez"] := fun h => by
    have hlength := congrArg List.length h
    simp [CacheStore.placeFor] at hlength
  rwa [storedTree, FileTree.get?_put_ne hne] at hfile

theorem injOn_of_stored {fs : List SourceFile} (h : ∀ f ∈ fs, f = storedSource) :
    Set.InjOn Sha256.digest (digested fs) := by
  have hpair : Sha256.digest storedSource.content ≠ Sha256.digest (keyText storedSource) := by
    decide +kernel
  rintro a ⟨f, hf, ha⟩ b ⟨g, hg, hb⟩ heq
  obtain rfl := h f hf
  obtain rfl := h g hg
  rcases ha with rfl | rfl <;> rcases hb with rfl | rfl
  · rfl
  · exact absurd heq hpair
  · exact absurd heq.symm hpair
  · rfl

/-- The sample is compiled with an empty store, saved again and compiled again with a different
number of wanted diagnostics. -/
theorem compile_transparent_again :
    let path := utf8 "/sample.ez"
    let first := (compile { store := some sampleStore } path).run ⟨storedTree {}, {}⟩
    let o : CompileOptions := { maxDiagnostics := 3, store := some sampleStore }
    let w : Workspace := ⟨storedTree first.2.files, first.2.trace⟩
    ((compile o path).run w).1.map CompiledUnit.essence =
      ((compile { o with store := none } path).run w).1.map CompiledUnit.essence := by
  intro path first o w
  have hempty : History sampleStore [] (storedTree {}) :=
    .rewritten (.empty fun key content h => by cases h) (spares_storedTree sampleStore {})
  have hused : ∀ f ∈ loaded (storedTree {}) path ++ [], f = storedSource := by
    rw [List.append_nil]
    exact fun f hf => eq_storedSource hf
  have hdecode : ∀ g ∈ loaded (storedTree {}) path ++ [], ∀ o',
      CacheRecord.decode? (recordOf o' g).encode = some (recordOf o' g) := by
    intro g hg o'
    rw [hused g hg]
    exact decode_stored o'
  -- what comes out of the first time goes by a name, so that no proof step evaluates it
  have hagain : ∀ x : Except CompileError CompiledUnit × Workspace,
      (compile { store := some sampleStore } path).run ⟨storedTree {}, {}⟩ = x →
      ((compile o path).run ⟨storedTree x.2.files, x.2.trace⟩).1.map CompiledUnit.essence =
        ((compile { o with store := none } path).run ⟨storedTree x.2.files, x.2.trace⟩).1.map
          CompiledUnit.essence := by
    intro x hx
    have hfirst : History sampleStore (loaded (storedTree {}) path ++ []) x.2.files := by
      rw [← hx]
      exact hempty.compiled _ (fun t ht => (Option.some.inj ht).symm) path {}
    have hsaved := hfirst.rewritten (spares_storedTree sampleStore _)
    have hall : ∀ f ∈ loaded (storedTree x.2.files) path ++ (loaded (storedTree {}) path ++ []),
        f = storedSource :=
      List.forall_mem_append.mpr ⟨fun f hf => eq_storedSource hf, hused⟩
    exact (compile_transparent hsaved rfl path (injOn_of_stored hall) hdecode x.2.trace
      x.2.trace).1
  exact hagain first rfl

end Build

end ThreeAddress
