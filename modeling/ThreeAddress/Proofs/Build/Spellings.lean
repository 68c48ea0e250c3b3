import ThreeAddress.Build.Tokens
import ThreeAddress.Proofs.Build.CacheTransparency
import ThreeAddress.Proofs.Render.Showing
import ThreeAddress.Proofs.Source.Loading
import ThreeAddress.Proofs.Text.Splitting

/-!
# Spellings of a source

A source may be spelled with carriage returns in front of its newlines, and with a byte order mark
in front of all of it. Files that are loaded from two spellings of one content differ in what is
noted about their origin and in nothing else, so that compiling does not tell them apart: it reads
the path, the content and the hash of a file, but not its flags.

## Main definitions

* `withReturns` : a content with carriage returns in front of its newlines.
* `spellings` : the spellings of a content.

## Main results

* `normalize_of_mem_spellings` : every spelling of a content is normalized to the content.
* `Build.compileFile_setFlags` : compiling does not look at the flags of a file.
* `Build.exists_compile_spellings` : two spellings of a content are loaded and compiled alike.
-/

namespace ThreeAddress

/-- A content with a carriage return in front of every newline. -/
def withReturns (content : Bytes) : Bytes :=
  content.flatMap fun b => if b = '\n'.toUInt8 then utf8 "\r\n" else [b]

/-- The spellings of a content: with plain newlines or not, without a byte order mark or with it. -/
def spellings (content : Bytes) : List Bytes :=
  [content, withReturns content, byteOrderMark ++ content, byteOrderMark ++ withReturns content]

section Contents

variable {c v : Bytes}

/-! ### Normalizing -/

theorem plainNewlines_of_notMem (h : '\r'.toUInt8 ∉ c) : plainNewlines c = c :=
  plainNewlines_eq_self_iff.mpr fun hpair => h (hpair.subset List.mem_cons_self)

theorem plainNewlines_byteOrderMark_append (c : Bytes) :
    plainNewlines (byteOrderMark ++ c) = byteOrderMark ++ plainNewlines c := by
  simp only [byteOrderMark, List.cons_append, List.nil_append]
  rw [plainNewlines_cons (by decide), plainNewlines_cons (by decide),
    plainNewlines_cons (by decide)]

/-- The carriage returns that are put in front of the newlines are taken away again. -/
theorem plainNewlines_withReturns (h : '\r'.toUInt8 ∉ c) : plainNewlines (withReturns c) = c := by
  induction c with
  | nil => rfl
  | cons b c ih =>
    obtain ⟨hb, hc⟩ := not_or.mp (mt List.mem_cons.mpr h)
    have hrest : plainNewlines (withReturns c) = c := ih hc
    rw [withReturns, List.flatMap_cons]
    change plainNewlines (_ ++ withReturns c) = _
    split
    · rename_i hnewline
      subst hnewline
      change plainNewlines ('\r'.toUInt8 :: '\n'.toUInt8 :: withReturns c) = _
      rw [plainNewlines, if_pos (by simp), plainNewlines_cons (by decide), hrest]
    · rw [List.singleton_append, plainNewlines_cons (Ne.symm hb), hrest]

/-- No mark comes about by putting carriage returns in front of newlines. -/
theorem unmarked_withReturns (hreturn : '\r'.toUInt8 ∉ c) (hmark : ¬byteOrderMark <+: c) :
    ¬byteOrderMark <+: withReturns c := by
  rintro ⟨rest, hrest⟩
  refine hmark ⟨plainNewlines rest, ?_⟩
  rw [← plainNewlines_byteOrderMark_append, hrest, plainNewlines_withReturns hreturn]

/-- Every spelling of a content is normalized to the content. -/
theorem normalize_of_mem_spellings (hreturn : '\r'.toUInt8 ∉ c) (hmark : ¬byteOrderMark <+: c)
    (h : v ∈ spellings c) : (normalize v).1 = c := by
  simp only [spellings, List.mem_cons, List.not_mem_nil, or_false] at h
  rcases h with rfl | rfl | rfl | rfl
  · rw [fst_normalize_of_unmarked hmark, plainNewlines_of_notMem hreturn]
  · rw [fst_normalize_of_unmarked (unmarked_withReturns hreturn hmark),
      plainNewlines_withReturns hreturn]
  · rw [fst_normalize_append, plainNewlines_of_notMem hreturn]
  · rw [fst_normalize_append, plainNewlines_withReturns hreturn]

end Contents

/-! ### Loading -/

/-- Two files are alike to everything but a look at where they came from. -/
structure SourceFile.Alike (f g : SourceFile) : Prop where
  /-- They have the same bytes. -/
  content_eq : f.content = g.content
  /-- Their newlines are at the same offsets. -/
  newlines_eq : f.newlines = g.newlines
  /-- They have the same hash. -/
  hash_eq : f.hash = g.hash
  /-- Under the same number they are split into the same lexemes, with the same told about them. -/
  lexemes_eq : f.id = g.id → f.lexemes = g.lexemes
  /-- Under the same path they have the same key. -/
  key_eq : f.path = g.path → CacheKey.ofFile f = CacheKey.ofFile g
  /-- Under the same number and path they are compiled by the same steps. -/
  compileFile_eq : f.id = g.id → f.path = g.path →
    ∀ o, Build.compileFile o f = Build.compileFile o g

/-- Compiling does not look at the flags of a file. -/
theorem Build.compileFile_setFlags (o : Build.CompileOptions) (f : SourceFile) (flags : FileFlags) :
    compileFile o { f with flags := flags } = compileFile o f :=
  rfl

/-- Files of one content are alike. -/
theorem SourceFile.alike_ofContent (id id' : FileId) (path path' c : Bytes)
    (flags flags' : FileFlags) :
    (ofContent id path c flags).Alike (ofContent id' path' c flags') where
  content_eq := rfl
  newlines_eq := rfl
  hash_eq := rfl
  lexemes_eq hid := by
    change id = id' at hid
    rw [hid]
    rfl
  key_eq hpath := by
    change Path.clean path = Path.clean path' at hpath
    unfold CacheKey.ofFile ofContent
    rw [hpath]
  compileFile_eq hid hpath o := by
    change id = id' at hid
    change Path.clean path = Path.clean path' at hpath
    rw [← Build.compileFile_setFlags o (ofContent id path c flags) flags']
    unfold ofContent
    rw [hid, hpath]

variable {c v v' path path' : Bytes} {fs fs' : FileSystem}

namespace Build

/-! ### Compiling -/

/-- Compiling a file yields a unit, from the store or not. -/
theorem exists_compileFile (o : CompileOptions) (f : SourceFile) (parent : UInt64)
    (w : Workspace) : ∃ u, ((compileFile o f parent).run w).1 = .ok u := by
  rcases run_compileFile o f parent w with ⟨r, -, hunit, -⟩ | ⟨-, hunit, -⟩
  · exact ⟨_, hunit⟩
  · exact ⟨_, hunit⟩

/-- The record of a file is found wherever the same can be read from the store. -/
theorem lookup?_congr {o : CompileOptions}
    (h : ∀ s ∈ o.store, ∀ key, s.get key fs = s.get key fs') (f : SourceFile) :
    lookup? o f fs = lookup? o f fs' := by
  unfold lookup?
  cases hstore : o.store with
  | none => rfl
  | some s =>
    dsimp only
    rw [h s hstore]

/-- A file is compiled to the same unit wherever the same record of it is found. -/
theorem compileFile_congr {o : CompileOptions} {f : SourceFile}
    (hlookup : lookup? o f fs = lookup? o f fs') (parent : UInt64) (trace trace' : Trace.Session) :
    ((compileFile o f parent).run ⟨fs, trace⟩).1 =
      ((compileFile o f parent).run ⟨fs', trace'⟩).1 := by
  rcases run_compileFile o f parent ⟨fs, trace⟩ with ⟨r, hfound, hunit, -⟩ | ⟨hnone, hunit, -⟩
  · rcases run_compileFile o f parent ⟨fs', trace'⟩ with ⟨r', hfound', hunit', -⟩ | ⟨hnone, -⟩
    · obtain rfl := Option.some.inj (hfound.symm.trans (hlookup.trans hfound'))
      rw [hunit, hunit']
    · cases hfound.symm.trans (hlookup.trans hnone)
  · rcases run_compileFile o f parent ⟨fs', trace'⟩ with ⟨r', hfound, -⟩ | ⟨-, hunit', -⟩
    · cases hnone.symm.trans (hlookup.trans hfound)
    · rw [hunit, hunit']

/-- Two spellings of a content that holds no carriage return and does not start with a byte order
mark are loaded and compiled alike. In whatever sets of files, they are loaded as files that are
alike, with this content; their tokens are the same, and the same is told about them; without a
store, they are compiled to the same unit, apart from its path; and so they are under the same path
with any store from which the same can be read. -/
theorem exists_compile_spellings (hreturn : '\r'.toUInt8 ∉ c) (hmark : ¬byteOrderMark <+: c)
    (hv : v ∈ spellings c) (hv' : v' ∈ spellings c) (hread : fs.read path = .ok v)
    (hread' : fs'.read path' = .ok v') :
    (∀ s s' : FileSet, s.files.size < UInt32.size → s'.files.size < UInt32.size →
      ∃ id id' t t' f f', s.load fs path = .ok (id, t) ∧ s'.load fs' path' = .ok (id', t') ∧
        t.get? id = some f ∧ t'.get? id' = some f' ∧ f.content = c ∧ f.Alike f') ∧
    (∀ n, ∃ t t', tokenize fs path n = .ok t ∧ tokenize fs' path' n = .ok t' ∧
      t.tokens = t'.tokens ∧ t.bag = t'.bag) ∧
    (∀ (o : CompileOptions) trace trace', ∃ u u',
      ((compile { o with store := none } path).run ⟨fs, trace⟩).1 = .ok u ∧
      ((compile { o with store := none } path').run ⟨fs', trace'⟩).1 = .ok u' ∧
      u = { u' with path := u.path }) ∧
    (path = path' → ∀ (o : CompileOptions) trace trace',
      (∀ s ∈ o.store, ∀ key, s.get key fs = s.get key fs') → ∃ u,
        ((compile o path).run ⟨fs, trace⟩).1 = .ok u ∧
        ((compile o path').run ⟨fs', trace'⟩).1 = .ok u) := by
  have hc := normalize_of_mem_spellings hreturn hmark hv
  have hc' := normalize_of_mem_spellings hreturn hmark hv'
  have hload := SourceFile.load_of_normalize hread hc
  have hload' := SourceFile.load_of_normalize hread' hc'
  refine ⟨fun s s' hs hs' => ?_, fun n => ?_, fun o trace trace' => ?_, ?_⟩
  · exact ⟨_, _, _, _, _, _, FileSet.load_of_normalize hread hc s,
      FileSet.load_of_normalize hread' hc' s', FileSet.get?_add hs _ _ _,
      FileSet.get?_add hs' _ _ _, rfl, SourceFile.alike_ofContent _ _ _ _ _ _ _⟩
  · rw [tokenize, tokenize, hload, hload']
    exact ⟨_, _, rfl, rfl, rfl, rfl⟩
  · rw [(run_compile hload _ trace).1, (run_compile hload' _ trace').1, compileFile_without,
      compileFile_without]
    exact ⟨_, _, rfl, rfl, rfl⟩
  · rintro rfl o trace trace' hstore
    have halike := SourceFile.alike_ofContent 0 0 path path c (normalize v).2 (normalize v').2
    obtain ⟨u, hunit⟩ := exists_compileFile o (.ofContent 0 path c (normalize v).2) 0 ⟨fs, trace⟩
    have hunit' := compileFile_congr
      (lookup?_congr hstore (.ofContent 0 path c (normalize v).2)) 0 trace trace'
    refine ⟨u, ?_, ?_⟩
    · rw [(run_compile hload o trace).1, hunit]
      rfl
    · rw [(run_compile hload' o trace').1, ← halike.compileFile_eq rfl rfl, ← hunit', hunit]
      rfl

/-- A file system that holds a source in a given spelling. -/
def spelledFiles (spelling : Bytes) : FileSystem :=
  { tree := ⟨[([utf8 "a.ez"], .file spelling)]⟩ }

/-- Two lines are compiled to one and the same unit as they are, and with a byte order mark and
carriage returns. -/
theorem exists_compile_spellings_twoLines :
    let c := utf8 "let a: i32;\na + 1;\n"
    let marked := utf8 "\uFEFFlet a: i32;\r\na + 1;\r\n"
    '\r'.toUInt8 ∉ c ∧ ¬byteOrderMark <+: c ∧ c ∈ spellings c ∧ marked ∈ spellings c ∧
      ∃ u, ((compile {} (utf8 "a.ez")).run ⟨spelledFiles c, {}⟩).1 = .ok u ∧
        ((compile {} (utf8 "a.ez")).run ⟨spelledFiles marked, {}⟩).1 = .ok u := by
  intro c marked
  have hreturn : '\r'.toUInt8 ∉ c := by decide +kernel
  have hmark : ¬byteOrderMark <+: c := by decide +kernel
  have hc : c ∈ spellings c := by decide +kernel
  have hmarked : marked ∈ spellings c := by decide +kernel
  have hread : (spelledFiles c).read (utf8 "a.ez") = .ok c := by decide +kernel
  have hread' : (spelledFiles marked).read (utf8 "a.ez") = .ok marked := by decide +kernel
  obtain ⟨-, -, -, hcompile⟩ := exists_compile_spellings hreturn hmark hc hmarked hread hread'
  exact ⟨hreturn, hmark, hc, hmarked, hcompile rfl {} {} {} (fun s hs => by cases hs)⟩

end Build

end ThreeAddress
