import ThreeAddress.Proofs.Build.CacheTransparency
import ThreeAddress.Proofs.Build.Outputs
import ThreeAddress.Proofs.Files.WellFormed

/-!
# What tasks touch

A task of a build changes files at the place of its record, at the place of its code, and at places
of fresh files. Two tasks with different keys and different outputs do not touch what the other one
looks up or writes, since records, code and fresh files have different endings.

## Main definitions

* `Task.Touches` : a place where a task changes files.
* `Task.Apart` : two tasks with different keys and different outputs.

## Main results

* `exists_extends_outputPath` : code is written below the output directory, for every source.
* `Task.Apart.not_touches_record`, `Task.Apart.not_touches_output` : tasks leave each other alone.
-/

namespace ThreeAddress

open ThreeAddress.Path (slash IsName IsElement IsSettled Extends)
open FileSystem (placeOf names IsFront)

namespace Path

/-- Behind something that is no double dot there is none either. -/
theorem IsSettled.not_mem {rooted : Bool} {a b : List Bytes} {e : Bytes}
    (h : IsSettled rooted (a ++ e :: b)) (he : e ≠ utf8 "..") : utf8 ".." ∉ a := by
  induction a with
  | nil => exact List.not_mem_nil
  | cons d a ih =>
    rw [List.mem_cons, not_or]
    exact ⟨fun hd => he ((h.1 hd.symm).2 e (by simp)), ih h.2⟩

theorem dropCommon_suffix (a b : List Bytes) : (dropCommon a b).2 <:+ b := by
  fun_induction dropCommon with
  | case1 a as bs ih => exact ih.trans (List.suffix_cons _ _)
  | _ => exact List.suffix_refl _

/-- The way between two lists of elements climbs first, or it is the end of the second one. -/
theorem of_relativeElements? {es fs way : List Bytes} (h : relativeElements? es fs = some way) :
    (∃ rest, way = utf8 ".." :: rest) ∨ way <:+ fs := by
  have hsuffix := dropCommon_suffix es fs
  unfold relativeElements? at h
  split at h
  rename_i up down hcommon
  rw [hcommon] at hsuffix
  split at h
  · cases h
  · obtain rfl := Option.some.inj h
    cases up with
    | nil => exact .inr hsuffix
    | cons d up => exact .inl ⟨_, rfl⟩

/-- The end of the elements of a path has double dots only at its front. -/
theorem isName_of_suffix {p : Bytes} {es : List Bytes} (h : es <:+ targetElements p)
    (hmore : slash ∈ Bytes.joinWith [slash] es) (hdots : es.head? ≠ some (utf8 "..")) :
    ∀ e ∈ es, IsName e := by
  cases es with
  | nil => exact fun e he => absurd he List.not_mem_nil
  | cons d es =>
    obtain ⟨front, hfront⟩ := h
    unfold targetElements at hfront
    split at hfront
    · -- the dot alone is one name
      have hlength := congrArg List.length hfront
      simp only [List.length_append, List.length_cons, List.length_nil] at hlength
      obtain rfl : front = [] := List.eq_nil_of_length_eq_zero (by omega)
      have hd : d :: es = [utf8 "."] := hfront
      rw [hd] at hmore
      exact absurd hmore (by decide)
    · have hsettled := isSettled_cleanElements p
      rw [← hfront, List.reverse_append, List.reverse_cons, List.append_assoc,
        List.singleton_append] at hsettled
      have hd : d ≠ utf8 ".." := fun heq => hdots (by rw [heq]; rfl)
      intro e he
      have helement : IsElement e :=
        isElement_of_mem_cleanElements (hfront ▸ List.mem_append_right front he)
      refine ⟨helement.ne_nil, helement.noSlash, helement.ne_dot, ?_⟩
      rintro rfl
      rcases List.mem_cons.mp he with heq | he
      · exact hd heq.symm
      · exact hsettled.not_mem hd (List.mem_reverse.mpr he)

/-- A path that starts with a climb starts with two dots. -/
theorem isPrefixOf_joinWith_dots (es : List Bytes) :
    (utf8 "..").isPrefixOf (Bytes.joinWith [slash] (utf8 ".." :: es)) = true := by
  rw [List.isPrefixOf_iff_prefix]
  cases es with
  | nil => exact List.prefix_refl _
  | cons e es => exact ⟨[slash] ++ Bytes.joinWith [slash] (e :: es), by simp [Bytes.joinWith]⟩

/-- The way to something that is not outside a directory is made of names, if it has more than
one. -/
theorem exists_of_relative? {dir target way : Bytes} (h : relative? dir target = .ok way)
    (hmore : slash ∈ way) (hinside : (utf8 "..").isPrefixOf way = false) :
    ∃ ns, way = Bytes.joinWith [slash] ns ∧ ∀ n ∈ ns, IsName n := by
  unfold relative? at h
  dsimp only at h
  split at h
  · obtain rfl := Except.ok.inj h
    exact absurd hmore (by decide)
  · split at h
    · cases h
    · split at h
      · rename_i es hes
        obtain rfl := Except.ok.inj h
        have hdots : ¬ ∃ rest, es = utf8 ".." :: rest := by
          rintro ⟨rest, rfl⟩
          rw [isPrefixOf_joinWith_dots] at hinside
          cases hinside
        rcases of_relativeElements? hes with hclimbs | hsuffix
        · exact absurd hclimbs hdots
        · exact ⟨es, rfl, isName_of_suffix hsuffix hmore fun hhead =>
            hdots (List.head?_eq_some_iff.mp hhead)⟩
      · cases h

/-- The last element of a path is one name, or the root. -/
theorem base_eq (p : Bytes) : slash ∉ base p ∨ base p = [slash] := by
  unfold base
  split
  · exact .inl (by decide)
  · dsimp only
    split
    · exact .inr rfl
    · refine .inl fun hmem => ?_
      have hkept := List.all_eq_true.mp List.all_takeWhile _ (List.mem_reverse.mp hmem)
      simp at hkept

end Path

namespace Build

/-- All names in the way to a source but the last one stand for entries. -/
theorem isName_of_sourceName {baseDir source front last : Bytes}
    (h : sourceName baseDir source = front ++ last) (hfront : IsFront front) :
    ∀ n ∈ names front, IsName n := by
  rcases hfront with rfl | ⟨a, rfl⟩
  · exact fun n hn => absurd hn List.not_mem_nil
  have hmore : slash ∈ sourceName baseDir source := by simp [h]
  have hbase (hsource : sourceName baseDir source = Path.base source) :
      ∀ n ∈ names (a ++ [slash]), IsName n := by
    rcases Path.base_eq source with hnone | hroot
    · exact absurd (hsource ▸ hmore) hnone
    · rw [hsource, hroot] at h
      have ha : a = [] := by
        have hlength := congrArg List.length h
        simp only [List.length_append, List.length_singleton] at hlength
        exact List.eq_nil_of_length_eq_zero (by omega)
      have hroot : names (a ++ [slash]) = [] := by
        rw [ha]
        decide
      rw [hroot]
      exact fun n hn => absurd hn List.not_mem_nil
  unfold sourceName at h hmore hbase
  cases hrelative : Path.relative? baseDir source with
  | error e =>
    rw [hrelative] at hbase
    exact hbase rfl
  | ok name =>
    simp only [hrelative, isSome_strip?_iff] at h hmore hbase
    split at h
    · rename_i hdots
      rw [if_pos hdots] at hbase
      exact hbase rfl
    · rename_i hdots
      rw [if_neg hdots] at hmore
      obtain ⟨ns, hns, hnames⟩ :=
        Path.exists_of_relative? hrelative hmore (Bool.eq_false_iff.mpr hdots)
      have hall : names name = ns := by
        rw [hns]
        exact FileSystem.names_joinWith fun n hn => ⟨(hnames n hn).ne_nil, (hnames n hn).noSlash⟩
      rw [h, FileSystem.names_append (.inr ⟨a, rfl⟩)] at hall
      exact fun n hn => hnames n (hall ▸ List.mem_append_left _ hn)

/-- Whatever the source is, its code is written below the output directory, under a name with the
ending of code. -/
theorem exists_extends_outputPath {outDir : Bytes} (hout : outDir ≠ []) (baseDir source : Bytes) :
    ∃ front stem p, outputPath baseDir outDir source = Path.clean p ∧
      Extends outDir (front ++ [stem ++ codeEnding]) p ∧
      ∀ n ∈ front ++ [stem ++ codeEnding], IsName n := by
  obtain ⟨name, tail, hname, hsource⟩ : ∃ name tail,
      (Bytes.stripEnd? sourceEnding (sourceName baseDir source)).getD (sourceName baseDir source) =
        name ∧ sourceName baseDir source = name ++ tail := by
    cases hstrip : Bytes.stripEnd? sourceEnding (sourceName baseDir source) with
    | none => exact ⟨_, [], rfl, (List.append_nil _).symm⟩
    | some r => exact ⟨r, sourceEnding, rfl, eq_append_of_stripEnd? hstrip⟩
  obtain ⟨front, stem, rfl, hfront, hstem⟩ := FileSystem.exists_front name
  have hcode := isName_codeEnding hstem
  refine ⟨names front, stem, outDir ++ slash :: (front ++ stem ++ codeEnding), ?_, ⟨?_, ?_⟩, ?_⟩
  · rw [outputPath, hname, Path.join, List.dropWhile_cons_of_neg (by simp [hout])]
    simp [Bytes.joinWith]
  · exact FileSystem.isAbsolute_append hout _
  · rw [FileSystem.names_append_slash, List.append_assoc front, FileSystem.names_append hfront,
      FileSystem.names_of_isName hcode]
  · refine List.forall_mem_append.mpr ⟨?_, by simpa using hcode⟩
    rw [List.append_assoc] at hsource
    exact isName_of_sourceName hsource hfront

/-! ### Places of code -/

section Places

variable {baseDir outDir source source' : Bytes} {workDir : Place}

/-- The place of code ends as code does. -/
theorem exists_placeOf_outputPath (hout : outDir ≠ []) (baseDir source : Bytes) (workDir : Place) :
    ∃ front stem, placeOf workDir (outputPath baseDir outDir source) =
      front ++ [stem ++ codeEnding] := by
  obtain ⟨front, stem, p, hpath, hextends, hnames⟩ := exists_extends_outputPath hout baseDir source
  refine ⟨placeOf workDir outDir ++ front, stem, ?_⟩
  rw [hpath, FileSystem.placeOf_clean, hextends.placeOf hnames, List.append_assoc]

/-- Different outputs of one build have different places. -/
theorem placeOf_outputPath_ne (hout : outDir ≠ [])
    (h : outputPath baseDir outDir source ≠ outputPath baseDir outDir source') :
    placeOf workDir (outputPath baseDir outDir source) ≠
      placeOf workDir (outputPath baseDir outDir source') := by
  obtain ⟨front, stem, p, hpath, hextends, hnames⟩ := exists_extends_outputPath hout baseDir source
  obtain ⟨front', stem', p', hpath', hextends', hnames'⟩ :=
    exists_extends_outputPath hout baseDir source'
  rw [hpath, hpath'] at h ⊢
  rw [FileSystem.placeOf_clean, FileSystem.placeOf_clean, hextends.placeOf hnames,
    hextends'.placeOf hnames']
  intro heq
  rw [hextends.clean_eq hnames, hextends'.clean_eq hnames', List.append_cancel_left heq] at h
  exact h rfl

theorem not_isNumbered_outputPath (hout : outDir ≠ []) :
    ¬ IsNumbered (placeOf workDir (outputPath baseDir outDir source)) := by
  obtain ⟨front, stem, hplace⟩ := exists_placeOf_outputPath hout baseDir source workDir
  rw [hplace]
  exact not_isNumbered (getLast?_codeEnding stem) (by decide) front

/-- No code is written where a record may stand. -/
theorem placeOf_outputPath_ne_placeFor (hout : outDir ≠ []) (s : CacheStore) (key : CacheKey) :
    placeOf workDir (outputPath baseDir outDir source) ≠ s.placeFor workDir key := by
  obtain ⟨front, stem, hplace⟩ := exists_placeOf_outputPath hout baseDir source workDir
  rw [hplace, CacheStore.placeFor_eq]
  intro heq
  have hname : stem ++ codeEnding = CacheStore.recordName key := by
    simpa using (List.append_inj' heq rfl).2
  have hlast := CacheStore.getLast?_recordName key
  rw [← hname, getLast?_codeEnding] at hlast
  exact absurd hlast (by decide)

end Places

/-! ### Tasks -/

variable {o : BuildOptions} {baseDir : Bytes} {workDir : Place} {t t' : Task} {p : Place}

/-- A place where a task may change a file: that of its record, that of its code, or that of a fresh
file. -/
inductive Task.Touches (o : BuildOptions) (baseDir : Bytes) (workDir : Place) (t : Task) :
    Place → Prop where
  /-- The record of the unit is put there. -/
  | record {s : CacheStore} (hstore : o.store = some s) :
      Touches o baseDir workDir t (s.placeFor workDir (.ofFile t.file))
  /-- The code of the unit is written there. -/
  | output (hout : o.outDir ≠ []) :
      Touches o baseDir workDir t (placeOf workDir (outputPath baseDir o.outDir t.path))
  /-- A fresh file may be there for a while. -/
  | fresh {p : Place} (h : IsNumbered p) : Touches o baseDir workDir t p

/-- Two tasks have different keys and different outputs. -/
structure Task.Apart (o : BuildOptions) (baseDir : Bytes) (t t' : Task) : Prop where
  /-- Their records have different keys. -/
  key : CacheKey.ofFile t.file ≠ CacheKey.ofFile t'.file
  /-- Their code is written to different paths, if it is. -/
  output : o.outDir ≠ [] →
    outputPath baseDir o.outDir t.path ≠ outputPath baseDir o.outDir t'.path

/-- No other task changes what a task looks up. -/
theorem Task.Apart.not_touches_record (h : t.Apart o baseDir t') {s : CacheStore}
    (hstore : o.store = some s) :
    ¬ t'.Touches o baseDir workDir (s.placeFor workDir (.ofFile t.file)) := by
  generalize hp : s.placeFor workDir (.ofFile t.file) = p
  rintro (hstore' | hout | hnumbered)
  · obtain rfl := Option.some.inj (hstore.symm.trans hstore')
    exact h.key (CacheStore.placeFor_injective hp)
  · exact placeOf_outputPath_ne_placeFor hout s _ hp.symm
  · exact s.not_isNumbered_placeFor workDir _ (hp ▸ hnumbered)

/-- No other task changes the code that a task has written. -/
theorem Task.Apart.not_touches_output (h : t.Apart o baseDir t') (hout : o.outDir ≠ []) :
    ¬ t'.Touches o baseDir workDir (placeOf workDir (outputPath baseDir o.outDir t.path)) := by
  generalize hp : placeOf workDir (outputPath baseDir o.outDir t.path) = p
  rintro (hstore | _ | hnumbered)
  · exact placeOf_outputPath_ne_placeFor hout _ _ hp
  · exact placeOf_outputPath_ne hout (h.output hout) hp
  · exact not_isNumbered_outputPath hout (hp ▸ hnumbered)

end Build

end ThreeAddress
