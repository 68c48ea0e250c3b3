import Mathlib.Data.List.Dedup
import ThreeAddress.Proofs.Analysis.Emission
import ThreeAddress.Proofs.Build.Courses

/-!
# Schedules

As long as nothing fails, the schedule of a build does not matter: at the beginning all tasks are on
course to what can be foreseen of them, a complete schedule brings them there, and what was foreseen
does not depend on it.

## Main definitions

* `Completes` : a schedule brings all tasks to their end.
* `Untroubled` : the builds that do not depend on their schedule.
* `CompiledUnit.StartsAfresh` : the temporaries of a unit are consecutive from the first one on.

## Main results

* `completes_of_count` : enough steps bring all tasks to their end.
* `buildWith_foreseen` : what a build yields.
* `buildWith_eq_buildFiles` : a build yields what it yields one file after another.
-/

namespace ThreeAddress.Build

open ThreeAddress.Path (slash)

variable {o : BuildOptions} {baseDir : Bytes} {fs : FileSystem}

/-! ### The beginning of a build -/

/-- Loading adds a file to the set for every path, whether it can be read or not. -/
theorem exists_loadTasks_cons (fs : FileSystem) (set : FileSet) (path : Bytes)
    (rest : List Bytes) : ∃ content flags e, (loadTasks fs set (path :: rest)).2 =
      ⟨path, ((set.add path content flags).2.get? (set.add path content flags).1).getD default, e,
        .waiting, none, none⟩ :: (loadTasks fs (set.add path content flags).2 rest).2 := by
  rw [loadTasks, FileSet.load]
  cases fs.read path with
  | error e => exact ⟨[], .virtual, some e, rfl⟩
  | ok content => exact ⟨(normalize content).1, (normalize content).2, none, rfl⟩

theorem path_loadTasks (fs : FileSystem) (set : FileSet) (files : List Bytes) :
    (loadTasks fs set files).2.map Task.path = files := by
  induction files generalizing set with
  | nil => rfl
  | cons path rest ih =>
    obtain ⟨content, flags, e, hcons⟩ := exists_loadTasks_cons fs set path rest
    rw [hcons, List.map_cons, ih]

theorem start_loadTasks (fs : FileSystem) (set : FileSet) (files : List Bytes) :
    ∀ t ∈ (loadTasks fs set files).2, t.start = t := by
  induction files generalizing set with
  | nil => exact fun t ht => absurd ht List.not_mem_nil
  | cons path rest ih =>
    obtain ⟨content, flags, e, hcons⟩ := exists_loadTasks_cons fs set path rest
    rw [hcons]
    exact List.forall_mem_cons.mpr ⟨rfl, ih _⟩

/-- The file of a task has its cleaned path, as long as the numbers of files do not run out. -/
theorem exists_ofContent_loadTasks (fs : FileSystem) (set : FileSet) (files : List Bytes)
    (hcount : set.files.size + files.length ≤ UInt32.size) :
    ∀ t ∈ (loadTasks fs set files).2, ∃ id content flags,
      t.file = .ofContent id t.path content flags := by
  induction files generalizing set with
  | nil => exact fun t ht => absurd ht List.not_mem_nil
  | cons path rest ih =>
    obtain ⟨content, flags, e, hcons⟩ := exists_loadTasks_cons fs set path rest
    rw [List.length_cons] at hcount
    have hsize : (set.add path content flags).2.files.size = set.files.size + 1 :=
      Array.size_push _
    have hid : (UInt32.ofNat set.files.size).toNat = set.files.size :=
      UInt32.toNat_ofNat_of_lt' (by omega)
    rw [hcons]
    refine List.forall_mem_cons.mpr ⟨⟨UInt32.ofNat set.files.size, content, flags, ?_⟩, ih _ ?_⟩
    · simp [FileSet.get?, FileSet.add, hid]
    · omega

/-- Files with different cleaned paths have different keys, and their code goes to different
paths. -/
theorem allApart_loadTasks {files : List Bytes} {set : FileSet}
    (hcount : set.files.size + files.length ≤ UInt32.size) (hpaths : (files.map Path.clean).Nodup)
    (houtputs : o.outDir ≠ [] → (files.map (outputPath baseDir o.outDir)).Nodup)
    (hinjective : Set.InjOn Sha256.digest (digested ((loadTasks fs set files).2.map Task.file))) :
    AllApart o baseDir (loadTasks fs set files).2 := by
  intro i j t t' hij ht ht'
  have hmem := List.mem_of_getElem? ht
  have hmem' := List.mem_of_getElem? ht'
  have hpath (k : Nat) (t : Task) (ht : (loadTasks fs set files).2[k]? = some t) :
      files[k]? = some t.path := by
    rw [← path_loadTasks fs set files, List.getElem?_map, ht]
    rfl
  have hsame {f : Bytes → Bytes} (hnodup : (files.map f).Nodup) (h : f t.path = f t'.path) :
      False := by
    have hi : i < (files.map f).length := by
      rw [List.length_map]
      exact (List.getElem?_eq_some_iff.mp (hpath i t ht)).1
    refine hij ((List.getElem?_inj hi hnodup).mp ?_)
    rw [List.getElem?_map, List.getElem?_map, hpath i t ht, hpath j t' ht', Option.map_some,
      Option.map_some, h]
  refine ⟨fun hkey => ?_, fun hout heq => hsame (houtputs hout) heq⟩
  obtain ⟨id, content, flags, hfile⟩ := exists_ofContent_loadTasks fs set files hcount t hmem
  obtain ⟨id', content', flags', hfile'⟩ := exists_ofContent_loadTasks fs set files hcount t' hmem'
  rw [CacheKey.ofFile_eq, CacheKey.ofFile_eq] at hkey
  have htext := hinjective ⟨_, List.mem_map_of_mem hmem, .inr rfl⟩
    ⟨_, List.mem_map_of_mem hmem', .inr rfl⟩ hkey
  have hpaths' := (keyText_inj (by simp [hfile, hfile', SourceFile.ofContent, Sha256.length_digest])
    htext).2
  rw [hfile, hfile'] at hpaths'
  exact hsame hpaths hpaths'

/-! ### The end of a build -/

/-- A schedule brings all tasks of a build to their end. -/
def Completes (schedule : List Nat) (o : BuildOptions) (baseDir : Bytes) (files : List Bytes)
    (w : Workspace) : Prop :=
  ∀ t ∈ (reached schedule o baseDir files w).tasks, t.stage = .finished

/-- A build begins with the loaded tasks and the files that are there. -/
theorem exists_reached (schedule : List Nat) (o : BuildOptions) (baseDir : Bytes)
    (files : List Bytes) (w : Workspace) : ∃ (s : BuildState) (parent : UInt64),
      s.tasks = (loadTasks w.files { baseDir := baseDir } files).2.toArray ∧
      s.work.files = w.files ∧
      reached schedule o baseDir files w = s.run o baseDir parent schedule :=
  ⟨_, _, rfl, rfl, rfl⟩

/-- Enough turns bring all tasks to their end. -/
theorem completes_of_count {schedule : List Nat} {files : List Bytes}
    (h : ∀ i < files.length, stepsPerTask ≤ schedule.count i) (o : BuildOptions) (baseDir : Bytes)
    (w : Workspace) : Completes schedule o baseDir files w := by
  intro t ht
  obtain ⟨i, hi, rfl⟩ := Array.mem_iff_getElem.mp ht
  obtain ⟨s, parent, htasks, -, hreached⟩ := exists_reached schedule o baseDir files w
  have hlength : s.tasks.size = files.length := by
    rw [htasks, List.size_toArray, ← List.length_map, path_loadTasks]
  have hlt : i < s.tasks.size := by
    rw [hreached, BuildState.size_run] at hi
    exact hi
  have hget : s.tasks[i]? = some s.tasks[i] := Array.getElem?_eq_getElem hlt
  -- the task waits at the beginning
  have hwaiting : s.tasks[i].stage = .waiting := by
    have hmem : s.tasks[i] ∈ (loadTasks w.files { baseDir := baseDir } files).2 := by
      rw [← List.mem_toArray, ← htasks]
      exact Array.getElem_mem hlt
    rw [← start_loadTasks _ _ _ _ hmem]
    rfl
  obtain ⟨t', ht', hremaining⟩ := BuildState.remaining_run parent schedule hget
  rw [← hreached, Array.getElem?_eq_getElem hi] at ht'
  obtain rfl := Option.some.inj ht'
  have hturns := h i (hlength ▸ hlt)
  rw [hwaiting] at hremaining
  refine TaskStage.eq_finished (Nat.le_zero.mp (hremaining.trans ?_))
  exact (Nat.sub_eq_zero_of_le hturns).le

/-- Finishing one task after another brings all of them to their end. -/
theorem completes_sequential (o : BuildOptions) (baseDir : Bytes) (files : List Bytes)
    (w : Workspace) : Completes (sequential files.length) o baseDir files w := by
  refine completes_of_count (fun i hi => ?_) o baseDir w
  have hturns : (List.replicate stepsPerTask i).Sublist (sequential files.length) := by
    rw [sequential, List.flatMap]
    exact List.sublist_flatten_of_mem (List.mem_map_of_mem (List.mem_range.mpr hi))
  have hcount := hturns.count_le i
  rwa [List.count_replicate_self] at hcount

/-- All tasks are on course at the beginning. -/
theorem onCourse_loadTasks {s : BuildState} {files : List Bytes} (hfs : fs.WellFormed)
    (htasks : s.tasks = (loadTasks fs { baseDir := baseDir } files).2.toArray)
    (hfiles : s.work.files = fs) :
    s.OnCourse o baseDir fs (loadTasks fs { baseDir := baseDir } files).2 := by
  have hstart {i : Nat} {t : Task} (ht : s.tasks[i]? = some t) : t.start = t := by
    rw [htasks, List.getElem?_toArray] at ht
    exact start_loadTasks _ _ _ t (List.mem_of_getElem? ht)
  refine ⟨hfiles ▸ hfs, fun i => ?_, fun i t ht => ?_⟩
  · rw [← List.getElem?_toArray, ← htasks]
    cases ht : s.tasks[i]? with
    | none => rfl
    | some t => rw [Option.map_some, hstart ht]
  · rw [hfiles, ← hstart ht]
    exact ⟨rfl, rfl⟩

section Foreseen

variable {schedule : List Nat} {files : List Bytes} {w : Workspace}

/-- What a build has to be like for its schedule not to matter: its files are different, so are
their keys and their outputs, and nothing fails. -/
structure Untroubled (schedule : List Nat) (o : BuildOptions) (baseDir : Bytes)
    (files : List Bytes) (w : Workspace) : Prop where
  /-- Everything stands in a directory. -/
  wellFormed : w.files.WellFormed
  /-- The files can be numbered. -/
  count : files.length ≤ UInt32.size
  /-- Their cleaned paths are different. -/
  paths : (files.map Path.clean).Nodup
  /-- Their code is written to different paths, if it is. -/
  outputs : o.outDir ≠ [] → (files.map (outputPath baseDir o.outDir)).Nodup
  /-- What is hashed for them has different digests. -/
  digests : Set.InjOn Sha256.digest
    (digested ((loadTasks w.files { baseDir := baseDir } files).2.map Task.file))
  /-- All files come to their end. -/
  complete : Completes schedule o baseDir files w
  /-- There is no failure. -/
  clean : ((buildWith schedule o baseDir files).run w).1.failure = none

/-- An untroubled build yields what was foreseen of its tasks, whatever its schedule is. -/
theorem buildWith_foreseen (h : Untroubled schedule o baseDir files w) :
    let ts := (loadTasks w.files { baseDir := baseDir } files).2
    let r := (buildWith schedule o baseDir files).run w
    r.1.units = ts.map (fun t => some (t.foreseen o.toCompileOptions w.files)) ∧
      r.1.written = ts.filterMap (Task.foreseenOutput? o baseDir w.files) ∧
      ∀ t ∈ ts, ∀ p, t.foreseenOutput? o baseDir w.files = some p →
        r.2.files.read p = .ok (Sink.unlines (t.foreseen o.toCompileOptions w.files).lines) := by
  obtain ⟨hunits, hwritten, hfailure, -⟩ := buildWith_reached schedule o baseDir files w
  obtain ⟨s, parent, htasks, hfiles, hreached⟩ := exists_reached schedule o baseDir files w
  have hclean := h.clean
  rw [hfailure, hreached] at hclean
  have hapart : AllApart o baseDir (loadTasks w.files { baseDir := baseDir } files).2 :=
    allApart_loadTasks (by simpa using h.count) h.paths h.outputs h.digests
  have hcourse := (onCourse_loadTasks h.wellFormed htasks hfiles).run hapart parent schedule hclean
  rw [← hreached] at hcourse
  have hend {t : Task} (ht : t ∈ (reached schedule o baseDir files w).tasks.toList) :
      t.unit = some (t.foreseen o.toCompileOptions w.files) ∧
        t.written = t.foreseenOutput? o baseDir w.files ∧
        ∀ p, t.written = some p → (reached schedule o baseDir files w).work.files.read p =
          .ok (Sink.unlines (t.foreseen o.toCompileOptions w.files).lines) := by
    obtain ⟨i, hi⟩ := List.getElem?_of_mem ht
    rw [Array.getElem?_toList] at hi
    have hlast := hcourse.task i t hi
    unfold Task.OnCourse at hlast
    rwa [h.complete t (Array.mem_toList_iff.mp ht)] at hlast
  rw [← hcourse.map_start]
  dsimp only
  rw [hunits, hwritten, List.map_map, List.filterMap_map, List.forall_mem_map]
  refine ⟨List.map_congr_left fun t ht => (hend ht).1,
    List.filterMap_congr fun t ht => (hend ht).2.1, fun t ht p hp => ?_⟩
  exact (hend ht).2.2 p ((hend ht).2.1.trans hp)

/-! ### Schedules do not matter -/

/-- The lines of a unit are those of instructions whose temporaries are consecutive from the first
one on. -/
def CompiledUnit.StartsAfresh (u : CompiledUnit) : Prop :=
  ∃ is, Numbered 0 is ∧ u.lines = (is.map Instruction.line).flatMap (Bytes.splitOn '\n'.toUInt8)

/-- A unit has the lines of its record, or it starts afresh. -/
theorem Task.lines_foreseen (o : CompileOptions) (fs : FileSystem) (t : Task) :
    ((t.foreseen o fs).cached = true →
      ∃ r, lookup? o t.file fs = some r ∧ (t.foreseen o fs).lines = r.lines) ∧
    ((t.foreseen o fs).cached = false → (t.foreseen o fs).StartsAfresh) := by
  unfold Task.foreseen
  cases t.loadError with
  | some e => exact ⟨nofun, fun _ => ⟨[], trivial, rfl⟩⟩
  | none =>
    cases lookup? o t.file fs with
    | some r => exact ⟨fun _ => ⟨r, rfl, rfl⟩, nofun⟩
    | none => exact ⟨nofun, fun _ => Analysis.exists_numbered_lines o.limits t.file⟩

/-- Where a unit that starts afresh has a line, an instruction that writes the first temporary
begins. -/
theorem CompiledUnit.StartsAfresh.exists_opcode {u : CompiledUnit} (h : u.StartsAfresh) {l : Bytes}
    {ls : List Bytes} (hlines : u.lines = l :: ls) :
    ∃ op : Opcode, utf8 "\t" ++ op.name ++ utf8 " " ++ temporaryName 0 <+: l := by
  obtain ⟨is, hnumbered, hl⟩ := h
  rw [hlines] at hl
  cases is with
  | nil => cases hl
  | cons i is =>
    obtain ⟨htarget, -⟩ := hnumbered
    have hfront : '\n'.toUInt8 ∉ utf8 "\t" ++ i.opcode.name ++ utf8 " " ++ temporaryName 0 := by
      cases i.opcode <;> decide
    have hline : i.line = utf8 "\t" ++ i.opcode.name ++ utf8 " " ++ temporaryName 0 ++
        (utf8 " " ++ Bytes.joinWith (utf8 " ") i.operands) := by
      simp [Instruction.line, Instruction.text, htarget]
    obtain ⟨f, fs, hsplit⟩ := Bytes.exists_splitOn_append hfront
      (utf8 " " ++ Bytes.joinWith (utf8 " ") i.operands)
    rw [List.map_cons, List.flatMap_cons, hline, hsplit] at hl
    exact ⟨i.opcode, f, (List.cons.inj hl).1.symm⟩

theorem exists_anyFailed {us : List (Option CompiledUnit)} (h : none ∉ us) :
    ∃ b, anyFailed us = .ok b := by
  induction us with
  | nil => exact ⟨false, rfl⟩
  | cons x us ih =>
    cases x with
    | none => exact absurd List.mem_cons_self h
    | some u =>
      rw [anyFailed]
      split
      · exact ⟨true, rfl⟩
      · exact ih fun hmem => h (List.mem_cons_of_mem _ hmem)

/-- A build does not depend on its schedule, as long as nothing fails, neither with this schedule
nor one file after another: the units and the verdict are the same, and so is the code at the same
paths. Every file has its unit, which has the lines of the record that was in the store at the
beginning or else starts afresh. -/
theorem buildWith_eq_buildFiles (h : Untroubled schedule o baseDir files w)
    (hsequential : ((buildFiles o baseDir files).run w).1.failure = none) :
    let ts := (loadTasks w.files { baseDir := baseDir } files).2
    let r := (buildWith schedule o baseDir files).run w
    let r' := (buildFiles o baseDir files).run w
    r.1.units = r'.1.units ∧ r.1.written = r'.1.written ∧
      (∃ b, r.1.failed = .ok b ∧ r'.1.failed = .ok b) ∧
      (∀ p ∈ r.1.written, ∃ content, r.2.files.read p = .ok content ∧
        r'.2.files.read p = .ok content) ∧
      r.1.units.length = files.length ∧
      ∀ i < files.length, ∃ t u, ts[i]? = some t ∧ r.1.units[i]? = some (some u) ∧
        (u.cached = true → ∃ record, lookup? o.toCompileOptions t.file w.files = some record ∧
          u.lines = record.lines) ∧
        (u.cached = false → u.StartsAfresh) := by
  have h' : Untroubled (sequential files.length) o baseDir files w :=
    { h with complete := completes_sequential o baseDir files w, clean := hsequential }
  obtain ⟨hunits, hwritten, hread⟩ := buildWith_foreseen h
  obtain ⟨hunits', hwritten', hread'⟩ := buildWith_foreseen h'
  have hsame := hunits.trans hunits'.symm
  have hlength : (loadTasks w.files { baseDir := baseDir } files).2.length = files.length := by
    rw [← List.length_map, path_loadTasks]
  dsimp only
  refine ⟨hsame, hwritten.trans hwritten'.symm, ?_, fun p hp => ?_, ?_, fun i hi => ?_⟩
  · obtain ⟨b, hb⟩ : ∃ b, anyFailed ((buildWith schedule o baseDir files).run w).1.units = .ok b :=
      exists_anyFailed (by simp [hunits])
    exact ⟨b, hb, (congrArg anyFailed hsame).symm.trans hb⟩
  · rw [hwritten] at hp
    obtain ⟨t, ht, hforeseen⟩ := List.mem_filterMap.mp hp
    exact ⟨_, hread t ht p hforeseen, hread' t ht p hforeseen⟩
  · rw [hunits, List.length_map, hlength]
  · have ht := List.getElem?_eq_getElem (hlength.symm ▸ hi)
    refine ⟨_, Task.foreseen o.toCompileOptions w.files _, ht, ?_, Task.lines_foreseen _ _ _⟩
    rw [hunits, List.getElem?_map, ht, Option.map_some]

end Foreseen

/-! ### Two sources -/

/-- Paths of sources. -/
def samplePaths : List Bytes :=
  [utf8 "/a.ez", utf8 "/b.ez"]

/-- A file system with two sources of these lines. -/
def twoSources (first second : List Bytes) : FileSystem :=
  (Disk.replaceLines .sound (utf8 "/b.ez") second).left
    ((Disk.replaceLines .sound (utf8 "/a.ez") first).left {})

/-- Two sources with code. -/
def codeSources : FileSystem :=
  twoSources [utf8 "1 + 1;"] [utf8 "let b: i32;", utf8 "b * 2;"]

/-- An empty source. -/
def emptySource (path : Bytes) : SourceFile :=
  .ofContent 0 path [] 0

/-- Options with a store. -/
def storedOptions (outDir : Bytes) : BuildOptions :=
  { store := some sampleStore, outDir := outDir }

/-- A record for the second source with code that nothing is compiled to. -/
def foreignRecord : CacheRecord :=
  { schema := CacheRecord.currentSchema, path := utf8 "/b.ez", lines := [utf8 "\tadd __t7 1 2"] }

/-- A file system with two empty sources and the record of the second one in the store. -/
def servedSources : FileSystem :=
  (storedOptions []).toCompileOptions.stored (emptySource (utf8 "/b.ez")) foreignRecord
    (twoSources [] [])

/-- The place where the record of the first source is put. -/
def recordDir : Bytes :=
  utf8 "/cache/units/" ++ CacheStore.recordName (.ofFile (emptySource (utf8 "/a.ez")))

/-- The second task goes on in front of the first one. -/
def backwards : List Nat :=
  [1, 1, 1, 1, 1, 0, 0, 0, 0, 0]

/-- So many tasks go on in turns. -/
def inTurns (n : Nat) : List Nat :=
  (List.replicate stepsPerTask (List.range n).reverse).flatten

theorem wellFormed_twoSources (first second : List Bytes) :
    (twoSources first second).WellFormed :=
  (Disk.changes_replace (Disk.changes_replace FileSystem.wellFormed_empty (by decide)).wellFormed
    (by decide)).wellFormed

theorem wellFormed_servedSources : servedSources.WellFormed :=
  (Disk.changes_replace (wellFormed_twoSources [] []) (by decide)).wellFormed

/-- What is hashed for the sources. -/
def hashedTexts (fs : FileSystem) : List Bytes :=
  ((loadTasks fs { baseDir := utf8 "/" } samplePaths).2.flatMap fun t =>
    [t.file.content, keyText t.file]).dedup

theorem injOn_hashedTexts (h : ((hashedTexts fs).map Sha256.digest).Nodup) :
    Set.InjOn Sha256.digest
      (digested ((loadTasks fs { baseDir := utf8 "/" } samplePaths).2.map Task.file)) := by
  have hmem : ∀ m ∈ digested ((loadTasks fs { baseDir := utf8 "/" } samplePaths).2.map Task.file),
      m ∈ hashedTexts fs := by
    rintro m ⟨f, hf, hm⟩
    obtain ⟨t, ht, rfl⟩ := List.mem_map.mp hf
    exact List.mem_dedup.mpr (List.mem_flatMap.mpr ⟨t, ht, by simpa using hm⟩)
  exact fun a ha b hb hab => List.inj_on_of_nodup_map h (hmem a ha) (hmem b hb) hab

theorem untroubled_samplePaths {schedule : List Nat} (hfs : fs.WellFormed)
    (hdigests : ((hashedTexts fs).map Sha256.digest).Nodup)
    (houtputs : (samplePaths.map (outputPath (utf8 "/") o.outDir)).Nodup)
    (hturns : ∀ i < samplePaths.length, stepsPerTask ≤ schedule.count i)
    (hclean : ((buildWith schedule o (utf8 "/") samplePaths).run ⟨fs, {}⟩).1.failure = none) :
    Untroubled schedule o (utf8 "/") samplePaths ⟨fs, {}⟩ where
  wellFormed := hfs
  count := by decide
  paths := by decide
  outputs _ := houtputs
  digests := injOn_hashedTexts hdigests
  complete := completes_of_count hturns o _ _
  clean := hclean

/-- Both sources are compiled in turns: their records are looked up, then both are compiled, then
both records are stored and the code is written. That comes to the same as one after the other. -/
theorem buildWith_eq_buildFiles_inTurns :
    let o := storedOptions (utf8 "/out")
    let r := (buildWith (inTurns 2) o (utf8 "/") samplePaths).run ⟨codeSources, {}⟩
    let r' := (buildFiles o (utf8 "/") samplePaths).run ⟨codeSources, {}⟩
    r.1.written = [utf8 "/out/a.tac", utf8 "/out/b.tac"] ∧ r.1.written = r'.1.written ∧
      r.1.units = r'.1.units ∧
      ∀ p ∈ r.1.written, ∃ content, r.2.files.read p = .ok content ∧
        r'.2.files.read p = .ok content := by
  -- the builds are written out, since comparing them with their names would evaluate them again
  obtain ⟨hclean, hboth⟩ : ((buildWith (inTurns 2) (storedOptions (utf8 "/out")) (utf8 "/")
      samplePaths).run ⟨codeSources, {}⟩).1.failure = none ∧
        ((buildWith (inTurns 2) (storedOptions (utf8 "/out")) (utf8 "/") samplePaths).run
          ⟨codeSources, {}⟩).1.written = [utf8 "/out/a.tac", utf8 "/out/b.tac"] := by
    decide +kernel
  have hclean' : ((buildFiles (storedOptions (utf8 "/out")) (utf8 "/") samplePaths).run
      ⟨codeSources, {}⟩).1.failure = none := by
    decide +kernel
  have huntroubled := untroubled_samplePaths (wellFormed_twoSources _ _) (by decide +kernel)
    (by decide) (by decide) hclean
  obtain ⟨hunits, hwritten, -, hread, -⟩ := buildWith_eq_buildFiles huntroubled hclean'
  exact ⟨hboth, hwritten, hunits, hread⟩

/-- The name of the record of the first source. -/
def firstRecord : Bytes :=
  utf8 "be51c12078415212e20b712638573218c1f000edb98cd27fdaad6ae29661cd68.mp"

/-- The name of the record of the second source. -/
def secondRecord : Bytes :=
  utf8 "7c66357f9bccdd8465e42986eacf46b27199d6d7d7bb908801635b4b10b06d90.mp"

/-- What stands where both sources are served. -/
def servedTree : FileTree where
  entries := [([utf8 "cache", utf8 "units", secondRecord], .file foreignRecord.encode),
    ([utf8 "cache", utf8 "units"], .directory), ([utf8 "cache"], .directory),
    ([utf8 "b.ez"], .file []), ([utf8 "a.ez"], .file [])]

theorem result_backwards :
    let o := storedOptions recordDir
    let r := ((buildWith backwards o (utf8 "/") samplePaths).run ⟨servedSources, {}⟩).1
    ((hashedTexts servedSources).map Sha256.digest).Nodup ∧
      r.failure = none ∧ (samplePaths.map (outputPath (utf8 "/") recordDir)).Nodup ∧
      r.written ≠ ((buildFiles o (utf8 "/") samplePaths).run ⟨servedSources, {}⟩).1.written ∧
      r.units[1]? = some (some
        (CompiledUnit.ofRecord o.toCompileOptions (emptySource (utf8 "/b.ez")) foreignRecord)) := by
  -- the digests in the names are computed once, in front of the builds
  have hdir : recordDir = utf8 "/cache/units/" ++ firstRecord := by decide +kernel
  have hsources : servedSources = { tree := servedTree } := by decide +kernel
  rw [hdir, hsources]
  dsimp only
  -- one file after another, the record of the first source is in the way of all code
  have hinOrder : ((buildFiles (storedOptions (utf8 "/cache/units/" ++ firstRecord)) (utf8 "/")
      samplePaths).run ⟨{ tree := servedTree }, {}⟩).1.written = [] := by
    decide +kernel
  rw [hinOrder]
  -- all at once, so that the build is evaluated once
  decide +kernel

/-- Without a failure, code can be written that is not written one file after another, because the
record of the first source is in its way then; and a unit that is served need not start afresh. -/
theorem not_buildWith_eq_buildFiles :
    let o := storedOptions recordDir
    let r := ((buildWith backwards o (utf8 "/") samplePaths).run ⟨servedSources, {}⟩).1
    Untroubled backwards o (utf8 "/") samplePaths ⟨servedSources, {}⟩ ∧
      r.written ≠ ((buildFiles o (utf8 "/") samplePaths).run ⟨servedSources, {}⟩).1.written ∧
      ∃ u, r.units[1]? = some (some u) ∧ ¬ u.StartsAfresh := by
  obtain ⟨hdigests, hclean, houtputs, hwritten, hunit⟩ := result_backwards
  refine ⟨untroubled_samplePaths wellFormed_servedSources hdigests houtputs (by decide) hclean,
    hwritten, _, hunit, fun hafresh => ?_⟩
  obtain ⟨op, hfront⟩ := hafresh.exists_opcode rfl
  revert hfront
  cases op <;> decide

end ThreeAddress.Build
