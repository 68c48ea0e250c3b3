import ThreeAddress.Proofs.Build.Footprints
import ThreeAddress.Proofs.Files.Replacement

/-!
# Courses of tasks

What a build makes of a file can be foreseen from the file system that it begins with: the record
that is in the store then, or else what the file compiles to. As long as nothing fails, every task
stays on course to that, however the steps of other tasks come in between, since they leave alone
what it looks up and what it has written.

## Main definitions

* `Task.foreseen`, `Task.foreseenOutput?` : what becomes of a task.
* `Task.OnCourse` : a task is on its way to that.
* `BuildState.OnCourse` : all tasks of a build are.

## Main results

* `Task.OnCourse.goes`, `Task.OnCourse.others` : steps of the task and of others keep it on course.
* `BuildState.OnCourse.run` : tasks stay on course, whatever the schedule is.
-/

namespace ThreeAddress.Build

open ThreeAddress.Path (slash)
open FileSystem (placeOf)

variable {o : BuildOptions} {baseDir : Bytes} {fs₀ fs fs' : FileSystem} {t t' : Task}

/-! ### What can be foreseen -/

/-- The unit that a task comes to, for the file system at the beginning. -/
def Task.foreseen (o : CompileOptions) (fs : FileSystem) (t : Task) : CompiledUnit :=
  match t.loadError with
  | some e => .unloaded o t.file e
  | none => ((lookup? o t.file fs).map (.ofRecord o t.file)).getD (unitOf o t.file)

/-- Where the code of a task comes to be written, if it does. -/
def Task.foreseenOutput? (o : BuildOptions) (baseDir : Bytes) (fs : FileSystem) (t : Task) :
    Option Bytes :=
  if t.loadError = none ∧ (t.foreseen o.toCompileOptions fs).failed = false ∧ o.outDir ≠ [] then
    some (outputPath baseDir o.outDir t.path)
  else none

/-- A task as it was at the beginning. -/
def Task.start (t : Task) : Task :=
  { t with stage := .waiting, unit := none, written := none }

/-- A task is on its way to what was foreseen from one file system, while another one is there. -/
def Task.OnCourse (o : BuildOptions) (baseDir : Bytes) (fs₀ fs : FileSystem) (t : Task) : Prop :=
  match t.stage with
  | .waiting => t.written = none ∧
      lookup? o.toCompileOptions t.file fs = lookup? o.toCompileOptions t.file fs₀
  | .begun _ => t.written = none ∧ t.loadError = none ∧
      lookup? o.toCompileOptions t.file fs = lookup? o.toCompileOptions t.file fs₀
  | .missing _ => t.written = none ∧ t.loadError = none ∧
      lookup? o.toCompileOptions t.file fs₀ = none
  | .compiled _ u => t.written = none ∧ t.loadError = none ∧
      u = t.foreseen o.toCompileOptions fs₀
  | .writing u => t.unit = some u ∧ t.loadError = none ∧
      u = t.foreseen o.toCompileOptions fs₀ ∧ u.failed = false ∧ o.outDir ≠ []
  | .finished => t.unit = some (t.foreseen o.toCompileOptions fs₀) ∧
      t.written = t.foreseenOutput? o baseDir fs₀ ∧
      ∀ p, t.written = some p →
        fs.read p = .ok (Sink.unlines (t.foreseen o.toCompileOptions fs₀).lines)

/-! ### The steps of a task -/

theorem Task.Goes.start {trouble : Option BuildFailure} (h : t.Goes o baseDir fs trouble fs' t') :
    t'.start = t.start := by
  cases h <;> rfl

/-- Putting a record into a store changes its file alone. -/
theorem changes_stored (hfs : fs.WellFormed) (t : Task) (r : CacheRecord) :
    fs.Changes (t.Touches o baseDir fs.workDir) (o.toCompileOptions.stored t.file r fs) := by
  unfold CompileOptions.stored
  cases hstore : o.store with
  | none => exact .refl hfs
  | some s =>
    refine (Disk.changes_replace hfs (by decide)).mono fun p hp => ?_
    rcases hp with rfl | hnumbered
    · rw [CacheStore.placeOf_pathFor]
      exact .record hstore
    · exact .fresh hnumbered

/-- A step of a task changes files only where the task touches them. -/
theorem Task.Goes.changes {trouble : Option BuildFailure} (h : t.Goes o baseDir fs trouble fs' t')
    (hfs : fs.WellFormed) (hout : ∀ u, t.stage = .writing u → o.outDir ≠ []) :
    fs.Changes (t.Touches o baseDir fs.workDir) fs' := by
  have hwrite {u : CompiledUnit} (hstage : t.stage = .writing u) :
      fs.Changes (t.Touches o baseDir fs.workDir)
        ((Disk.replaceLines o.medium (outputPath baseDir o.outDir t.path) u.lines).left fs) := by
    refine (Disk.changes_replace hfs (by decide)).mono fun p hp => ?_
    rcases hp with rfl | hnumbered
    · exact .output (hout u hstage)
    · exact .fresh hnumbered
  cases h with
  | kept => exact changes_stored hfs t _
  | written hstage hrun => exact Disk.left_of_ok hrun ▸ hwrite hstage
  | unwritten hstage hrun => exact Disk.left_of_error hrun ▸ hwrite hstage
  | _ => exact .refl hfs

/-- A unit that was foreseen is taken up as foreseen. -/
theorem onCourse_taken (hload : t.loadError = none) (hwritten : t.written = none) {u : CompiledUnit}
    (hu : u = t.foreseen o.toCompileOptions fs₀) :
    (t.taken o u).OnCourse o baseDir fs₀ fs := by
  have hnone (h : u.failed = true ∨ o.outDir = []) :
      (t.taken o u).foreseenOutput? o baseDir fs₀ = none := by
    refine if_neg fun hall => ?_
    have hfailed : u.failed = false := hu ▸ hall.2.1
    rcases h with h | h
    · rw [hfailed] at h
      cases h
    · exact hall.2.2 h
  have hend (h : u.failed = true ∨ o.outDir = []) (hstage : (t.taken o u).stage = .finished) :
      (t.taken o u).OnCourse o baseDir fs₀ fs := by
    unfold Task.OnCourse
    rw [hstage]
    refine ⟨congrArg some hu, hwritten.trans (hnone h).symm, fun p hp => ?_⟩
    rw [show (t.taken o u).written = t.written from rfl, hwritten] at hp
    cases hp
  cases hfailed : u.failed with
  | true => exact hend (.inl hfailed) (by simp [Task.taken, hfailed])
  | false =>
    by_cases hout : o.outDir = []
    · exact hend (.inr hout) (by simp [Task.taken, hfailed, hout])
    · have hstage : (t.taken o u).stage = .writing u := by simp [Task.taken, hfailed, hout]
      unfold Task.OnCourse
      rw [hstage]
      exact ⟨rfl, hload, hu, hfailed, hout⟩

/-- A task that goes on without trouble stays on course. -/
theorem Task.OnCourse.goes (h : t.OnCourse o baseDir fs₀ fs) (hfs : fs.WellFormed)
    (hgoes : t.Goes o baseDir fs none fs' t') : t'.OnCourse o baseDir fs₀ fs' := by
  unfold Task.OnCourse at h
  cases hgoes with
  | unloaded hstage he =>
    rw [hstage] at h
    obtain ⟨hwritten, -⟩ := h
    refine ⟨congrArg some ?_, hwritten.trans (if_neg ?_).symm, fun p hp => ?_⟩
    · simp only [Task.foreseen, he]
    · simp [he]
    · cases hwritten.symm.trans hp
  | begun span hstage he =>
    rw [hstage] at h
    exact ⟨h.1, he, h.2⟩
  | found hstage hr =>
    rw [hstage] at h
    obtain ⟨hwritten, hload, hlookup⟩ := h
    refine onCourse_taken hload hwritten ?_
    rw [Task.foreseen, hload, ← hlookup, hr]
    rfl
  | missing hstage hnone =>
    rw [hstage] at h
    obtain ⟨hwritten, hload, hlookup⟩ := h
    exact ⟨hwritten, hload, hlookup ▸ hnone⟩
  | compiled hstage hu =>
    rw [hstage] at h
    obtain ⟨hwritten, hload, hnone⟩ := h
    refine ⟨hwritten, hload, ?_⟩
    rw [compileSource_eq] at hu
    obtain rfl := Except.ok.inj hu
    simp only [Task.foreseen, hload, hnone]
    rfl
  | kept hstage =>
    rw [hstage] at h
    obtain ⟨hwritten, hload, hu⟩ := h
    exact onCourse_taken hload hwritten hu
  | written hstage hrun =>
    rw [hstage] at h
    obtain ⟨hunit, hload, rfl, hfailed, hout⟩ := h
    refine ⟨hunit, (if_pos ⟨hload, hfailed, hout⟩).symm, fun p hp => ?_⟩
    obtain rfl := Option.some.inj hp
    exact Disk.read_of_replace hfs (by decide) hrun
  | rested hstage =>
    unfold Task.OnCourse
    exact h

/-! ### The steps of other tasks -/

/-- What is looked up does not change as long as nobody touches its place. -/
theorem lookup?_of_changes {o : CompileOptions} {f : SourceFile} {places : Place → Prop}
    (h : fs.Changes places fs') (hfs : fs.WellFormed)
    (hplace : ∀ s, o.store = some s → ¬ places (s.placeFor fs.workDir (.ofFile f))) :
    lookup? o f fs' = lookup? o f fs := by
  have hread {s : CacheStore} (hstore : o.store = some s) (b : Bytes) :
      fs'.read (s.pathFor (.ofFile f)) = .ok b ↔ fs.read (s.pathFor (.ofFile f)) = .ok b := by
    have hclean := hplace s hstore
    rw [← CacheStore.placeOf_pathFor, CacheStore.pathFor_eq] at hclean
    rw [CacheStore.pathFor_eq]
    exact h.read_clean hfs hclean
  refine Option.ext fun r => ?_
  rw [lookup?_eq_some, lookup?_eq_some]
  constructor
  · rintro ⟨s, b, hstore, hb, hrest⟩
    exact ⟨s, b, hstore, (hread hstore b).mp hb, hrest⟩
  · rintro ⟨s, b, hstore, hb, hrest⟩
    exact ⟨s, b, hstore, (hread hstore b).mpr hb, hrest⟩

/-- A task stays on course while another one goes on. -/
theorem Task.OnCourse.others (h : t.OnCourse o baseDir fs₀ fs) (hfs : fs.WellFormed)
    (hchanges : fs.Changes (t'.Touches o baseDir fs.workDir) fs') (hapart : t.Apart o baseDir t') :
    t.OnCourse o baseDir fs₀ fs' := by
  have hlookup : lookup? o.toCompileOptions t.file fs' = lookup? o.toCompileOptions t.file fs :=
    lookup?_of_changes hchanges hfs fun s hstore => hapart.not_touches_record hstore
  unfold Task.OnCourse at h ⊢
  cases hstage : t.stage with
  | waiting =>
    rw [hstage] at h
    exact ⟨h.1, hlookup.trans h.2⟩
  | begun span =>
    rw [hstage] at h
    exact ⟨h.1, h.2.1, hlookup.trans h.2.2⟩
  | finished =>
    rw [hstage] at h
    refine ⟨h.1, h.2.1, fun p hp => ?_⟩
    have hforeseen := h.2.1.symm.trans hp
    unfold Task.foreseenOutput? at hforeseen
    split at hforeseen
    · rename_i hall
      obtain rfl := Option.some.inj hforeseen
      exact hchanges.read (hapart.not_touches_output hall.2.2) (h.2.2 _ hp)
    · cases hforeseen
  | _ =>
    rw [hstage] at h
    exact h

/-! ### Builds -/

/-- All tasks of a build are on their way to what was foreseen of them at the beginning. -/
structure BuildState.OnCourse (o : BuildOptions) (baseDir : Bytes) (fs₀ : FileSystem)
    (ts : List Task) (s : BuildState) : Prop where
  /-- Everything stands in a directory. -/
  wellFormed : s.work.files.WellFormed
  /-- The tasks are those of the beginning. -/
  start : ∀ i : Nat, (s.tasks[i]?).map Task.start = ts[i]?
  /-- Every task is on its way. -/
  task : ∀ (i : Nat) (t : Task), s.tasks[i]? = some t → t.OnCourse o baseDir fs₀ s.work.files

/-- The tasks of a build are apart from each other. -/
def AllApart (o : BuildOptions) (baseDir : Bytes) (ts : List Task) : Prop :=
  ∀ (i j : Nat) (t t' : Task), i ≠ j → ts[i]? = some t → ts[j]? = some t' → t.Apart o baseDir t'

namespace BuildState

variable {s : BuildState} {ts : List Task} {i : Nat}

theorem OnCourse.apart (h : s.OnCourse o baseDir fs₀ ts) (hapart : AllApart o baseDir ts)
    {j : Nat} (hij : i ≠ j) (ht : s.tasks[i]? = some t) (ht' : s.tasks[j]? = some t') :
    t.Apart o baseDir t' := by
  have hi := h.start i
  have hj := h.start j
  rw [ht] at hi
  rw [ht'] at hj
  -- the beginning of a task has its key and its output
  have hstart := hapart i j _ _ hij hi.symm hj.symm
  exact ⟨hstart.key, hstart.output⟩

theorem OnCourse.map_start (h : s.OnCourse o baseDir fs₀ ts) :
    s.tasks.toList.map Task.start = ts := by
  refine List.ext_getElem? fun i => ?_
  rw [List.getElem?_map, Array.getElem?_toList]
  exact h.start i

/-- A step without trouble keeps all tasks on course. -/
theorem OnCourse.step (h : s.OnCourse o baseDir fs₀ ts) (hapart : AllApart o baseDir ts)
    (parent : UInt64) (hclean : (s.step o baseDir parent i).failure = none) :
    (s.step o baseDir parent i).OnCourse o baseDir fs₀ ts := by
  obtain ⟨-, hsame⟩ | ⟨t, trouble, t', ht, hleads⟩ := step_cases o baseDir parent s i
  · rwa [hsame]
  · have htrouble := hleads.failure
    rw [hclean, failure_of_step hclean] at htrouble
    obtain rfl : none = trouble := htrouble
    have hgoes := hleads.goes
    have hcourse := h.task i t ht
    have hout : ∀ u, t.stage = .writing u → o.outDir ≠ [] := fun u hstage => by
      unfold Task.OnCourse at hcourse
      rw [hstage] at hcourse
      exact hcourse.2.2.2.2
    have hchanges := hgoes.changes h.wellFormed hout
    refine ⟨hchanges.wellFormed, fun j => ?_, fun j t₂ ht₂ => ?_⟩
    · rw [hleads.getElem? ht, ← h.start j]
      split
      · rename_i hij
        rw [← hij, ht, Option.map_some, Option.map_some, hgoes.start]
      · rfl
    · rw [hleads.getElem? ht] at ht₂
      split at ht₂
      · obtain rfl := Option.some.inj ht₂
        exact hcourse.goes h.wellFormed hgoes
      · rename_i hij
        exact (h.task j t₂ ht₂).others h.wellFormed hchanges (h.apart hapart (Ne.symm hij) ht₂ ht)

/-- As long as nothing fails, all tasks stay on course, whatever the schedule is. -/
theorem OnCourse.run (h : s.OnCourse o baseDir fs₀ ts) (hapart : AllApart o baseDir ts)
    (parent : UInt64) (schedule : List Nat)
    (hclean : (s.run o baseDir parent schedule).failure = none) :
    (s.run o baseDir parent schedule).OnCourse o baseDir fs₀ ts := by
  induction schedule generalizing s with
  | nil => exact h
  | cons i schedule ih => exact ih (h.step hapart parent (failure_of_run hclean)) hclean

end BuildState

end ThreeAddress.Build
