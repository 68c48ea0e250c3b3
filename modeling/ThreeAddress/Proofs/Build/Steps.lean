import ThreeAddress.Build.Run
import ThreeAddress.Proofs.Files.Effects

/-!
# The steps of a build

Whatever the schedule, a step changes at most one task, and there are few things that it can make of
it and of the files. Every statement about all tasks of a build follows from what holds at the
beginning and is kept by these steps.

## Main definitions

* `Task.Moves` : what a step can make of a task.
* `Task.Goes` : what a step does with a task and with the files.
* `Task.news` : what a step tells of a task.
* `reached` : the state that a build ends in.

## Main results

* `BuildState.exists_leadsTo` : every step goes on with one task.
* `BuildState.forall_tasks_run` : what all moves keep holds of all tasks behind a schedule.
* `BuildState.remaining_run` : every turn of a task takes it one step on.
-/

namespace ThreeAddress.Build

/-- A unit that is there for a task: one taken from the store, or one just compiled. -/
def Task.Offers (o : BuildOptions) (t : Task) (u : CompiledUnit) : Prop :=
  (∃ span r, t.stage = .begun span ∧ u = .ofRecord o.toCompileOptions t.file r) ∨
    ∃ span, t.stage = .compiled span u

/-- What a step can make of a task. -/
inductive Task.Moves (o : BuildOptions) (baseDir : Bytes) (t : Task) : Task → Prop where
  /-- It is given up. -/
  | ended : Moves o baseDir t { t with stage := .finished }
  /-- It could not be loaded. -/
  | unloaded {e : FileError} (hstage : t.stage = .waiting) (he : t.loadError = some e) :
      Moves o baseDir t
        { t with unit := some (.unloaded o.toCompileOptions t.file e), stage := .finished }
  /-- It is begun. -/
  | begun (span : Trace.OpenSpan) (hstage : t.stage = .waiting) :
      Moves o baseDir t { t with stage := .begun span }
  /-- It is not in the store. -/
  | missing {span : Trace.OpenSpan} (hstage : t.stage = .begun span) :
      Moves o baseDir t { t with stage := .missing span }
  /-- It is compiled. -/
  | compiled {span : Trace.OpenSpan} {u : CompiledUnit} (hstage : t.stage = .missing span)
      (hu : (compileSource o.toCompileOptions t.file).1 = .ok u) :
      Moves o baseDir t { t with stage := .compiled span u }
  /-- Its unit has errors. -/
  | refused {u : CompiledUnit} (hu : t.Offers o u) (hfailed : u.failed = true) :
      Moves o baseDir t { t with unit := some u, stage := .finished }
  /-- Its unit has no errors and is to be written. -/
  | accepted {u : CompiledUnit} (hu : t.Offers o u) (hfailed : u.failed = false) :
      Moves o baseDir t { t with unit := some u, stage := .writing u }
  /-- Its unit has no errors and is not to be written. -/
  | done {u : CompiledUnit} (hu : t.Offers o u) (hfailed : u.failed = false) :
      Moves o baseDir t { t with unit := some u, stage := .finished }
  /-- Its code is written. -/
  | written {u : CompiledUnit} (hstage : t.stage = .writing u) :
      Moves o baseDir t
        { t with written := some (outputPath baseDir o.outDir t.path), stage := .finished }

theorem run_fetchUnit_none {o : CompileOptions} {f : SourceFile} {w : Workspace}
    (h : lookup? o f w.files = none) (span : Trace.OpenSpan) :
    (fetchUnit o f span).run w = (none, w) := by
  simp only [fetchUnit, StateT.run_bind, StateT.run_get, pure_bind, h]
  rfl

theorem run_fetchUnit_some {o : CompileOptions} {f : SourceFile} {w : Workspace} {r : CacheRecord}
    (h : lookup? o f w.files = some r) (span : Trace.OpenSpan) :
    (fetchUnit o f span).run w =
      (some (.ofRecord o f r), ((Work.finish span (utf8 "cache hit")).run w).2) := by
  simp only [fetchUnit, StateT.run_bind, StateT.run_get, pure_bind, h]
  rfl

/-- The unit that is taken from the store is that of the usable record there. -/
theorem fst_fetchUnit (o : CompileOptions) (f : SourceFile) (span : Trace.OpenSpan)
    (w : Workspace) :
    ((fetchUnit o f span).run w).1 = (lookup? o f w.files).map (.ofRecord o f) := by
  cases h : lookup? o f w.files with
  | none => rw [run_fetchUnit_none h, Option.map_none]
  | some r => rw [run_fetchUnit_some h, Option.map_some]

theorem files_fetchUnit (o : CompileOptions) (f : SourceFile) (span : Trace.OpenSpan)
    (w : Workspace) : ((fetchUnit o f span).run w).2.files = w.files := by
  cases h : lookup? o f w.files with
  | none => rw [run_fetchUnit_none h]
  | some r =>
    rw [run_fetchUnit_some h]
    rfl

theorem fst_makeUnit (o : CompileOptions) (f : SourceFile) (span : Trace.OpenSpan)
    (w : Workspace) : ((makeUnit o f span).run w).1 = (compileSource o f).1 := by
  unfold makeUnit
  rcases compileSource o f with ⟨_ | u, points⟩ <;> rfl

/-! ### What compiling does to the files -/

theorem files_beginUnit (f : SourceFile) (parent : UInt64) (w : Workspace) :
    ((beginUnit f parent).run w).2.files = w.files := rfl

theorem files_makeUnit (o : CompileOptions) (f : SourceFile) (span : Trace.OpenSpan)
    (w : Workspace) : ((makeUnit o f span).run w).2.files = w.files := by
  unfold makeUnit
  rcases compileSource o f with ⟨_ | u, points⟩ <;> rfl

/-- The files behind putting a record into the store of some options. -/
def CompileOptions.stored (o : CompileOptions) (f : SourceFile) (r : CacheRecord)
    (fs : FileSystem) : FileSystem :=
  match o.store with
  | none => fs
  | some s => (s.put o.medium (.ofFile f) r).left fs

theorem files_disk (act : Disk Unit) (w : Workspace) :
    ((Work.disk act).run w).2.files = act.left w.files := by
  unfold Work.disk Disk.left
  simp only [StateT.run_modifyGet]
  cases act.run w.files <;> rfl

theorem files_keepUnit (o : CompileOptions) (f : SourceFile) (span : Trace.OpenSpan)
    (u : CompiledUnit) (w : Workspace) :
    ((keepUnit o f span u).run w).2.files = o.stored f (u.toRecord f) w.files := by
  have hstore : ((keepUnit o f span u).run w).2.files = ((storeUnit o f u).run w).2.files := rfl
  rw [hstore]
  unfold storeUnit CompileOptions.stored
  cases o.store with
  | none => rfl
  | some s =>
    dsimp only
    rw [StateT.run_bind, ← files_disk]
    rcases (Work.disk (s.put o.medium (.ofFile f) (u.toRecord f))).run w with ⟨_ | e, w'⟩ <;> rfl

/-! ### Steps of a task -/

/-- A task with the unit that was found or made for it. -/
def Task.taken (o : BuildOptions) (t : Task) (u : CompiledUnit) : Task where
  path := t.path
  file := t.file
  loadError := t.loadError
  stage := if u.failed then .finished else if o.outDir ≠ [] then .writing u else .finished
  unit := some u
  written := t.written

/-- What a step does with a task and with the files, and the failure that it meets. -/
inductive Task.Goes (o : BuildOptions) (baseDir : Bytes) (fs : FileSystem) (t : Task) :
    Option BuildFailure → FileSystem → Task → Prop where
  /-- It is not begun any more. -/
  | calledOff (hstage : t.stage = .waiting) :
      Goes o baseDir fs t (some .calledOff) fs { t with stage := .finished }
  /-- It could not be loaded. -/
  | unloaded {e : FileError} (hstage : t.stage = .waiting) (he : t.loadError = some e) :
      Goes o baseDir fs t none fs
        { t with unit := some (.unloaded o.toCompileOptions t.file e), stage := .finished }
  /-- It is begun. -/
  | begun (span : Trace.OpenSpan) (hstage : t.stage = .waiting) (he : t.loadError = none) :
      Goes o baseDir fs t none fs { t with stage := .begun span }
  /-- Its unit is in the store. -/
  | found {span : Trace.OpenSpan} {r : CacheRecord} (hstage : t.stage = .begun span)
      (hr : lookup? o.toCompileOptions t.file fs = some r) :
      Goes o baseDir fs t none fs (t.taken o (.ofRecord o.toCompileOptions t.file r))
  /-- It is not in the store. -/
  | missing {span : Trace.OpenSpan} (hstage : t.stage = .begun span)
      (hnone : lookup? o.toCompileOptions t.file fs = none) :
      Goes o baseDir fs t none fs { t with stage := .missing span }
  /-- It is compiled. -/
  | compiled {span : Trace.OpenSpan} {u : CompiledUnit} (hstage : t.stage = .missing span)
      (hu : (compileSource o.toCompileOptions t.file).1 = .ok u) :
      Goes o baseDir fs t none fs { t with stage := .compiled span u }
  /-- Its code cannot be emitted. -/
  | refused {span : Trace.OpenSpan} {e : EmissionFailure} (hstage : t.stage = .missing span)
      (he : (compileSource o.toCompileOptions t.file).1 = .error e) :
      Goes o baseDir fs t (some (.emission e)) fs { t with stage := .finished }
  /-- Its unit is put into the store, or as far as it goes. -/
  | kept {span : Trace.OpenSpan} {u : CompiledUnit} (hstage : t.stage = .compiled span u) :
      Goes o baseDir fs t none (o.toCompileOptions.stored t.file (u.toRecord t.file) fs)
        (t.taken o u)
  /-- Its code is written. -/
  | written {u : CompiledUnit} {fs' : FileSystem} (hstage : t.stage = .writing u)
      (hrun : (Disk.replaceLines o.medium (outputPath baseDir o.outDir t.path) u.lines).run fs =
        .ok () fs') :
      Goes o baseDir fs t none fs'
        { t with written := some (outputPath baseDir o.outDir t.path), stage := .finished }
  /-- Its code cannot be written. -/
  | unwritten {u : CompiledUnit} {e : FileError} {fs' : FileSystem} (hstage : t.stage = .writing u)
      (hrun : (Disk.replaceLines o.medium (outputPath baseDir o.outDir t.path) u.lines).run fs =
        .error e fs') :
      Goes o baseDir fs t (some (.file e)) fs' { t with stage := .finished }
  /-- It is done. -/
  | rested (hstage : t.stage = .finished) : Goes o baseDir fs t none fs t

theorem Task.Offers.moves_taken {o : BuildOptions} {baseDir : Bytes} {t : Task} {u : CompiledUnit}
    (h : t.Offers o u) : t.Moves o baseDir (t.taken o u) := by
  unfold Task.taken
  split
  · rename_i hfailed
    exact .refused h hfailed
  · rename_i hfailed
    have hfailed : u.failed = false := Bool.eq_false_iff.mpr hfailed
    split
    · exact .accepted h hfailed
    · exact .done h hfailed

theorem Task.Goes.moves {o : BuildOptions} {baseDir : Bytes} {fs fs' : FileSystem} {t t' : Task}
    {trouble : Option BuildFailure} (h : t.Goes o baseDir fs trouble fs' t') :
    t.Moves o baseDir t' := by
  cases h with
  | calledOff hstage => exact .ended
  | unloaded hstage he => exact .unloaded hstage he
  | begun span hstage => exact .begun span hstage
  | found hstage hr => exact Task.Offers.moves_taken (.inl ⟨_, _, hstage, rfl⟩)
  | missing hstage => exact .missing hstage
  | compiled hstage hu => exact .compiled hstage hu
  | refused hstage => exact .ended
  | kept hstage => exact Task.Offers.moves_taken (.inr ⟨_, hstage⟩)
  | written hstage => exact .written hstage
  | unwritten hstage => exact .ended
  | rested hstage =>
    have hsame : t = { t with stage := .finished } := by rw [← hstage]
    rw [hsame]
    exact .ended

/-- How many turns a task needs at most. -/
def TaskStage.remaining : TaskStage → Nat
  | .waiting => stepsPerTask
  | .begun _ => 4
  | .missing _ => 3
  | .compiled _ _ => 2
  | .writing _ => 1
  | .finished => 0

theorem TaskStage.eq_finished {stage : TaskStage} (h : stage.remaining = 0) :
    stage = .finished := by
  cases stage with
  | finished => rfl
  | _ => cases h

theorem Task.Goes.remaining {o : BuildOptions} {baseDir : Bytes} {fs fs' : FileSystem}
    {t t' : Task} {trouble : Option BuildFailure} (h : t.Goes o baseDir fs trouble fs' t') :
    t'.stage.remaining ≤ t.stage.remaining - 1 := by
  have htaken (u : CompiledUnit) : (t.taken o u).stage.remaining ≤ 1 := by
    unfold Task.taken
    dsimp only
    split
    · exact Nat.zero_le 1
    · split
      · exact Nat.le_refl 1
      · exact Nat.zero_le 1
  cases h with
  | found hstage => exact Nat.le_trans (htaken _) (by simp [hstage, TaskStage.remaining])
  | kept hstage => exact Nat.le_trans (htaken _) (by simp [hstage, TaskStage.remaining])
  | rested hstage => simp [hstage, TaskStage.remaining]
  | begun span hstage => simp [hstage, TaskStage.remaining, stepsPerTask]
  | missing hstage => simp [hstage, TaskStage.remaining]
  | compiled hstage => simp [hstage, TaskStage.remaining]
  | _ => exact Nat.zero_le _

/-- How it is told that a unit without errors is done with. -/
def CompiledUnit.ending (u : CompiledUnit) : Progress.Status :=
  if u.cached then .cached else .done

/-- How it is told that a unit is there and nothing is to be written. -/
def CompiledUnit.verdict (u : CompiledUnit) : Progress.Status :=
  if u.failed then .error else u.ending

/-- What a step tells of a task that it leads on: stages and how they stand. -/
def Task.news (t t' : Task) (trouble : Option BuildFailure) :
    List (Progress.Stage × Progress.Status) :=
  match t.stage, t'.stage with
  | .waiting, .begun _ => [(.compile, .working)]
  | .waiting, .finished => if trouble.isSome then [] else [(.compile, .error)]
  | .missing _, .finished => [(.compile, .error)]
  | .begun _, .writing _ | .compiled _ _, .writing _ => [(.write, .working)]
  | .begun _, .finished | .compiled _ _, .finished =>
    t'.unit.toList.map fun u => (.compile, u.verdict)
  | .writing u, .finished =>
    if trouble.isSome then [(.write, .error)] else [(.compile, u.ending)]
  | _, _ => []

/-- What is told of a task whose unit is there. -/
theorem Task.Offers.news_taken {o : BuildOptions} {t : Task} {u : CompiledUnit}
    (h : t.Offers o u) : t.news (t.taken o u) none =
      if u.failed then [(.compile, .error)]
      else if o.outDir ≠ [] then [(.write, .working)] else [(.compile, u.ending)] := by
  rcases h with ⟨span, -, hstage, -⟩ | ⟨span, hstage⟩ <;> by_cases hfailed : u.failed = true <;>
    by_cases hout : o.outDir ≠ [] <;>
    simp [Task.news, Task.taken, CompiledUnit.verdict, hstage, hfailed, hout]

namespace BuildState

variable {o : BuildOptions} {baseDir : Bytes} {s : BuildState} {i : Nat} {t : Task}

/-- A step leads a task and the files from one state to another. -/
structure LeadsTo (o : BuildOptions) (baseDir : Bytes) (s : BuildState) (i : Nat) (t : Task)
    (s' : BuildState) (trouble : Option BuildFailure) (t' : Task) : Prop where
  /-- What happens to the task and to the files. -/
  goes : t.Goes o baseDir s.work.files trouble s'.work.files t'
  /-- The other tasks stay. -/
  tasks : s'.tasks = s.tasks.setIfInBounds i t'
  /-- The first failure is kept. -/
  failure : s'.failure = (s.failure <|> trouble)
  /-- What is told is about the task. -/
  events : ∃ cause, s'.events =
    ((t.news t' trouble).map fun n => ⟨t.path, n.1, n.2, cause⟩).reverse ++ s.events

theorem takeUnit_eq (o : BuildOptions) (s : BuildState) (i : Nat) (t : Task) (u : CompiledUnit) :
    (s.takeUnit o i t u).work = s.work ∧ (s.takeUnit o i t u).failure = s.failure ∧
      (s.takeUnit o i t u).tasks = s.tasks.setIfInBounds i (t.taken o u) := by
  unfold takeUnit Task.taken finishTask
  dsimp only
  split
  · exact ⟨rfl, rfl, rfl⟩
  · split <;> exact ⟨rfl, rfl, rfl⟩

theorem failure_orElse_none (s : BuildState) : (s.failure <|> none) = s.failure := by
  cases s.failure <;> rfl

/-- What is told of a unit that is taken up. -/
theorem events_takeUnit (o : BuildOptions) (s : BuildState) (i : Nat) {t : Task}
    {u : CompiledUnit} (hu : t.Offers o u) :
    (s.takeUnit o i t u).events =
      ((t.news (t.taken o u) none).map fun n => ⟨t.path, n.1, n.2, none⟩).reverse ++ s.events := by
  rw [hu.news_taken]
  unfold takeUnit finishTask
  by_cases hfailed : u.failed = true
  · rw [if_pos hfailed, if_pos hfailed]
    rfl
  · rw [if_neg hfailed, if_neg hfailed]
    by_cases hout : o.outDir ≠ []
    · rw [if_pos hout, if_pos hout]
      rfl
    · rw [if_neg hout, if_neg hout]
      rfl

theorem leadsTo_takeUnit {s' : BuildState} {u : CompiledUnit} (htasks : s'.tasks = s.tasks)
    (hfailure : s'.failure = s.failure) (hevents : s'.events = s.events) (hu : t.Offers o u)
    (hgoes : t.Goes o baseDir s.work.files none s'.work.files (t.taken o u)) :
    s.LeadsTo o baseDir i t (s'.takeUnit o i t u) none (t.taken o u) := by
  obtain ⟨hwork, hfailure', htasks'⟩ := takeUnit_eq o s' i t u
  refine ⟨hwork ▸ hgoes, by rw [htasks', htasks], ?_, none, ?_⟩
  · rw [hfailure', hfailure, failure_orElse_none]
  · rw [events_takeUnit o s' i hu, hevents]

theorem exists_leadsTo_beginTask (o : BuildOptions) (baseDir : Bytes) (parent : UInt64)
    (s : BuildState) (i : Nat) (hstage : t.stage = .waiting) :
    ∃ trouble t', s.LeadsTo o baseDir i t (s.beginTask o parent i t) trouble t' := by
  unfold beginTask
  split
  · refine ⟨_, _, .calledOff hstage, rfl, rfl, none, ?_⟩
    simp only [Task.news, hstage]
    rfl
  · split
    · rename_i e he
      refine ⟨_, _, .unloaded hstage he, rfl, s.failure_orElse_none.symm, some e.message, ?_⟩
      simp only [Task.news, hstage]
      rfl
    · rename_i he
      refine ⟨_, _, .begun _ hstage he, rfl, s.failure_orElse_none.symm, none, ?_⟩
      simp only [Task.news, hstage]
      rfl

theorem exists_leadsTo_writeTask (o : BuildOptions) (baseDir : Bytes) (s : BuildState) (i : Nat)
    {u : CompiledUnit} (hstage : t.stage = .writing u) :
    ∃ trouble t', s.LeadsTo o baseDir i t (s.writeTask o baseDir i t u) trouble t' := by
  unfold writeTask work' Work.disk
  cases hrun : (Disk.replaceLines o.medium (outputPath baseDir o.outDir t.path) u.lines).run
      s.work.files with
  | ok _ fs =>
    simp only [StateT.run_modifyGet, hrun]
    refine ⟨_, _, .written hstage hrun, rfl, s.failure_orElse_none.symm, none, ?_⟩
    simp only [Task.news, hstage]
    rfl
  | error e fs =>
    simp only [StateT.run_modifyGet, hrun]
    refine ⟨_, _, .unwritten hstage hrun, rfl, rfl, some e.message, ?_⟩
    simp only [Task.news, hstage]
    rfl

/-- Every step leads a task on, or finds it done. -/
theorem exists_leadsTo (o : BuildOptions) (baseDir : Bytes) (parent : UInt64)
    (ht : s.tasks[i]? = some t) :
    ∃ trouble t', s.LeadsTo o baseDir i t (s.stepTask o baseDir parent i t) trouble t' := by
  unfold stepTask
  split
  · rename_i hstage
    exact exists_leadsTo_beginTask o baseDir parent s i hstage
  · rename_i span hstage
    have hfst := fst_fetchUnit o.toCompileOptions t.file span s.work
    have hfiles := files_fetchUnit o.toCompileOptions t.file span s.work
    unfold work'
    generalize (fetchUnit o.toCompileOptions t.file span).run s.work = r at hfst hfiles ⊢
    obtain ⟨found, w⟩ := r
    obtain rfl := hfst
    dsimp only at hfiles ⊢
    cases hr : lookup? o.toCompileOptions t.file s.work.files with
    | some r =>
      refine ⟨_, _, leadsTo_takeUnit rfl rfl rfl (.inl ⟨span, r, hstage, rfl⟩) ?_⟩
      rw [hfiles]
      exact .found hstage hr
    | none =>
      refine ⟨_, _, ?_, rfl, s.failure_orElse_none.symm, none, ?_⟩
      · show t.Goes o baseDir s.work.files none w.files _
        rw [hfiles]
        exact .missing hstage hr
      · simp only [Task.news, hstage]
        rfl
  · rename_i span hstage
    have hfst := fst_makeUnit o.toCompileOptions t.file span s.work
    have hfiles := files_makeUnit o.toCompileOptions t.file span s.work
    unfold work'
    generalize (makeUnit o.toCompileOptions t.file span).run s.work = r at hfst hfiles ⊢
    obtain ⟨made, w⟩ := r
    dsimp only at hfst hfiles ⊢
    cases made with
    | ok u =>
      refine ⟨_, _, hfiles ▸ .compiled hstage hfst.symm, rfl, s.failure_orElse_none.symm, none, ?_⟩
      simp only [Task.news, hstage]
      rfl
    | error e =>
      refine ⟨_, _, hfiles ▸ .refused hstage hfst.symm, rfl, rfl, some e.message, ?_⟩
      simp only [Task.news, hstage]
      rfl
  · rename_i span u hstage
    have hfiles := files_keepUnit o.toCompileOptions t.file span u s.work
    exact ⟨_, _, leadsTo_takeUnit rfl rfl rfl (.inr ⟨span, hstage⟩) (hfiles ▸ .kept hstage)⟩
  · rename_i u hstage
    exact exists_leadsTo_writeTask o baseDir s i hstage
  · rename_i hstage
    refine ⟨_, _, .rested hstage, Array.ext_getElem? fun j => ?_, s.failure_orElse_none.symm,
      none, ?_⟩
    · rw [Array.getElem?_setIfInBounds]
      split
      · rename_i hij
        obtain ⟨hi, -⟩ := Array.getElem?_eq_some_iff.mp ht
        rw [← hij, ht, if_pos hi]
      · rfl
    · simp only [Task.news, hstage]
      rfl

theorem step_cases (o : BuildOptions) (baseDir : Bytes) (parent : UInt64) (s : BuildState)
    (i : Nat) :
    s.tasks[i]? = none ∧ s.step o baseDir parent i = s ∨
      ∃ t trouble t', s.tasks[i]? = some t ∧
        s.LeadsTo o baseDir i t (s.step o baseDir parent i) trouble t' := by
  unfold step
  cases ht : s.tasks[i]? with
  | none => exact .inl ⟨rfl, rfl⟩
  | some t =>
    obtain ⟨trouble, t', hleads⟩ := exists_leadsTo o baseDir parent ht
    exact .inr ⟨t, trouble, t', rfl, hleads⟩

theorem LeadsTo.getElem? {s' : BuildState} {trouble : Option BuildFailure} {t' : Task}
    (h : s.LeadsTo o baseDir i t s' trouble t') (ht : s.tasks[i]? = some t) (j : Nat) :
    s'.tasks[j]? = if i = j then some t' else s.tasks[j]? := by
  rw [h.tasks, Array.getElem?_setIfInBounds, if_pos (Array.getElem?_eq_some_iff.mp ht).1]

/-- What all moves keep holds of all tasks behind a schedule. -/
theorem forall_tasks_run {p : Task → Prop}
    (hmoves : ∀ t t', t.Moves o baseDir t' → p t → p t') (parent : UInt64) (schedule : List Nat)
    (hs : ∀ t ∈ s.tasks, p t) : ∀ t ∈ (s.run o baseDir parent schedule).tasks, p t := by
  induction schedule generalizing s with
  | nil => exact hs
  | cons i schedule ih =>
    refine ih ?_
    obtain ⟨-, hsame⟩ | ⟨t, _, t', ht, hleads⟩ := step_cases o baseDir parent s i
    · rw [hsame]
      exact hs
    · rw [hleads.tasks]
      intro x hx
      rcases Array.mem_or_eq_of_mem_setIfInBounds hx with hx | rfl
      · exact hs x hx
      · exact hmoves t _ hleads.goes.moves (hs t (Array.mem_of_getElem? ht))

/-- A build without a failure had none at any step. -/
theorem failure_of_step {parent : UInt64} (h : (s.step o baseDir parent i).failure = none) :
    s.failure = none := by
  obtain ⟨-, hsame⟩ | ⟨t, trouble, t', -, hleads⟩ := step_cases o baseDir parent s i
  · rwa [hsame] at h
  · rw [hleads.failure] at h
    cases hfailure : s.failure with
    | none => rfl
    | some e => simp [hfailure] at h

theorem failure_of_run {parent : UInt64} {schedule : List Nat}
    (h : (s.run o baseDir parent schedule).failure = none) : s.failure = none := by
  induction schedule generalizing s with
  | nil => exact h
  | cons i schedule ih => exact failure_of_step (ih h)

/-! ### The end of a schedule -/

theorem size_run (o : BuildOptions) (baseDir : Bytes) (parent : UInt64) (schedule : List Nat)
    (s : BuildState) : (s.run o baseDir parent schedule).tasks.size = s.tasks.size := by
  induction schedule generalizing s with
  | nil => rfl
  | cons i schedule ih =>
    refine (ih (s.step o baseDir parent i)).trans ?_
    obtain ⟨-, hsame⟩ | ⟨t, _, t', -, hleads⟩ := step_cases o baseDir parent s i
    · rw [hsame]
    · rw [hleads.tasks, Array.size_setIfInBounds]

/-- Every turn of a task takes it one step on. -/
theorem remaining_run (parent : UInt64) (schedule : List Nat) (ht : s.tasks[i]? = some t) :
    ∃ t', (s.run o baseDir parent schedule).tasks[i]? = some t' ∧
      t'.stage.remaining ≤ t.stage.remaining - schedule.count i := by
  induction schedule generalizing s t with
  | nil => exact ⟨t, ht, Nat.le_refl _⟩
  | cons j schedule ih =>
    have hrun : s.run o baseDir parent (j :: schedule) =
      (s.step o baseDir parent j).run o baseDir parent schedule := rfl
    rw [hrun, List.count_cons]
    obtain ⟨hnone, hsame⟩ | ⟨t₁, _, t₂, ht₁, hleads⟩ := step_cases o baseDir parent s j
    · have hij : j ≠ i := fun heq => by simp [← heq, hnone] at ht
      rw [← hsame] at ht
      simpa [hij] using ih ht
    · have hnext := hleads.getElem? ht₁ i
      by_cases hij : j = i
      · subst hij
        obtain rfl := Option.some.inj (ht.symm.trans ht₁)
        rw [if_pos rfl] at hnext
        obtain ⟨t', ht', hless⟩ := ih hnext
        have hturn := hleads.goes.remaining
        refine ⟨t', ht', ?_⟩
        simp only [beq_self_eq_true, if_true]
        omega
      · rw [if_neg hij, ht] at hnext
        simpa [hij] using ih hnext

end BuildState

/-- The state that a build ends in, in front of its last event. -/
def reached (schedule : List Nat) (o : BuildOptions) (baseDir : Bytes) (files : List Bytes)
    (w : Workspace) : BuildState :=
  let (span, w) := (do
    let span ← Work.begin .driver (utf8 "build") 0
    Work.setExtra span (utf8 "files") (decimal files.length) : Work Trace.OpenSpan).run w
  let tasks := (loadTasks w.files { baseDir := baseDir } files).2
  ({ work := w, tasks := tasks.toArray, events := (openingEvents files).reverse } :
    BuildState).run o baseDir span.id schedule

/-- What a build yields is read off the state that it ends in. -/
theorem buildWith_reached (schedule : List Nat) (o : BuildOptions) (baseDir : Bytes)
    (files : List Bytes) (w : Workspace) :
    let r := ((buildWith schedule o baseDir files).run w).1
    let s := reached schedule o baseDir files w
    r.units = s.tasks.toList.map Task.unit ∧
      r.written = s.tasks.toList.filterMap Task.written ∧ r.failure = s.failure ∧
      r.events = s.events.reverse ++ [⟨[], .build, if wentWell s then .done else .error,
        s.failure.map BuildFailure.message⟩] :=
  ⟨rfl, rfl, rfl, List.reverse_cons⟩

end ThreeAddress.Build
