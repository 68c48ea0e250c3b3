import ThreeAddress.Proofs.Build.Schedules
import ThreeAddress.Proofs.Progress.Board

/-!
# What a build tells

Whatever the schedule, a task tells its way from one stage to the next, so the events about a file
follow a course that ends as the task does. Together with the events in front of the build and
behind it they are all that is told, and a board that is fed with them shows how far every file is.

## Main definitions

* `TaskStage.told`, `Task.Told` : what a task has told so far.
* `BuildState.Tells` : what has been told between the events in front of a build and now.

## Main results

* `Task.Told.goes` : a step tells what the new stage of the task asks for.
* `BuildState.Tells.run` : so does a whole schedule.
* `buildWith_events` : what a build tells, and what a board makes of it.
-/

namespace ThreeAddress.Build

open Progress (Board Course Event eventsOf Item Label Stage Status)

variable {o : BuildOptions} {baseDir : Bytes} {fs fs' : FileSystem} {t t' : Task}
  {trouble : Option BuildFailure}

/-! ### Units -/

/-- A unit that was taken from the store has no errors. -/
theorem failed_ofRecord (o : CompileOptions) (f : SourceFile) (r : CacheRecord) :
    (CompiledUnit.ofRecord o f r).failed = false := by
  simp [CompiledUnit.failed, CompiledUnit.ofRecord, Bag.hasErrors, Bag.new]

/-- A unit that was compiled was not taken from the store. -/
theorem cached_of_compileSource {o : CompileOptions} {f : SourceFile} {u : CompiledUnit}
    (h : (compileSource o f).1 = .ok u) : u.cached = false := by
  rw [compileSource_eq] at h
  obtain rfl := Except.ok.inj h
  rfl

/-- The unit of a file that could not be loaded has errors. -/
theorem failed_unloaded (o : CompileOptions) (f : SourceFile) (e : FileError) :
    (CompiledUnit.unloaded o f e).failed = true := by
  have hroom : (Bag.new o.maxDiagnostics).hasRoom = true :=
    decide_eq_true (Bag.limit_new_pos o.maxDiagnostics)
  rw [CompiledUnit.failed, CompiledUnit.unloaded, Bag.add, if_pos hroom, Bag.hasErrors_eq_true]
  exact ⟨_, Array.mem_toList_iff.mpr (Array.mem_push_self), rfl⟩

/-- A unit with errors was not taken from the store. -/
def Task.FailsAfresh (o : BuildOptions) (t : Task) : Prop :=
  t.Coherent o ∧ ∀ u, t.unit = some u → u.failed = true → u.cached = false

theorem Task.FailsAfresh.moves (h : t.FailsAfresh o) (hmoves : t.Moves o baseDir t') :
    t'.FailsAfresh o := by
  refine ⟨h.1.moves hmoves, ?_⟩
  have hoffers {u : CompiledUnit} (hu : t.Offers o u) (hfailed : u.failed = true) :
      u.cached = false := by
    rcases hu with ⟨span, r, -, rfl⟩ | ⟨span, hstage⟩
    · rw [failed_ofRecord] at hfailed
      cases hfailed
    · exact cached_of_compileSource (h.1.compiled span u hstage)
  cases hmoves with
  | unloaded hstage he =>
    rintro _ ⟨⟩ _
    rfl
  | refused hu hfailed | accepted hu hfailed | done hu hfailed =>
    rintro _ ⟨⟩ hfailed'
    exact hoffers hu hfailed'
  | _ => exact h.2

/-! ### Tasks -/

/-- What a task has told at a stage that is not its last. -/
def TaskStage.told : TaskStage → List (Stage × Status)
  | .waiting | .finished => []
  | .begun _ | .missing _ | .compiled _ _ => [(.compile, .working)]
  | .writing _ => [(.compile, .working), (.write, .working)]

/-- What a task can have told, in a build that has or has not failed. -/
inductive Task.Told (t : Task) (broken : Bool) : List (Stage × Status) → Prop where
  /-- It is on its way. -/
  | pending (hstage : t.stage ≠ .finished) : Told t broken t.stage.told
  /-- It was not begun. -/
  | never (hstage : t.stage = .finished) (hbroken : broken = true) : Told t broken []
  /-- It could not be loaded. -/
  | unloaded {u : CompiledUnit} (hstage : t.stage = .finished) (hunit : t.unit = some u)
      (hfailed : u.failed = true) : Told t broken [(.compile, .error)]
  /-- Its code could not be emitted. -/
  | refused (hstage : t.stage = .finished) (hbroken : broken = true) :
      Told t broken [(.compile, .working), (.compile, .error)]
  /-- There is a unit, and its code is not to be written. -/
  | compiled {u : CompiledUnit} (hstage : t.stage = .finished) (hunit : t.unit = some u) :
      Told t broken [(.compile, .working), (.compile, u.verdict)]
  /-- Its code could not be written. -/
  | unwritten (hstage : t.stage = .finished) (hbroken : broken = true) :
      Told t broken [(.compile, .working), (.write, .working), (.write, .error)]
  /-- Its code was written. -/
  | written {u : CompiledUnit} (hstage : t.stage = .finished) (hunit : t.unit = some u)
      (hfailed : u.failed = false) :
      Told t broken [(.compile, .working), (.write, .working), (.compile, u.verdict)]

namespace Task.Told

variable {broken broken' : Bool} {news : List (Stage × Status)}

theorem eq_told (h : t.Told broken news) (hstage : t.stage ≠ .finished) : news = t.stage.told := by
  cases h with
  | pending => rfl
  | _ => exact absurd ‹t.stage = .finished› hstage

/-- A failure of the build takes nothing back. -/
theorem mono (h : t.Told broken news) (himp : broken = true → broken' = true) :
    t.Told broken' news := by
  cases h with
  | pending hstage => exact .pending hstage
  | never hstage hbroken => exact .never hstage (himp hbroken)
  | unloaded hstage hunit hfailed => exact .unloaded hstage hunit hfailed
  | refused hstage hbroken => exact .refused hstage (himp hbroken)
  | compiled hstage hunit => exact .compiled hstage hunit
  | unwritten hstage hbroken => exact .unwritten hstage (himp hbroken)
  | written hstage hunit hfailed => exact .written hstage hunit hfailed

theorem verdict_of_clean {u : CompiledUnit} (h : u.failed = false) : u.verdict = u.ending := by
  rw [CompiledUnit.verdict, h]
  rfl

/-- A unit is taken up, and its task tells so. -/
theorem taken (h : t.Told broken news) {u : CompiledUnit} (hu : t.Offers o u) :
    (t.taken o u).Told broken (news ++ t.news (t.taken o u) none) := by
  have hworking : news = [(.compile, .working)] := by
    have hpending := h.eq_told
    rcases hu with ⟨span, r, hstage, -⟩ | ⟨span, hstage⟩ <;> rw [hstage] at hpending <;>
      exact hpending (by simp)
  rw [hworking, hu.news_taken]
  by_cases hfailed : u.failed = true
  · have hverdict : u.verdict = .error := if_pos hfailed
    rw [if_pos hfailed, ← hverdict]
    exact .compiled (if_pos hfailed) rfl
  · have hverdict := verdict_of_clean (Bool.eq_false_iff.mpr hfailed)
    rw [if_neg hfailed]
    by_cases hout : o.outDir ≠ []
    · have hstage : (t.taken o u).stage = .writing u := (if_neg hfailed).trans (if_pos hout)
      have hpending : (t.taken o u).Told broken (t.taken o u).stage.told :=
        .pending (by simp [hstage])
      rw [if_pos hout]
      rwa [hstage] at hpending
    · rw [if_neg hout, ← hverdict]
      exact .compiled ((if_neg hfailed).trans (if_neg hout)) rfl

/-- A step tells what the new stage of the task asks for. -/
theorem goes (h : t.Told broken news) (hcoherent : t.Coherent o)
    (hgoes : t.Goes o baseDir fs trouble fs' t') :
    t'.Told (broken || trouble.isSome) (news ++ t.news t' trouble) := by
  have hpending := h.eq_told
  cases hgoes with
  | calledOff hstage =>
    rw [hpending (by simp [hstage]), Task.news, hstage]
    exact .never rfl (Bool.or_true _)
  | unloaded hstage he =>
    rw [hpending (by simp [hstage]), Task.news, hstage]
    exact .unloaded rfl rfl (failed_unloaded _ _ _)
  | begun span hstage he =>
    rw [hpending (by simp [hstage]), Task.news, hstage]
    exact .pending (by simp)
  | found hstage hr =>
    rw [Option.isSome_none, Bool.or_false]
    exact h.taken (.inl ⟨_, _, hstage, rfl⟩)
  | missing hstage hnone =>
    rw [hpending (by simp [hstage]), Task.news, hstage]
    exact .pending (by simp)
  | compiled hstage hu =>
    rw [hpending (by simp [hstage]), Task.news, hstage]
    exact .pending (by simp)
  | refused hstage he =>
    rw [hpending (by simp [hstage]), Task.news, hstage]
    exact .refused rfl (Bool.or_true _)
  | kept hstage =>
    rw [Option.isSome_none, Bool.or_false]
    exact h.taken (.inr ⟨_, hstage⟩)
  | @written u _ hstage hrun =>
    obtain ⟨hunit, hclean⟩ := hcoherent.writing _ hstage
    have hwritten : Task.Told { t with
        written := some (outputPath baseDir o.outDir t.path), stage := .finished } broken _ :=
      .written rfl hunit hclean
    rw [hpending (by simp [hstage]), Task.news, hstage, Option.isSome_none, Bool.or_false]
    rwa [verdict_of_clean hclean] at hwritten
  | unwritten hstage hrun =>
    rw [hpending (by simp [hstage]), Task.news, hstage]
    exact .unwritten rfl (Bool.or_true _)
  | rested hstage =>
    have hnews : t.news t none = [] := by rw [Task.news, hstage]
    rw [hnews, List.append_nil, Option.isSome_none, Bool.or_false]
    exact h

/-- A task that is finished has told a course. -/
theorem course (h : t.Told broken news) (hstage : t.stage = .finished) : Course news := by
  have hending (u : CompiledUnit) : u.ending = .done ∨ u.ending = .cached := by
    unfold CompiledUnit.ending
    cases u.cached
    · exact .inl rfl
    · exact .inr rfl
  cases h with
  | pending hpending => exact absurd hstage hpending
  | never => exact .never
  | unloaded => exact .unloaded
  | refused => exact .refused
  | @compiled u =>
    unfold CompiledUnit.verdict
    split
    · exact .refused
    · exact .compiled (hending u)
  | unwritten => exact .unwritten
  | @written u _ _ hfailed =>
    rw [verdict_of_clean hfailed]
    exact .written (hending u)

/-- Without a failure of the build, the last thing that a finished task has told is the verdict on
its unit. -/
theorem exists_verdict (h : t.Told false news) (hstage : t.stage = .finished) :
    ∃ front stage u, t.unit = some u ∧ news = front ++ [(stage, u.verdict)] := by
  cases h with
  | pending hpending => exact absurd hstage hpending
  | @unloaded u _ hunit hfailed =>
    have hverdict : u.verdict = .error := if_pos hfailed
    exact ⟨[], .compile, u, hunit, by rw [hverdict]; rfl⟩
  | compiled _ hunit => exact ⟨[(.compile, .working)], .compile, _, hunit, rfl⟩
  | written _ hunit =>
    exact ⟨[(.compile, .working), (.write, .working)], .compile, _, hunit, rfl⟩
  | never _ hbroken | refused _ hbroken | unwritten _ hbroken => cases hbroken

end Task.Told

/-! ### Builds -/

/-- Between the events in front of a build and now the given ones have been told: they are about
files, and every task has told what its stage asks for. -/
structure BuildState.Tells (o : BuildOptions) (files : List Bytes) (opening middle : List Event)
    (s : BuildState) : Prop where
  /-- What has been told. -/
  events : s.events = (opening ++ middle).reverse
  /-- No event is about the whole build. -/
  about : ∀ e ∈ middle, e.file ∈ files ∧ e.stage ≠ .build
  /-- The tasks stand for the files. -/
  paths : s.tasks.toList.map Task.path = files
  /-- The tasks are in order. -/
  afresh : ∀ t ∈ s.tasks, t.FailsAfresh o
  /-- The tasks have told their way. -/
  told : ∀ t ∈ s.tasks, t.Told s.failure.isSome ((eventsOf t.path middle).map Event.news)

theorem Task.Goes.path (h : t.Goes o baseDir fs trouble fs' t') : t'.path = t.path := by
  show t'.start.path = t.start.path
  rw [h.start]

theorem Task.stage_ne_of_mem_news {n : Stage × Status} (h : n ∈ t.news t' trouble) :
    n.1 ≠ .build := by
  unfold Task.news at h
  split at h
  · obtain rfl := List.mem_singleton.mp h
    nofun
  · split at h
    · cases h
    · obtain rfl := List.mem_singleton.mp h
      nofun
  · obtain rfl := List.mem_singleton.mp h
    nofun
  · obtain rfl := List.mem_singleton.mp h
    nofun
  · obtain rfl := List.mem_singleton.mp h
    nofun
  · obtain ⟨u, -, rfl⟩ := List.mem_map.mp h
    nofun
  · obtain ⟨u, -, rfl⟩ := List.mem_map.mp h
    nofun
  · split at h
    · obtain rfl := List.mem_singleton.mp h
      nofun
    · obtain rfl := List.mem_singleton.mp h
      nofun
  · cases h

namespace BuildState.Tells

variable {files : List Bytes} {opening middle : List Event} {s : BuildState}

/-- Every step tells what the new stage of its task asks for. -/
theorem step (h : s.Tells o files opening middle) (hnodup : files.Nodup) (parent : UInt64)
    (i : Nat) : ∃ said, (s.step o baseDir parent i).Tells o files opening (middle ++ said) := by
  obtain ⟨-, hsame⟩ | ⟨t, trouble, t', ht, hleads⟩ := step_cases o baseDir parent s i
  · rw [hsame]
    exact ⟨[], by rwa [List.append_nil]⟩
  obtain ⟨cause, hevents⟩ := hleads.events
  have hmem : t ∈ s.tasks := Array.mem_of_getElem? ht
  have hpath := hleads.goes.path
  have hfile : files[i]? = some t.path := by
    rw [← h.paths, List.getElem?_map, Array.getElem?_toList, ht, Option.map_some]
  have hfailure : (s.step o baseDir parent i).failure.isSome =
      (s.failure.isSome || trouble.isSome) := by
    rw [hleads.failure]
    cases s.failure <;> rfl
  let said : List Event := (t.news t' trouble).map fun n => ⟨t.path, n.1, n.2, cause⟩
  have hsaid : eventsOf t.path said = said := by
    refine List.filter_eq_self.mpr fun e he => ?_
    obtain ⟨n, -, rfl⟩ := List.mem_map.mp he
    exact decide_eq_true rfl
  have hnews : said.map Event.news = t.news t' trouble := by
    rw [List.map_map]
    exact List.map_id _
  refine ⟨said, ?_, ?_, ?_, ?_, ?_⟩
  · rw [hevents, h.events, ← List.reverse_append, List.append_assoc]
  · refine List.forall_mem_append.mpr ⟨h.about, fun e he => ?_⟩
    obtain ⟨n, hn, rfl⟩ := List.mem_map.mp he
    exact ⟨List.mem_of_getElem? hfile, Task.stage_ne_of_mem_news hn⟩
  · rw [hleads.tasks, Array.toList_setIfInBounds, List.map_set, h.paths, hpath]
    refine List.ext_getElem? fun j => ?_
    rw [List.getElem?_set]
    split
    · rename_i hij
      rw [← hij, hfile, if_pos (List.getElem?_eq_some_iff.mp hfile).1]
    · rfl
  · rw [hleads.tasks]
    intro x hx
    rcases Array.mem_or_eq_of_mem_setIfInBounds hx with hx | rfl
    · exact h.afresh x hx
    · exact (h.afresh t hmem).moves hleads.goes.moves
  · intro x hx
    obtain ⟨j, hj⟩ := Array.getElem?_of_mem hx
    rw [hleads.getElem? ht] at hj
    rw [Progress.eventsOf_append, List.map_append, hfailure]
    split at hj
    · obtain rfl := Option.some.inj hj
      rw [hpath, hsaid, hnews]
      exact (h.told t hmem).goes (h.afresh t hmem).1 hleads.goes
    · -- the events are about another file
      rename_i hij
      have hfile' : files[j]? = some x.path := by
        rw [← h.paths, List.getElem?_map, Array.getElem?_toList, hj, Option.map_some]
      have hne : t.path ≠ x.path := fun heq => hij <|
        (List.getElem?_inj (List.getElem?_eq_some_iff.mp hfile).1 hnodup).mp
          (by rw [hfile, hfile', heq])
      have hnone : eventsOf x.path said = [] := by
        refine List.filter_eq_nil_iff.mpr fun e he => ?_
        obtain ⟨n, -, rfl⟩ := List.mem_map.mp he
        simpa using hne
      rw [hnone, List.map_nil, List.append_nil]
      exact (h.told x (Array.mem_of_getElem? hj)).mono fun hbroken => by rw [hbroken]; rfl

/-- So does every schedule. -/
theorem run (h : s.Tells o files opening middle) (hnodup : files.Nodup) (parent : UInt64)
    (schedule : List Nat) :
    ∃ said, (s.run o baseDir parent schedule).Tells o files opening (middle ++ said) := by
  induction schedule generalizing s middle with
  | nil => exact ⟨[], by rwa [List.append_nil]⟩
  | cons i schedule ih =>
    have hstep : ∃ said, (s.step o baseDir parent i).Tells o files opening (middle ++ said) :=
      h.step hnodup parent i
    obtain ⟨said, hstep⟩ := hstep
    obtain ⟨more, hrun⟩ := ih hstep
    exact ⟨said ++ more, by rwa [List.append_assoc] at hrun⟩

end BuildState.Tells

/-- What has been told when a build ends. -/
theorem exists_tells_reached {files : List Bytes} (hnodup : files.Nodup) (schedule : List Nat)
    (o : BuildOptions) (baseDir : Bytes) (w : Workspace) :
    ∃ middle, (reached schedule o baseDir files w).Tells o files (openingEvents files) middle := by
  let span := (do
    let span ← Work.begin .driver (utf8 "build") 0
    Work.setExtra span (utf8 "files") (decimal files.length) : Work Trace.OpenSpan).run w
  let tasks := (loadTasks span.2.files { baseDir := baseDir } files).2
  have hstart (t : Task) (ht : t ∈ tasks) : t.stage = .waiting ∧ t.unit = none :=
    ⟨congrArg Task.stage (start_loadTasks _ _ files t ht).symm,
      congrArg Task.unit (start_loadTasks _ _ files t ht).symm⟩
  have hbegin : BuildState.Tells o files (openingEvents files) []
      ⟨span.2, tasks.toArray, (openingEvents files).reverse, none⟩ := by
    refine ⟨by simp, nofun, path_loadTasks _ _ files, fun t ht => ?_, fun t ht => ?_⟩
    · have ht := List.mem_toArray.mp ht
      refine ⟨coherent_loadTasks _ _ files t ht, fun u hu => ?_⟩
      rw [(hstart t ht).2] at hu
      cases hu
    · have hwaiting := (hstart t (List.mem_toArray.mp ht)).1
      have hpending : t.Told false t.stage.told := .pending (by simp [hwaiting])
      rw [hwaiting] at hpending
      exact hpending
  exact hbegin.run hnodup _ schedule

/-- A build goes well if it does not fail and no unit has errors. -/
theorem wentWell_iff (s : BuildState) : wentWell s = true ↔
    s.failure = none ∧ ∀ u, some u ∈ s.tasks.toList.map Task.unit → u.failed = false := by
  rw [wentWell, Bool.and_eq_true, Option.isNone_iff_eq_none, Bool.not_eq_true', Array.any_eq_false']
  refine and_congr_right fun _ => ⟨fun h u hu => ?_, fun h t ht => ?_⟩
  · obtain ⟨t, ht, hunit⟩ := List.mem_map.mp hu
    have := h t (Array.mem_toList_iff.mp ht)
    rw [hunit] at this
    exact Bool.eq_false_iff.mpr this
  · cases hunit : t.unit with
    | none => simp
    | some u =>
      have := h u (List.mem_map.mpr ⟨t, Array.mem_toList_iff.mpr ht, hunit⟩)
      simp [this]

/-! ### Boards -/

section Log

variable {files : List Bytes} {f : Bytes}

/-- In front of a build every file is told to wait. -/
theorem eventsOf_openingEvents (hnodup : files.Nodup) (hf : f ∈ files) (hempty : [] ∉ files) :
    (eventsOf f (openingEvents files)).map Event.news = [(.compile, .queued)] := by
  have hne : ([] : Bytes) ≠ f := fun h => hempty (h ▸ hf)
  have hqueued : eventsOf f (files.map fun g => ⟨g, .compile, .queued, none⟩) =
      [⟨f, .compile, .queued, none⟩] := by
    have hcount : files.filter (fun g => decide (g = f)) = [f] := by
      rw [← List.replicate_one, ← List.count_eq_one_of_mem hnodup hf]
      exact List.filter_eq f
    rw [eventsOf, List.filter_map]
    exact congrArg _ hcount
  rw [openingEvents, Progress.eventsOf_append, hqueued]
  simp [eventsOf, hne, Event.news]

/-- What is told of a file in a whole build. -/
theorem eventsOf_log (hnodup : files.Nodup) (hempty : [] ∉ files) (hf : f ∈ files)
    (middle : List Event) {last : Event} (hlast : last.file = []) :
    (eventsOf f (openingEvents files ++ middle ++ [last])).map Event.news =
      (.compile, .queued) :: (eventsOf f middle).map Event.news := by
  have hne : ([] : Bytes) ≠ f := fun h => hempty (h ▸ hf)
  have hnone : eventsOf f [last] = [] := by simp [eventsOf, hlast, hne]
  rw [Progress.eventsOf_append, Progress.eventsOf_append, hnone, List.append_nil, List.map_append,
    eventsOf_openingEvents hnodup hf hempty]
  rfl

/-- The label of a file whose unit is there. -/
def CompiledUnit.label (u : CompiledUnit) : Label :=
  if u.failed then .error else if u.cached then .cached else .done

/-- If a unit with errors is not from the store, its label says which of both it is. -/
theorem CompiledUnit.label_eq_iff {u : CompiledUnit} (h : u.failed = true → u.cached = false) :
    (u.label = .error ↔ u.failed = true) ∧ (u.label = .cached ↔ u.cached = true) ∧
      (u.label = .done ↔ u.failed = false ∧ u.cached = false) := by
  rw [label]
  cases hfailed : u.failed
  · cases u.cached <;> simp
  · simp [h hfailed]

theorem labelOf?_verdict (stage : Stage) (u : CompiledUnit) :
    Progress.labelOf? (stage, u.verdict) = some u.label := by
  unfold CompiledUnit.verdict CompiledUnit.ending CompiledUnit.label
  cases u.failed
  · cases u.cached <;> rfl
  · rfl

/-- A verdict is the last label. -/
theorem getLast_labels (front : List (Stage × Status)) (stage : Stage) (u : CompiledUnit) :
    (Progress.labels (front ++ [(stage, u.verdict)])).getLast (List.cons_ne_nil _ _) =
      u.label := by
  simp [Progress.labels, List.filterMap_append, labelOf?_verdict]

/-- Every file of a build that has ended has told a course, and nothing only if the build has
failed. -/
theorem course_of_tells {s : BuildState} {opening middle : List Event}
    (h : s.Tells o files opening middle) (hend : ∀ t ∈ s.tasks, t.stage = .finished)
    (hf : f ∈ files) : Course ((eventsOf f middle).map Event.news) ∧
      (eventsOf f middle = [] → s.failure ≠ none) := by
  rw [← h.paths] at hf
  obtain ⟨t, ht, rfl⟩ := List.mem_map.mp hf
  have ht := Array.mem_toList_iff.mp ht
  refine ⟨(h.told t ht).course (hend t ht), fun hnone hfailure => ?_⟩
  have htold := h.told t ht
  rw [hfailure, hnone] at htold
  obtain ⟨front, stage, u, -, hnews⟩ := htold.exists_verdict (hend t ht)
  simp at hnews

/-- If a build has not failed, every file has told the verdict on its unit last. -/
theorem exists_verdict_of_tells {s : BuildState} {opening middle : List Event}
    (h : s.Tells o files opening middle) (hend : ∀ t ∈ s.tasks, t.stage = .finished)
    (hfailure : s.failure = none) {k : Nat} (hk : files[k]? = some f) :
    ∃ front stage u, (s.tasks.toList.map Task.unit)[k]? = some (some u) ∧
      (u.failed = true → u.cached = false) ∧
      (eventsOf f middle).map Event.news = front ++ [(stage, u.verdict)] := by
  rw [← h.paths, List.getElem?_map, Option.map_eq_some_iff] at hk
  obtain ⟨t, hk, rfl⟩ := hk
  have ht : t ∈ s.tasks := Array.mem_toList_iff.mp (List.mem_of_getElem? hk)
  have htold := h.told t ht
  rw [hfailure] at htold
  obtain ⟨front, stage, u, hunit, hnews⟩ := htold.exists_verdict (hend t ht)
  exact ⟨front, stage, u, by rw [List.getElem?_map, hk, Option.map_some, hunit],
    (h.afresh t ht).2 u hunit, hnews⟩

end Log

/-- A build of different files first tells that every file waits, in their order, and that it works;
last it tells how it ended, which is well if it did not fail and no unit has errors. In between
every file takes a course, whatever the schedule. A board that is fed with this, in any order that
keeps the events of each file in theirs, only shows files going ahead, and those that are finished
as they are; behind a build that did not fail it shows for every file what has become of its unit.
-/
theorem buildWith_events {schedule : List Nat} {files : List Bytes} {w : Workspace}
    (hnodup : files.Nodup) (hempty : [] ∉ files)
    (hend : Completes schedule o baseDir files w) :
    let r := ((buildWith schedule o baseDir files).run w).1
    ∃ (middle : List Event) (status : Status) (cause : Option Bytes),
      r.events = openingEvents files ++ middle ++ [⟨[], .build, status, cause⟩] ∧
      (status = .done ∨ status = .error) ∧
      (status = .done ↔ r.failure = none ∧ ∀ u, some u ∈ r.units → u.failed = false) ∧
      (∀ e ∈ middle, e.file ∈ files ∧ e.stage ≠ .build) ∧
      (∀ f ∈ files, Course ((eventsOf f middle).map Event.news) ∧
        (eventsOf f middle = [] → r.failure ≠ none)) ∧
      ∀ mixed : List Event, (∀ f ∈ files, eventsOf f mixed = eventsOf f middle) →
        ∀ title : Bytes,
        let log := openingEvents files ++ mixed ++ [⟨[], .build, status, cause⟩]
        let shown (front : List Event) := ((Board.start title files).follow front).items
        (shown log).map Item.path = files ∧
        (∀ front behind, front <+: behind → behind <+: log → ∀ (k : Nat) (i j : Item),
          (shown front)[k]? = some i → (shown behind)[k]? = some j →
          i.path = j.path ∧ i.label.rank ≤ j.label.rank ∧
            (i.label.rank = 3 → j.label = i.label)) ∧
        (r.failure = none → ∀ (k : Nat) (i : Item), (shown log)[k]? = some i →
          ∃ u, r.units[k]? = some (some u) ∧ (i.label = .error ↔ u.failed = true) ∧
            (i.label = .cached ↔ u.cached = true) ∧
            (i.label = .done ↔ u.failed = false ∧ u.cached = false)) := by
  intro r
  obtain ⟨middle, htells⟩ := exists_tells_reached hnodup schedule o baseDir w
  obtain ⟨hunits, -, hfailure, hevents⟩ := buildWith_reached schedule o baseDir files w
  have hcourse := fun f (hf : f ∈ files) => course_of_tells htells hend hf
  refine ⟨middle, if wentWell (reached schedule o baseDir files w) then .done else .error,
    (reached schedule o baseDir files w).failure.map BuildFailure.message, ?_, ?_, ?_,
    htells.about, ?_, fun mixed hmixed title => ?_⟩
  · exact hevents.trans (by rw [htells.events, List.reverse_reverse])
  · split
    · exact .inl rfl
    · exact .inr rfl
  · rw [hfailure, hunits, ← wentWell_iff]
    cases wentWell (reached schedule o baseDir files w) <;> simp
  · rw [hfailure]
    exact hcourse
  · intro log shown
    have hlog (f : Bytes) (hf : f ∈ files) : (eventsOf f log).map Event.news =
        (.compile, .queued) :: (eventsOf f middle).map Event.news := by
      rw [← hmixed f hf]
      exact eventsOf_log hnodup hempty hf mixed rfl
    have hfollows : Progress.FollowsCourses files log := fun f hf =>
      ⟨_, (hcourse f hf).1, hlog f hf⟩
    refine ⟨?_, fun front behind hfront hbehind k i j hi hj =>
      Board.label_follow_le hnodup hempty hfollows hfront hbehind hi hj, fun hclean k i hi => ?_⟩
    · exact Board.map_path_items_follow hnodup hempty title log
    · rw [hfailure] at hclean
      rw [hunits]
      obtain ⟨hfile, hlabel⟩ := Board.getElem?_items_follow hnodup hempty hi
      obtain ⟨front, stage, u, hunit, hafresh, hnews⟩ :=
        exists_verdict_of_tells htells hend hclean hfile
      have hlast : i.label = u.label := by
        have hverdict := getLast_labels ((.compile, .queued) :: front) stage u
        rw [List.cons_append, ← hnews, ← hlog i.path (List.mem_of_getElem? hfile)] at hverdict
        exact hlabel.trans hverdict
      exact ⟨u, hunit, hlast ▸ CompiledUnit.label_eq_iff hafresh⟩

/-- Paths of three sources. -/
def morePaths : List Bytes :=
  samplePaths ++ [utf8 "/c.ez"]

/-- Of three sources that go on in turns two have code and one is not there: the build does not
fail, but it does not end well, and a board shows which of the three has errors. -/
theorem buildWith_events_inTurns :
    let r := ((buildWith (inTurns 3) (storedOptions (utf8 "/out")) (utf8 "/") morePaths).run
      ⟨codeSources, {}⟩).1
    let shown := ((Board.start (utf8 "build") morePaths).follow r.events).items
    r.failure = none ∧ shown.map Item.label = [.done, .done, .error] ∧
      ∀ (k : Nat) (i : Item), shown[k]? = some i →
        ∃ u, r.units[k]? = some (some u) ∧ (i.label = .error ↔ u.failed = true) ∧
          (i.label = .done ↔ u.failed = false ∧ u.cached = false) := by
  obtain ⟨hclean, hshown⟩ : ((buildWith (inTurns 3) (storedOptions (utf8 "/out")) (utf8 "/")
      morePaths).run ⟨codeSources, {}⟩).1.failure = none ∧
        (((Board.start (utf8 "build") morePaths).follow
          ((buildWith (inTurns 3) (storedOptions (utf8 "/out")) (utf8 "/") morePaths).run
            ⟨codeSources, {}⟩).1.events).items.map Item.label = [.done, .done, .error]) := by
    decide +kernel
  obtain ⟨middle, status, cause, hevents, -, -, -, -, hboard⟩ :=
    buildWith_events (by decide) (by decide)
      (completes_of_count (by decide) (storedOptions (utf8 "/out")) (utf8 "/") ⟨codeSources, {}⟩ :
        Completes (inTurns 3) (storedOptions (utf8 "/out")) (utf8 "/") morePaths ⟨codeSources, {}⟩)
  obtain ⟨-, -, hlabels⟩ := hboard middle (fun _ _ => rfl) (utf8 "build")
  refine ⟨hclean, hshown, fun k i hi => ?_⟩
  rw [hevents] at hi
  obtain ⟨u, hunit, herror, -, hdone⟩ := hlabels hclean k i hi
  exact ⟨u, hunit, herror, hdone⟩

end ThreeAddress.Build
