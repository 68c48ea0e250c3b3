import ThreeAddress.CommandLine.Run
import ThreeAddress.Proofs.Analysis.Emission
import ThreeAddress.Proofs.Build.Steps
import ThreeAddress.Proofs.Diagnostic.Bag

/-!
# Units with errors

A unit fails if its bag holds an error. A bag holds the first diagnostics that it was handed, so an
error is missed if as many warnings as the bag takes came up in front of it. A unit that does fail
is never taken for a clean one: whatever the schedule, nothing is written or printed for it, and its
build is told to have failed.

## Main definitions

* `KeepsError` : an error is among the diagnostics that a bag keeps of a file.
* `Task.Coherent` : what holds of every task at every moment of a build.

## Main results

* `failed_iff_keepsError` : when a unit fails, and what a build makes of one that does.
-/

namespace ThreeAddress.Build

/-! ### Units -/

/-- Compiling a file always yields a unit. -/
theorem compileSource_eq (o : CompileOptions) (f : SourceFile) :
    (compileSource o f).1 = .ok (.ofOutcome o f (Analysis.run o.limits {} f.lexemes)) := by
  have hfailure : (Analysis.run o.limits {} f.lexemes).failure = none :=
    Analysis.failure_run .recorder
  simp only [compileSource, hfailure]

/-- An error is among the first diagnostics about a file, as many as a bag keeps. -/
def KeepsError (o : CompileOptions) (f : SourceFile) : Prop :=
  ∃ d ∈ (handed (Analysis.run o.limits {} f.lexemes).reports).take
    (Bag.new o.maxDiagnostics).limit.toNat, d.severity.isError = true

theorem failed_ofOutcome (o : CompileOptions) (f : SourceFile) :
    (CompiledUnit.ofOutcome o f (Analysis.run o.limits {} f.lexemes)).failed = true ↔
      KeepsError o f := by
  rw [CompiledUnit.failed, CompiledUnit.ofOutcome, Bag.hasErrors_sort, Bag.hasErrors_eq_true,
    Outcome.items_deliver]
  rfl

/-! ### Tasks -/

/-- What holds of a task at every moment of a build. -/
structure Task.Coherent (o : BuildOptions) (t : Task) : Prop where
  /-- Only a unit without errors is to be written. -/
  writing : ∀ u, t.stage = .writing u → t.unit = some u ∧ u.failed = false
  /-- A unit just compiled. -/
  compiled : ∀ span u, t.stage = .compiled span u →
    (compileSource o.toCompileOptions t.file).1 = .ok u
  /-- The unit of a loaded file was compiled, unless it was taken from the store. -/
  unit : ∀ u, t.unit = some u → t.loadError = none → u.cached = false →
    (compileSource o.toCompileOptions t.file).1 = .ok u
  /-- Code is written last. -/
  pending : t.stage ≠ .finished → t.written = none
  /-- Code was written for a unit without errors only. -/
  written : ∀ u, t.unit = some u → u.failed = true → t.written = none

variable {o : BuildOptions} {baseDir : Bytes}

theorem Task.Coherent.ofWaiting {t : Task} (hstage : t.stage = .waiting) (hunit : t.unit = none)
    (hwritten : t.written = none) : t.Coherent o where
  writing u h := by simp [hstage] at h
  compiled span u h := by simp [hstage] at h
  unit u h := by simp [hunit] at h
  pending _ := hwritten
  written _ _ _ := hwritten

theorem Task.Coherent.pending_of_offers {t : Task} (h : t.Coherent o) {u : CompiledUnit}
    (hu : t.Offers o u) : t.written = none := by
  rcases hu with ⟨span, r, hstage, -⟩ | ⟨span, hstage⟩
  · exact h.pending (by simp [hstage])
  · exact h.pending (by simp [hstage])

theorem Task.Coherent.unit_of_offers {t : Task} (h : t.Coherent o) {u : CompiledUnit}
    (hu : t.Offers o u) (hcached : u.cached = false) :
    (compileSource o.toCompileOptions t.file).1 = .ok u := by
  rcases hu with ⟨span, r, -, rfl⟩ | ⟨span, hstage⟩
  · cases hcached
  · exact h.compiled span u hstage

/-- A task that moves stays coherent. -/
theorem Task.Coherent.moves {t t' : Task} (h : t.Coherent o) (hmoves : t.Moves o baseDir t') :
    t'.Coherent o := by
  cases hmoves with
  | ended => exact ⟨nofun, nofun, h.unit, nofun, h.written⟩
  | unloaded hstage he =>
    refine ⟨nofun, nofun, fun u _ hnone _ => ?_, nofun, fun u _ _ => ?_⟩
    · simp [he] at hnone
    · exact h.pending (by simp [hstage])
  | begun span hstage =>
    exact ⟨nofun, nofun, h.unit, fun _ => h.pending (by simp [hstage]), h.written⟩
  | missing hstage =>
    exact ⟨nofun, nofun, h.unit, fun _ => h.pending (by simp [hstage]), h.written⟩
  | compiled hstage hu =>
    refine ⟨nofun, ?_, h.unit, fun _ => h.pending (by simp [hstage]), h.written⟩
    rintro _ _ ⟨⟩
    exact hu
  | refused hu hfailed =>
    refine ⟨nofun, nofun, ?_, nofun, fun _ _ _ => h.pending_of_offers hu⟩
    rintro _ ⟨⟩ _ hcached
    exact h.unit_of_offers hu hcached
  | accepted hu hfailed =>
    refine ⟨?_, nofun, ?_, fun _ => h.pending_of_offers hu, fun _ _ _ => h.pending_of_offers hu⟩
    · rintro _ ⟨⟩
      exact ⟨rfl, hfailed⟩
    · rintro _ ⟨⟩ _ hcached
      exact h.unit_of_offers hu hcached
  | done hu hfailed =>
    refine ⟨nofun, nofun, ?_, nofun, fun _ _ _ => h.pending_of_offers hu⟩
    rintro _ ⟨⟩ _ hcached
    exact h.unit_of_offers hu hcached
  | written hstage =>
    obtain ⟨hunit, hclean⟩ := h.writing _ hstage
    refine ⟨nofun, nofun, h.unit, nofun, fun u hu hfailed => ?_⟩
    rw [show t.unit = some u from hu] at hunit
    cases hunit
    rw [hclean] at hfailed
    cases hfailed

theorem coherent_loadTasks (fs : FileSystem) (set : FileSet) (files : List Bytes) :
    ∀ t ∈ (loadTasks fs set files).2, t.Coherent o := by
  induction files generalizing set with
  | nil => exact fun t ht => absurd ht (List.not_mem_nil)
  | cons path rest ih =>
    intro t ht
    rw [loadTasks] at ht
    rcases List.mem_cons.mp ht with rfl | ht
    · exact .ofWaiting rfl rfl rfl
    · exact ih _ t ht

theorem coherent_reached (schedule : List Nat) (files : List Bytes) (w : Workspace) :
    ∀ t ∈ (reached schedule o baseDir files w).tasks, t.Coherent o := by
  refine BuildState.forall_tasks_run (fun t t' hmoves h => h.moves hmoves) _ schedule ?_
  intro t ht
  exact coherent_loadTasks _ _ _ t (List.mem_toArray.mp ht)

/-! ### Builds -/

theorem anyFailed_ne {us : List (Option CompiledUnit)} {u : CompiledUnit} (hu : some u ∈ us)
    (hfailed : u.failed = true) : anyFailed us ≠ .ok false := by
  induction us with
  | nil => cases hu
  | cons x us ih =>
    cases x with
    | none => exact nofun
    | some v =>
      rw [anyFailed]
      split
      · exact nofun
      · rename_i hv
        rcases List.mem_cons.mp hu with heq | hu
        · cases heq
          exact absurd hfailed hv
        · exact ih hu

/-- A failed unit is printed as if it were not there. -/
theorem unitsText_failed {u : CompiledUnit} (hfailed : u.failed = true)
    (us vs : List (Option CompiledUnit)) :
    CommandLine.unitsText (us ++ some u :: vs) = CommandLine.unitsText (us ++ none :: vs) := by
  simp [CommandLine.unitsText, hfailed]

theorem wentWell_eq_false {s : BuildState} {t : Task} (ht : t ∈ s.tasks) {u : CompiledUnit}
    (hu : t.unit = some u) (hfailed : u.failed = true) : wentWell s = false := by
  have hany : (s.tasks.any fun t => t.unit.any CompiledUnit.failed) = true :=
    Array.any_eq_true'.mpr ⟨t, ht, by rw [hu]; exact hfailed⟩
  rw [wentWell, hany]
  exact Bool.and_false _

/-- Compiling a file yields a unit that fails if and only if an error is among the first
diagnostics that its bag is handed, as many as the bag keeps. In a build with any schedule, a unit
that is not taken from the store is that one; nothing is written or printed for a unit that fails,
and the build ends with an error. -/
theorem failed_iff_keepsError (o : BuildOptions) :
    (∀ f, ∃ u, (compileSource o.toCompileOptions f).1 = .ok u ∧
      (u.failed = true ↔ KeepsError o.toCompileOptions f)) ∧
    ∀ (schedule : List Nat) (baseDir : Bytes) (files : List Bytes) (w : Workspace),
      let s := reached schedule o baseDir files w
      let r := ((buildWith schedule o baseDir files).run w).1
      ∀ t ∈ s.tasks, ∀ u, t.unit = some u →
        (t.loadError = none → u.cached = false →
          (compileSource o.toCompileOptions t.file).1 = .ok u) ∧
        (u.failed = true →
          t.written = none ∧ r.failed ≠ .ok false ∧
          (∃ front message, r.events = front ++ [⟨[], .build, .error, message⟩]) ∧
          ∀ us vs, CommandLine.unitsText (us ++ some u :: vs) =
            CommandLine.unitsText (us ++ none :: vs)) := by
  refine ⟨fun f => ⟨_, compileSource_eq _ f, failed_ofOutcome _ f⟩, ?_⟩
  intro schedule baseDir files w s r t ht u hu
  have hcoherent : t.Coherent o := coherent_reached schedule files w t ht
  obtain ⟨hunits, -, -, hevents⟩ := buildWith_reached schedule o baseDir files w
  refine ⟨hcoherent.unit u hu, fun hfailed => ⟨hcoherent.written u hu hfailed, ?_, ?_,
    unitsText_failed hfailed⟩⟩
  · rw [BuildResult.failed, hunits]
    exact anyFailed_ne (List.mem_map.mpr ⟨t, Array.mem_toList_iff.mpr ht, hu⟩) hfailed
  · rw [wentWell_eq_false ht hu hfailed] at hevents
    exact ⟨_, _, hevents⟩

/-! ### An error behind a warning -/

/-- A source with a warning in front of an error. -/
def maskedSource : SourceFile :=
  .ofContent 0 (utf8 "masked.ez") (utf8 "let a: i32; let a: i32; a + b;") 0

/-- With room for both the unit of the source fails. With room for one, the warning takes it, and
the unit is taken for a clean one. -/
theorem failed_iff_keepsError_masked :
    (∃ u, (compileSource {} maskedSource).1 = .ok u ∧ u.failed = true) ∧
      ∃ u, (compileSource { maxDiagnostics := 1 } maskedSource).1 = .ok u ∧ u.failed = false := by
  obtain ⟨u, hu, hfailed⟩ := (failed_iff_keepsError {}).1 maskedSource
  obtain ⟨v, hv, hclean⟩ := (failed_iff_keepsError { maxDiagnostics := 1 }).1 maskedSource
  refine ⟨⟨u, hu, hfailed.mpr ?_⟩, v, hv, Bool.eq_false_iff.mpr fun h => ?_⟩
  · rw [KeepsError]
    decide +kernel
  · have hkept := hclean.mp h
    rw [KeepsError] at hkept
    revert hkept
    decide +kernel

end ThreeAddress.Build
