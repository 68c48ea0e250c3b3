import Mathlib.Data.Finset.Card
import ThreeAddress.Proofs.Analysis.Withholding
import ThreeAddress.Proofs.Build.CacheTransparency
import ThreeAddress.Proofs.Source.Loading

/-!
# Diagnostics that are not counted

Three limits stand between what is found about a file and what is shown of it. The bound on errors
of the analysis withholds errors, the filter of the channel leaves out repeats, and the bag drops
what it has no place for. Only the bag counts what it drops. A wanted number of diagnostics sets
both the bound on errors and the limit of the bag, so the errors behind the bound are neither shown
nor counted, and the remark about diagnostics not shown passes over them: it tells the true number
if there are no more errors than wanted diagnostics.

Repeats have the same `ReportKey`, so what is handed to a bag is counted by the keys.

## Main definitions

* `reportKeys` : diagnostics up to repeats.
* `withheld`, `hidden` : the errors behind a bound, and those of them that repeat nothing told.
* `Build.Misses` : what the bag of a unit misses.

## Main results

* `length_handed` : a bag is handed one diagnostic for each key.
* `card_hidden` : every key is told or hidden.
* `Build.misses_compile` : what the bags miss when a path is compiled.
-/

namespace ThreeAddress

/-! ### Counting by keys -/

/-- The keys of diagnostics: repeats of a diagnostic have the same one. -/
def reportKeys (ds : List Diagnostic) : Finset ReportKey :=
  (ds.map Diagnostic.reportKey).toFinset

theorem reportKeys_cons (d : Diagnostic) (ds : List Diagnostic) :
    reportKeys (d :: ds) = insert d.reportKey (reportKeys ds) := by
  rw [reportKeys, List.map_cons, List.toFinset_cons, reportKeys]

theorem mem_reportKeys_map {k : ReportKey} {rs : List Report} :
    k ∈ reportKeys (rs.map Report.diagnostic) ↔ ∃ r ∈ rs, r.diagnostic.reportKey = k := by
  rw [reportKeys, List.map_map, List.mem_toFinset, List.mem_map]
  rfl

/-- A filter forwards one diagnostic for each key that it has not seen. -/
theorem Dedup.length_filter (r : Dedup) (ds : List Diagnostic) :
    (r.filter ds).length = (reportKeys ds \ r.seen.toFinset).card := by
  induction ds generalizing r with
  | nil => simp [filter, reportKeys]
  | cons d ds ih =>
    rw [filter, reportKeys_cons]
    by_cases hseen : d.reportKey ∈ r.seen
    · have hpass : r.pass d = (false, r) := by simp [pass, hseen]
      rw [hpass, Finset.insert_sdiff_of_mem _ (List.mem_toFinset.mpr hseen)]
      exact ih r
    · have hpass : r.pass d = (true, ⟨d.reportKey :: r.seen⟩) := by simp [pass, hseen]
      have hnew : d.reportKey ∉ r.seen.toFinset := by rwa [List.mem_toFinset]
      have hrest : insert d.reportKey (reportKeys ds) \ r.seen.toFinset =
          insert d.reportKey (reportKeys ds \ insert d.reportKey r.seen.toFinset) := by
        ext k
        simp only [Finset.mem_sdiff, Finset.mem_insert]
        by_cases hk : k = d.reportKey
        · subst hk
          simp [hnew]
        · simp [hk]
      rw [hpass, hrest, Finset.card_insert_of_notMem (by simp), List.length_cons, ih,
        List.toFinset_cons]

/-- A bag is handed one diagnostic for each key. -/
theorem length_handed (rs : List Report) :
    (handed rs).length = (reportKeys (rs.map Report.diagnostic)).card := by
  rw [handed, Dedup.length_filter, List.toFinset_nil, Finset.sdiff_empty]

theorem Outcome.total_deliver (out : Outcome) (n : Int) :
    (out.deliver { dedup := true } (Bag.new n)).total =
      (reportKeys (out.reports.map Report.diagnostic)).card := by
  rw [deliver, Bag.total_addAll, Channel.select_dedup, length_handed]
  exact Nat.zero_add _

/-! ### Errors behind a bound -/

/-- The errors of the analysis behind the first `n`. -/
def withheld (n : Nat) (rs : List Report) : List Report :=
  (rs.filter Report.isCounted).drop n

/-- Everything is told or withheld. -/
theorem mem_iff_keepFirst_or_withheld {n : Nat} {rs : List Report} {r : Report} :
    r ∈ rs ↔ r ∈ keepFirst Report.isCounted n rs ∨ r ∈ withheld n rs := by
  by_cases hr : r.isCounted
  · have hin (l : List Report) : r ∈ l ↔ r ∈ l.filter Report.isCounted := by simp [hr]
    rw [hin rs, hin (keepFirst _ _ _), filter_keepFirst, withheld, ← List.mem_append,
      List.take_append_drop]
  · have hin (l : List Report) : r ∈ l ↔ r ∈ l.filter fun r => !r.isCounted := by simp [hr]
    have hout : r ∉ withheld n rs := fun h => hr (List.mem_filter.mp (List.mem_of_mem_drop h)).2
    rw [hin rs, hin (keepFirst _ _ _), filter_not_keepFirst]
    exact (or_iff_left hout).symm

theorem reportKeys_eq_union_withheld (n : Nat) (rs : List Report) :
    reportKeys (rs.map Report.diagnostic) =
      reportKeys ((withheld n rs).map Report.diagnostic) ∪
        reportKeys ((keepFirst Report.isCounted n rs).map Report.diagnostic) := by
  ext k
  rw [Finset.mem_union, mem_reportKeys_map, mem_reportKeys_map, mem_reportKeys_map]
  constructor
  · rintro ⟨r, hr, hk⟩
    rcases mem_iff_keepFirst_or_withheld.mp hr with htold | hout
    · exact .inr ⟨r, htold, hk⟩
    · exact .inl ⟨r, hout, hk⟩
  · rintro (⟨r, hr, hk⟩ | ⟨r, hr, hk⟩)
    · exact ⟨r, mem_iff_keepFirst_or_withheld.mpr (.inr hr), hk⟩
    · exact ⟨r, mem_iff_keepFirst_or_withheld.mpr (.inl hr), hk⟩

/-- The errors of the analysis behind the first `n`, unless they repeat something that is told. -/
def hidden (n : Nat) (rs : List Report) : Finset ReportKey :=
  reportKeys ((withheld n rs).map Report.diagnostic) \
    reportKeys ((keepFirst Report.isCounted n rs).map Report.diagnostic)

theorem card_hidden (n : Nat) (rs : List Report) :
    (reportKeys ((keepFirst Report.isCounted n rs).map Report.diagnostic)).card +
      (hidden n rs).card = (handed rs).length := by
  rw [length_handed, reportKeys_eq_union_withheld n rs, Nat.add_comm]
  exact Finset.card_sdiff_add_card _ _

/-- Nothing is hidden if there are no more errors than are told. -/
theorem hidden_eq_empty {n : Nat} {rs : List Report} (h : rs.countP Report.isCounted ≤ n) :
    hidden n rs = ∅ := by
  have hnone : withheld n rs = [] := by
    rw [List.countP_eq_length_filter] at h
    exact List.drop_eq_nil_of_le h
  rw [hidden, hnone]
  exact Finset.empty_sdiff _

namespace Build

open Analysis (run countP_told reports_run_of_bound)

variable {o : CompileOptions} {f : SourceFile}

/-! ### Units -/

theorem total_unitOf (o : CompileOptions) (f : SourceFile) :
    (unitOf o f).bag.total =
      (reportKeys ((run o.limits {} f.lexemes).reports.map Report.diagnostic)).card := by
  rw [unitOf, CompiledUnit.ofOutcome, Bag.total_sort, Outcome.total_deliver]

/-- The wanted number of diagnostics is the number of errors that are told. -/
theorem reports_run_limits (hwanted : 0 < o.maxDiagnostics)
    (hint : o.maxDiagnostics.toNat < UInt64.size)
    (hfew : (run {} {} f.lexemes).told.countP Diagnostic.isError < UInt64.size) :
    (run o.limits {} f.lexemes).reports =
      keepFirst Report.isCounted o.maxDiagnostics.toNat (run {} {} f.lexemes).reports := by
  have hlimit : o.limits.maxErrors.toNat = o.maxDiagnostics.toNat :=
    UInt64.toNat_ofNat_of_lt' hint
  have hbound : o.limits.maxErrors ≠ 0 := by
    intro hzero
    rw [hzero] at hlimit
    exact absurd hlimit (Nat.ne_of_lt (Int.pos_iff_toNat_pos.mp hwanted))
  rw [countP_told] at hfew
  rw [← hlimit]
  exact reports_run_of_bound hbound rfl {} f.lexemes ((Nat.zero_add _).symm ▸ hfew)

/-- What is shown of a bag is its diagnostics and the remark about the dropped ones. -/
theorem exists_shown_of_pretty {p : Render.PrettyOptions} {places : Render.Places} {b : Bag}
    {text : Bytes} (h : Render.pretty p places b = .ok text) :
    ∃ shown, b.items.toList.mapM (Render.diagnostic p places) = .ok shown ∧
      text = shown.flatten ++ Render.droppedLine b.dropped := by
  unfold Render.pretty at h
  cases hshown : b.items.toList.mapM (Render.diagnostic p places) with
  | error e =>
    rw [hshown] at h
    cases h
  | ok shown =>
    rw [hshown] at h
    cases h
    exact ⟨shown, rfl, rfl⟩

/-- What the bag of a unit misses, compared with the bag of the unit for which no number of
diagnostics is wanted. -/
structure Misses (wanted : Nat) (found : Outcome) (u v : CompiledUnit) : Prop where
  /-- The other bag is handed everything that is found. -/
  all : v.bag.total = (handed found.reports).length
  /-- The hidden errors are missed and nothing else. -/
  total : u.bag.total + (hidden wanted found.reports).card = v.bag.total
  /-- Nothing is missed if there are no more errors than wanted diagnostics. -/
  few : found.told.countP Diagnostic.isError ≤ wanted → u.bag.total = v.bag.total
  /-- The remark behind the diagnostics shown tells how many more there are, hidden ones left
  aside. -/
  remark : ∀ p places text, Render.pretty p places u.bag = .ok text →
    ∃ shown, u.bag.items.toList.mapM (Render.diagnostic p places) = .ok shown ∧
      text = shown.flatten ++ Render.droppedLine
        (v.bag.total - u.bag.size - (hidden wanted found.reports).card)

/-- Analysing a file for a wanted number of diagnostics misses the hidden errors. -/
theorem misses_unitOf (hwanted : 0 < o.maxDiagnostics)
    (hint : o.maxDiagnostics.toNat < UInt64.size)
    (hfew : (run {} {} f.lexemes).told.countP Diagnostic.isError < UInt64.size) :
    Misses o.maxDiagnostics.toNat (run {} {} f.lexemes) (unitOf o f)
      (unitOf { o with maxDiagnostics := 0 } f) := by
  have hall : (unitOf { o with maxDiagnostics := 0 } f).bag.total =
      (handed (run {} {} f.lexemes).reports).length := by
    rw [total_unitOf, length_handed]
    rfl
  have htotal : (unitOf o f).bag.total +
      (hidden o.maxDiagnostics.toNat (run {} {} f.lexemes).reports).card =
        (unitOf { o with maxDiagnostics := 0 } f).bag.total := by
    rw [total_unitOf, reports_run_limits hwanted hint hfew, card_hidden, hall]
  refine ⟨hall, htotal, fun hle => ?_, fun p places text htext => ?_⟩
  · rw [countP_told] at hle
    rw [← htotal, hidden_eq_empty hle, Finset.card_empty, Nat.add_zero]
  · have hdropped : (unitOf { o with maxDiagnostics := 0 } f).bag.total -
        (unitOf o f).bag.size - (hidden o.maxDiagnostics.toNat (run {} {} f.lexemes).reports).card =
          (unitOf o f).bag.dropped := by
      rw [← htotal, Bag.total]
      omega
    rw [hdropped]
    exact exists_shown_of_pretty htext

/-- Compiling a path for a wanted number of diagnostics and for none: a unit taken from the store
has nothing in its bag, and otherwise the bag misses the hidden errors. -/
theorem misses_compile (hwanted : 0 < o.maxDiagnostics)
    (hint : o.maxDiagnostics.toNat < UInt64.size) {w : Workspace} {path : Bytes}
    (hload : SourceFile.load w.files path = .ok f)
    (hfew : (run {} {} f.lexemes).told.countP Diagnostic.isError < UInt64.size) :
    ∃ u v, ((compile o path).run w).1 = .ok u ∧
      ((compile { o with maxDiagnostics := 0 } path).run w).1 = .ok v ∧
      if (lookup? o f w.files).isSome then u.bag.total = 0 ∧ v.bag.total = 0
      else Misses o.maxDiagnostics.toNat (run {} {} f.lexemes) u v := by
  rw [(run_compile hload o w.trace).1,
    (run_compile hload { o with maxDiagnostics := 0 } w.trace).1]
  have hunbounded := run_compileFile { o with maxDiagnostics := 0 } f 0 w
  rw [show lookup? { o with maxDiagnostics := 0 } f w.files = lookup? o f w.files from rfl]
    at hunbounded
  rcases run_compileFile o f 0 w with ⟨r, hfound, hunit, -⟩ | ⟨hnone, hunit, -⟩
  · rw [hfound] at hunbounded ⊢
    rcases hunbounded with ⟨r', -, hunit', -⟩ | ⟨hnone, -⟩
    · rw [hunit, hunit']
      exact ⟨_, _, rfl, rfl, rfl, rfl⟩
    · cases hnone
  · rw [hnone] at hunbounded ⊢
    rcases hunbounded with ⟨r', hfound, -⟩ | ⟨-, hunit', -⟩
    · cases hfound
    · rw [hunit, hunit']
      exact ⟨_, _, rfl, rfl, misses_unitOf hwanted hint hfew⟩

/-! ### An error that is not counted -/

/-- A workspace with the source of two errors. -/
def twoNamesWorkspace : Workspace where
  files := { tree := ⟨[([utf8 "names.ez"], .file Analysis.twoNamesSource.content)]⟩ }

/-- Of two errors the second one is hidden if one diagnostic is wanted: its bag was handed one
diagnostic, and the bag for no wanted number two. -/
theorem misses_compile_twoNames :
    let compiled (n : Int) :=
      ((compile { maxDiagnostics := n } (utf8 "names.ez")).run twoNamesWorkspace).1
    ∃ u v, compiled 1 = .ok u ∧ compiled 0 = .ok v ∧ u.bag.total = 1 ∧ v.bag.total = 2 := by
  have hload : SourceFile.load twoNamesWorkspace.files (utf8 "names.ez") =
      .ok Analysis.twoNamesSource := by
    have hread : twoNamesWorkspace.files.read (utf8 "names.ez") =
        .ok Analysis.twoNamesSource.content := rfl
    have hnormal : normalize Analysis.twoNamesSource.content =
        (Analysis.twoNamesSource.content, 0) := by decide +kernel
    rw [SourceFile.load_of_normalize hread (congrArg Prod.fst hnormal), hnormal]
    rfl
  have hfew : (run {} {} Analysis.twoNamesSource.lexemes).told.countP Diagnostic.isError <
      UInt64.size := by
    decide +kernel
  obtain ⟨u, v, hu, hv, hmisses⟩ :=
    misses_compile (o := { maxDiagnostics := 1 }) (by decide) (by decide) hload hfew
  obtain ⟨hall, htotal, -, -⟩ : Misses 1 (run {} {} Analysis.twoNamesSource.lexemes) u v := hmisses
  have htwo : v.bag.total = 2 := by
    rw [hall]
    decide +kernel
  have hhidden : (hidden 1 (run {} {} Analysis.twoNamesSource.lexemes).reports).card = 1 := by
    decide +kernel
  have hone : u.bag.total + 1 = 2 := by rw [← htwo, ← htotal, hhidden]
  exact ⟨u, v, hu, hv, Nat.succ.inj hone, htwo⟩

end Build

end ThreeAddress
