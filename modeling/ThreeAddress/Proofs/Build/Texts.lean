import ThreeAddress.CommandLine.Run
import ThreeAddress.Proofs.Cache.Writing
import ThreeAddress.Proofs.Code.Recording

/-!
# Code has one text

The code of a unit is handed on as the lines of a recorder. It is written to a file, printed, or
kept in a store, found again and written then; each time a newline goes behind every line. All of
that yields the bytes that were recorded.

## Main definitions

* `Disk.WritesText` : writing lines yields a text.

## Main results

* `Generator.text_outputs` : written, printed and stored code has the recorded text.
-/

namespace ThreeAddress

/-- Writing lines to any target yields a text, as a whole or not at all, and does so if nothing
stands in the way. -/
def Disk.WritesText (lines : List Bytes) (text : Bytes) (fs : FileSystem) : Prop :=
  ∀ target, (∀ m, AllOrNothing (replaceLines m target lines) target text fs) ∧
    (CanReplace codeStem target fs → ∃ fs', (replaceLines .sound target lines).run fs = .ok () fs')

namespace Generator

variable {g : Generator} {fs : FileSystem}

theorem writesText_lines (hg : g.sink = .recorder) (cs : List Call) (hfs : fs.WellFormed) :
    Disk.WritesText (g.afterAll cs).sink.lines (g.afterAll cs).sink.text fs := by
  refine fun target => ⟨fun m => ?_, fun h => Disk.exists_replace_eq_ok hfs (by decide) h⟩
  rw [← unlines_lines_afterAll hg cs]
  exact CacheStore.allOrNothing_replaceLines hfs m target _

theorem unitsText_lines (hg : g.sink = .recorder) (cs : List Call) {u : Build.CompiledUnit}
    (hlines : u.lines = (g.afterAll cs).sink.lines) (hclean : u.failed = false) :
    CommandLine.unitsText [some u] = (g.afterAll cs).sink.text := by
  rw [← unlines_lines_afterAll hg cs, ← hlines]
  simp [CommandLine.unitsText, hclean, Sink.unlines]

/-- Whatever a generator was asked to do over a recorder, the lines of the recorder yield its text
when they are written, when they are printed as those of a single unit, and when they are put into a
store, found again and written then. They can be put if nothing stands in the way. -/
theorem text_outputs (hg : g.sink = .recorder) (cs : List Call) :
    (∀ fs : FileSystem, fs.WellFormed →
      Disk.WritesText (g.afterAll cs).sink.lines (g.afterAll cs).sink.text fs) ∧
    (∀ u : Build.CompiledUnit, u.lines = (g.afterAll cs).sink.lines → u.failed = false →
      CommandLine.unitsText [some u] = (g.afterAll cs).sink.text) ∧
    ∀ (s : CacheStore) key r (fs : FileSystem), fs.WellFormed → r.Fits →
      r.lines = (g.afterAll cs).sink.lines →
      (s.CanPut key fs → ∃ fs', (s.put .sound key r).run fs = .ok () fs') ∧
      ∀ m fs', (s.put m key r).run fs = .ok () fs' → ∃ r', s.get key fs' = .record r' ∧
        Disk.WritesText r'.lines (g.afterAll cs).sink.text fs' := by
  refine ⟨fun fs hfs => writesText_lines hg cs hfs, fun u => unitsText_lines hg cs, ?_⟩
  intro s key r fs hfs hr hlines
  refine ⟨fun h => Disk.exists_replace_eq_ok hfs (by decide) (h.canReplace hfs), ?_⟩
  intro m fs' hput
  have hfs' : fs'.WellFormed := by
    rw [← Disk.left_of_ok hput]
    exact (Disk.changes_replace hfs (by decide)).wellFormed
  refine ⟨r, (CacheStore.get_of_put hfs hr hput).1, ?_⟩
  rw [hlines]
  exact writesText_lines hg cs hfs'

/-- A label, and an element of an array with a newline in its name. -/
def brokenCalls : List Call :=
  [.labelLine 1, .reduce (.index ⟨utf8 "a\nb", .int32, 0⟩ (.identifier ⟨utf8 "i", .int32, 4⟩))]

/-- The text of that code. -/
def brokenText : Bytes :=
  utf8 "L1:\n\tidx __t0 i a\nb\n"

/-- A record of that code. -/
def brokenRecord : CacheRecord :=
  { path := utf8 "/a.ez", lines := [utf8 "L1:", utf8 "\tidx __t0 i a", utf8 "b"] }

/-- A unit with that code. -/
def brokenUnit : Build.CompiledUnit :=
  { path := utf8 "/a.ez", lines := brokenRecord.lines, bag := { limit := 1 } }

/-- Code whose operand has a newline of its own is printed, kept and written as it was recorded. -/
theorem text_outputs_broken : ({} : Generator).sink = .recorder ∧
    CommandLine.unitsText [some brokenUnit] = brokenText ∧
    ∃ fs', (CacheStore.sampleStore.put .sound (CacheStore.sampleKey 0) brokenRecord).run {} =
        .ok () fs' ∧
      ∃ r', CacheStore.sampleStore.get (CacheStore.sampleKey 0) fs' = .record r' ∧
        ∃ fs'', (Disk.replaceLines .sound (utf8 "/out/a.tac") r'.lines).run fs' = .ok () fs'' ∧
          fs''.read (utf8 "/out/a.tac") = .ok brokenText := by
  obtain ⟨-, hprint, hstore⟩ := text_outputs (rfl : ({} : Generator).sink = .recorder) brokenCalls
  have htext : (({} : Generator).afterAll brokenCalls).sink.text = brokenText := by decide +kernel
  have hlines : brokenRecord.lines = (({} : Generator).afterAll brokenCalls).sink.lines := by
    decide +kernel
  have hfits : brokenRecord.Fits := ⟨by decide, by decide, by decide, by decide⟩
  rw [htext] at hprint hstore
  obtain ⟨hputs, hfound⟩ := hstore CacheStore.sampleStore (CacheStore.sampleKey 0) _ {}
    FileSystem.wellFormed_empty hfits hlines
  obtain ⟨fs', hput⟩ := hputs CacheStore.canPut_sample
  obtain ⟨r', hget, hwrites⟩ := hfound .sound fs' hput
  obtain ⟨hwhole, hwritten⟩ := hwrites (utf8 "/out/a.tac")
  have hfree : Disk.CanReplace Disk.codeStem (utf8 "/out/a.tac") fs' := by
    rw [← Disk.left_of_ok hput]
    exact ⟨by decide +kernel, by decide +kernel, by decide +kernel, by decide, by decide +kernel⟩
  obtain ⟨fs'', hrun⟩ := hwritten hfree
  exact ⟨rfl, hprint brokenUnit hlines (by decide +kernel), fs', hput, r', hget, fs'', hrun,
    ((hwhole .sound).all fs'' hrun).1⟩

end Generator

end ThreeAddress
