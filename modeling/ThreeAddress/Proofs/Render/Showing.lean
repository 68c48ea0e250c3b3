import ThreeAddress.Proofs.Analysis.Spans
import ThreeAddress.Proofs.Diagnostic.Bag
import ThreeAddress.Proofs.Diagnostic.Repeats
import ThreeAddress.Proofs.Source.Lines
import ThreeAddress.Proofs.Source.Loading
import ThreeAddress.Render.Document
import ThreeAddress.Render.Pretty

/-!
# Every diagnostic can be shown

What lexing and an analysis tell about a source has its places in the source. The ends of such a
place have lines and columns, and the line that it starts on is cut into the bytes in front of the
place and those of the place that stand on the line. So every bag that comes of a source can be
shown among files that hold the source, for people and for programs.

## Main definitions

* `SourceFile.Shows` : a place has its lines, its columns and its excerpt in a source.
* `SourceFile.Tells` : what lexing a source and analyses of it tell.
* `SourceFile.Fills` : the bags that come of a source.
* `Render.Places.Reaches` : a place is one of a file that shows it.

## Main results

* `Render.cut_parts` : a line is cut in front of a place and behind it.
* `SourceFile.shows_of_inside` : a source shows what lies in it.
* `Render.exists_pretty`, `Render.exists_document` : a bag of such places can be shown.
* `Render.shown_of_fills` : whatever is told about a source can be shown.
-/

namespace ThreeAddress

/-! ### Excerpts -/

namespace Render

/-- A line is cut in front of a place and behind it. -/
theorem cut_parts (front marked rest : Bytes) :
    cut (front ++ (marked ++ rest)) front.length (front.length + marked.length) =
      .ok (front, marked) := by
  have hfront : min front.length (front ++ (marked ++ rest)).length = front.length := by
    rw [List.length_append]
    omega
  have hmarked : max front.length (min (front.length + marked.length)
      (front ++ (marked ++ rest)).length) = front.length + marked.length := by
    rw [List.length_append, List.length_append]
    omega
  unfold cut
  rw [if_neg (by omega)]
  dsimp only
  rw [Int.toNat_natCast, ← Int.natCast_add, Int.toNat_natCast, hfront, hmarked, List.take_left,
    SourceFile.slice, List.take_length_add_append, List.drop_left, List.take_left]

end Render

namespace SourceFile

variable {id : FileId} {path content : Bytes} {flags : FileFlags} {s : Span}

/-- A place can be shown in a source. -/
structure Shows (f : SourceFile) (s : Span) : Prop where
  /-- Its start has a line and a column. -/
  start : f.HasPlace s.start
  /-- So has its end. -/
  stop : f.HasPlace s.stop
  /-- What stands of it on the line of its start is a piece of that line. -/
  covered : (slice f.content s.start.toNat s.stop.toNat).takeWhile staysInLine <+:
    lineBack f.content s.start.toNat
  /-- The line is cut into what stands in front of that piece and the piece itself. -/
  excerpt :
    let line := f.line (f.position s.start).line
    Render.cut line ((f.position s.start).column.toNat - 1)
      (if (f.position s.stop).line = (f.position s.start).line
        then (f.position s.stop).column.toNat - 1 else line.length) =
      .ok (lineFront f.content s.start.toNat,
        (slice f.content s.start.toNat s.stop.toNat).takeWhile staysInLine)

/-- A source shows whatever lies in it. -/
theorem shows_of_inside (hsize : content.length < UInt32.size - 1) (hs : s.Inside id content) :
    (ofContent id path content flags).Shows s := by
  have hle := UInt32.le_iff_toNat_le.mp hs.ordered
  have hstart := Nat.le_trans hle hs.inside
  have hsame := @line_position_eq_iff id path content flags _ _ hsize hs.ordered hs.inside
  have hcolumn {offset : UInt32} (h : offset.toNat ≤ content.length) :
      (((ofContent id path content flags).position offset).column.toNat : Int) - 1 =
        (lineFront content offset.toNat).length := by
    rw [toNat_column_position hsize h, Int.natCast_add, Int.natCast_one, Int.add_sub_cancel]
  refine ⟨hasPlace_ofContent hsize hstart, hasPlace_ofContent hsize hs.inside,
    takeWhile_slice_prefix_lineBack content hle, ?_⟩
  dsimp only
  rw [line_position hsize hstart, hcolumn hstart, hcolumn hs.inside]
  show _ = Except.ok
    (lineFront content s.start.toNat, (slice content s.start.toNat _).takeWhile staysInLine)
  split
  · -- the place ends on the line
    rename_i hline
    have hplain := hsame.mp hline
    rw [lineFront_of_plain hle hplain, lineBack_of_plain hle hplain, List.length_append,
      Int.natCast_add, Render.cut_parts, List.takeWhile_eq_self_iff.mpr hplain]
  · -- the place goes on to further lines, so all the rest of the line is part of it
    rename_i hline
    have hparts := Render.cut_parts (lineFront content s.start.toNat)
      (lineBack content s.start.toNat) []
    rw [List.append_nil] at hparts
    rw [List.length_append, Int.natCast_add, hparts,
      lineBack_of_newline hle (mt hsame.mpr hline)]

/-- What lexing a source and analyses of it tell. -/
inductive Tells (f : SourceFile) : Diagnostic → Prop
  | lexed {l : Lexeme} {d : Diagnostic} (hl : l ∈ f.lexemes) (hd : d ∈ l.diagnostics) : Tells f d
  | analysed {limits : Analysis.Limits} {g : Generator} {r : Report}
      (hr : r ∈ (Analysis.run limits g f.lexemes).reports) : Tells f r.diagnostic

/-- The bags that come of a source: lexing and analyses report to them, and what they hold may be
sorted and freed from repeats. -/
inductive Fills (f : SourceFile) : Bag → Prop
  | new (n : Int) : Fills f (Bag.new n)
  | lexed {b : Bag} (h : Fills f b) : Fills f (b.addAll (f.lexemes.flatMap Lexeme.diagnostics))
  | analysed {b : Bag} (limits : Analysis.Limits) (g : Generator) (c : Channel) (h : Fills f b) :
    Fills f ((Analysis.run limits g f.lexemes).deliver c b)
  | sorted {b : Bag} (h : Fills f b) : Fills f b.sort
  | deduped {b : Bag} (h : Fills f b) : Fills f b.dedup

/-- What is told about a source lies in it, with its notes. -/
theorem Tells.within {f : SourceFile} {d : Diagnostic} (h : f.Tells d)
    (hsize : f.content.length < UInt32.size) : d.Within (Span.Inside f.id f.content) := by
  cases h with
  | lexed hl hd => exact (f.within_lexemes _ hl).2 _ hd
  | analysed hr => exact Analysis.within_run hsize _ _ _ hr

/-- A bag that comes of a source holds nothing but what is told about it. -/
theorem Fills.tells {f : SourceFile} {b : Bag} (h : f.Fills b) :
    ∀ d ∈ b.items.toList, f.Tells d := by
  induction h with
  | new n => exact List.forall_mem_nil _
  | lexed h ih =>
    rw [Bag.items_addAll]
    refine List.forall_mem_append.mpr ⟨ih, fun d hd => ?_⟩
    obtain ⟨l, hl, hd⟩ := List.mem_flatMap.mp (List.mem_of_mem_take hd)
    exact .lexed hl hd
  | analysed limits g c h ih =>
    rw [Outcome.deliver, Bag.items_addAll]
    refine List.forall_mem_append.mpr ⟨ih, fun d hd => ?_⟩
    obtain ⟨r, hr, rfl⟩ := Channel.exists_report (List.mem_of_mem_take hd)
    exact .analysed hr
  | sorted h ih => exact fun d hd => ih d (Bag.mem_items_sort.mp hd)
  | deduped h ih => exact fun d hd => ih d ((Bag.sublist_items_dedup _).subset hd)

end SourceFile

namespace Render

/-! ### Showing a bag -/

theorem exists_mapM {α β ε : Type} {f : α → Except ε β} {as : List α}
    (h : ∀ a ∈ as, ∃ b, f a = .ok b) : ∃ bs, as.mapM f = .ok bs := by
  induction as with
  | nil => exact ⟨[], rfl⟩
  | cons a as ih =>
    obtain ⟨ha, has⟩ := List.forall_mem_cons.mp h
    obtain ⟨b, hb⟩ := ha
    obtain ⟨bs, hbs⟩ := ih has
    exact ⟨b :: bs, by rw [List.mapM_cons, hb, hbs]; rfl⟩

/-- A place is one of a file of the set, and the file shows it. -/
def Places.Reaches (p : Places) (s : Span) : Prop :=
  ∃ f, p.file s = .ok f ∧ f.Shows s

variable {p : Places} {s : Span} {d : Diagnostic} {b : Bag}

theorem exists_place (h : p.Reaches s) : ∃ text, place p s = .ok text := by
  obtain ⟨f, hf, -⟩ := h
  exact ⟨_, by rw [place, hf]; rfl⟩

/-- The excerpt of a place that a file shows. -/
theorem exists_excerpt {f : SourceFile} (h : f.Shows s) (o : PrettyOptions) :
    ∃ text, excerpt o f (f.position s.start) (f.position s.stop) = .ok text := by
  unfold excerpt
  dsimp only
  split
  · exact ⟨[], rfl⟩
  · exact ⟨_, by rw [h.excerpt]; rfl⟩

theorem exists_diagnostic (h : d.Within p.Reaches) (o : PrettyOptions) :
    ∃ text, diagnostic o p d = .ok text := by
  obtain ⟨f, hf, hshows⟩ := h.1
  obtain ⟨at', hat⟩ := exists_place h.1
  obtain ⟨shown, hshown⟩ := exists_excerpt hshows o
  obtain ⟨lines, hlines⟩ : ∃ lines, d.notes.mapM (noteLine o p) = .ok lines := by
    refine exists_mapM fun n hn => ?_
    obtain ⟨text, htext⟩ := exists_place (h.2 n hn)
    exact ⟨_, by rw [noteLine, htext]; rfl⟩
  rw [diagnostic, hf, hat]
  show ∃ text, (excerpt o f _ _ >>= fun shown => _) = .ok text
  rw [hshown]
  cases o.notes with
  | false => exact ⟨_, rfl⟩
  | true => exact ⟨_, by rw [hlines]; rfl⟩

/-- A bag whose places are reached can be shown to people. -/
theorem exists_pretty (h : ∀ d ∈ b.items.toList, d.Within p.Reaches) (o : PrettyOptions) :
    ∃ text, pretty o p b = .ok text := by
  obtain ⟨shown, hshown⟩ := exists_mapM fun d hd => exists_diagnostic (h d hd) o
  exact ⟨_, by rw [pretty, hshown]; rfl⟩

theorem exists_location (h : p.Reaches s) (o : DocumentOptions) :
    ∃ json, location o p s = .ok json := by
  obtain ⟨f, hf, -⟩ := h
  exact ⟨_, by rw [location, hf]; rfl⟩

theorem exists_diagnosticObject (h : d.Within p.Reaches) (o : DocumentOptions) :
    ∃ json, diagnosticObject o p d = .ok json := by
  obtain ⟨at', hat⟩ := exists_location h.1 o
  obtain ⟨objects, hobjects⟩ : ∃ objects, d.notes.mapM (noteObject o p) = .ok objects := by
    refine exists_mapM fun n hn => ?_
    obtain ⟨json, hjson⟩ := exists_location (h.2 n hn) o
    exact ⟨_, by rw [noteObject, hjson]; rfl⟩
  rw [diagnosticObject, hat]
  cases o.notes with
  | false => exact ⟨_, rfl⟩
  | true => exact ⟨_, by rw [hobjects]; rfl⟩

/-- So can it be to programs. -/
theorem exists_document (h : ∀ d ∈ b.items.toList, d.Within p.Reaches) (o : DocumentOptions) :
    ∃ json, document o p b = .ok json := by
  have hshown : ∀ d ∈ shownItems o b, ∃ json, diagnosticObject o p d = .ok json := by
    intro d hd
    refine exists_diagnosticObject (h d ?_) o
    unfold shownItems at hd
    split at hd
    · exact List.mem_of_mem_take hd
    · exact hd
  obtain ⟨objects, hobjects⟩ := exists_mapM hshown
  exact ⟨_, by rw [document, hobjects]; rfl⟩

/-- Whatever is told about a source of fewer than 2^32 - 1 bytes has its places, those of notes
included, in the source, which shows them; and among files that hold the source, every bag that
comes of it can be shown. With one byte more, the column behind a source of one line would wrap
around to 0. -/
theorem shown_of_fills {id : FileId} {path content : Bytes} {flags : FileFlags}
    (hsize : content.length < UInt32.size - 1) :
    let f := SourceFile.ofContent id path content flags
    (∀ d, f.Tells d → d.Within fun s => s.Inside id content ∧ f.Shows s) ∧
      ∀ p : Places, p.files.get? id = some f → ∀ b, f.Fills b →
        (∀ o, ∃ text, pretty o p b = .ok text) ∧ ∀ o, ∃ json, document o p b = .ok json := by
  intro f
  have hwithin : ∀ d, f.Tells d → d.Within fun s => s.Inside id content ∧ f.Shows s := by
    intro d hd
    have hinside : d.Within (Span.Inside id content) := hd.within (Nat.lt_of_lt_pred hsize)
    exact hinside.mono fun s hs => ⟨hs, SourceFile.shows_of_inside hsize hs⟩
  refine ⟨hwithin, fun p hfile b hb => ?_⟩
  have hreaches : ∀ d ∈ b.items.toList, d.Within p.Reaches := by
    intro d hd
    refine (hwithin d (hb.tells d hd)).mono fun s hs => ⟨f, ?_, hs.2⟩
    rw [Places.file, hs.1.file_eq, hfile]
  exact ⟨exists_pretty hreaches, exists_document hreaches⟩

/-- A source with a malformed number and a char literal that runs to its end. -/
def brokenSource : Bytes :=
  utf8 "let a;\na + 0b\n\t+ 'a"

/-- Both are told, and everything told about the source can be shown. -/
theorem shown_of_fills_brokenSource :
    let f := SourceFile.ofContent 0 (utf8 "a.ez") brokenSource .virtual
    let p : Places := ⟨(({} : FileSet).addVirtual (utf8 "a.ez") brokenSource).2, [], .fromBase⟩
    let ds := f.lexemes.flatMap Lexeme.diagnostics
    let b := ((Analysis.run {} {} f.lexemes).deliver {} ((Bag.new 0).addAll ds)).sort
    ds.map Diagnostic.span = [⟨0, 11, 13⟩, ⟨0, 17, 19⟩] ∧
      (∀ d ∈ ds, d.Within fun s => s.Inside 0 brokenSource ∧ f.Shows s) ∧
      (∃ text, pretty { notes := true } p b = .ok text) ∧
      ∃ json, document { notes := true } p b = .ok json := by
  intro f p ds b
  obtain ⟨hwithin, hbags⟩ :=
    @shown_of_fills 0 (utf8 "a.ez") brokenSource .virtual (by decide +kernel)
  have hfile : p.files.get? 0 = some f := FileSet.get?_add (by decide) _ _ _
  have htold : ∀ d ∈ ds, f.Tells d := by
    intro d hd
    obtain ⟨l, hl, hd⟩ := List.mem_flatMap.mp hd
    exact .lexed hl hd
  obtain ⟨hpretty, hdocument⟩ := hbags p hfile b (.sorted (.analysed {} {} {} (.lexed (.new 0))))
  exact ⟨by decide +kernel, fun d hd => hwithin d (htold d hd), hpretty _, hdocument _⟩

end Render

end ThreeAddress
