import ThreeAddress.Proofs.Unicode.Clusters
import ThreeAddress.Render.Pretty

/-!
# Where the caret stands

Under a source line without tabs there is a blank for each column of each character in front of the
caret. The line itself is as wide as its user-perceived characters, and so is what is drawn under
the marked text. The two measures differ where a user-perceived character has more than one part
that takes columns, as joined emoji have, and there the caret stands too far to the right.

## Main definitions

* `Render.lineRow`, `Render.caretRow` : the two rows of an excerpt.

## Main results

* `Render.caretPadding_eq` : the blanks under a text without tabs.
* `Render.excerpt_aligned_iff` : the caret stands under its column if and only if every
  user-perceived character in front of it has at most one part that takes columns.
-/

namespace ThreeAddress.Render

open Unicode (charWidth clusters overhang partWidths textWidth)

variable {text : Bytes}

/-! ### The blanks under a text -/

theorem flatMap_padding {ps : List Utf8.Piece} (h : ∀ p ∈ ps, p.char ≠ '\t') :
    ps.flatMap padding =
      List.replicate ((ps.map Utf8.Piece.char).map charWidth).sum ' '.toUInt8 := by
  induction ps with
  | nil => rfl
  | cons p ps ih =>
    obtain ⟨hp, hps⟩ := List.forall_mem_cons.mp h
    rw [List.flatMap_cons, ih hps, padding, if_neg hp, List.replicate_append_replicate,
      List.map_cons, List.map_cons, List.sum_cons]

/-- Without a tab there is a blank for each column of each character. -/
theorem caretPadding_eq (h : '\t'.toUInt8 ∉ text) :
    caretPadding text =
      List.replicate (textWidth text + ((clusters text).map overhang).sum) ' '.toUInt8 := by
  rw [← Unicode.sum_charWidth_chars, Utf8.chars]
  refine flatMap_padding fun p hp htab => h ?_
  have hchar : '\t' ∈ Utf8.chars text := List.mem_map.mpr ⟨p, hp, htab⟩
  exact (Utf8.infix_of_mem_chars hchar (by decide)).subset (List.mem_singleton.mpr rfl)

/-! ### The rows of an excerpt -/

/-- The row that shows the source line. -/
def lineRow (o : PrettyOptions) (n : UInt32) (line : Bytes) : Bytes :=
  utf8 "  " ++ Style.boldBlue.paint o.colored (decimal n.toNat) ++ utf8 " "
    ++ Style.boldBlue.paint o.colored (utf8 "|") ++ utf8 " " ++ line ++ utf8 "\n"

/-- The row under it, with a number of blanks between the gutter and the caret. -/
def caretRow (o : PrettyOptions) (n : UInt32) (blanks : Nat) (marked : Bytes) : Bytes :=
  utf8 "  " ++ List.replicate (decimal n.toNat).length ' '.toUInt8 ++ utf8 " "
    ++ Style.boldBlue.paint o.colored (utf8 "|") ++ utf8 " " ++ List.replicate blanks ' '.toUInt8
    ++ Style.boldGreen.paint o.colored (underline (textWidth marked)) ++ utf8 "\n"

/-- A line is cut in front of every column, and what is marked follows there. -/
theorem exists_cut (line : Bytes) (column : Nat) (stop : Int) :
    ∃ marked, marked <+: line.drop column ∧
      cut line column stop = .ok (line.take column, marked) := by
  unfold cut
  rw [if_neg (by omega)]
  dsimp only
  rw [Int.toNat_natCast, ← List.take_eq_take_min]
  refine ⟨_, ?_, rfl⟩
  rw [SourceFile.slice, List.drop_take, ← List.drop_eq_drop_min]
  exact List.take_prefix _ _

/-- The excerpt of a line that is cut in front of the place and behind it. -/
theorem excerpt_of_cut {o : PrettyOptions} {f : SourceFile} {start stop : Position}
    {before marked : Bytes} (hshown : ¬(f.line start.line = [] ∧ start.column ≤ 1))
    (hcut : cut (f.line start.line) ((start.column.toNat : Int) - 1)
      (if stop.line = start.line then (stop.column.toNat : Int) - 1
        else (f.line start.line).length) = .ok (before, marked))
    (htab : '\t'.toUInt8 ∉ before) :
    excerpt o f start stop = .ok (lineRow o start.line (f.line start.line) ++
      caretRow o start.line (textWidth before + ((clusters before).map overhang).sum) marked) := by
  have hbreak : utf8 "\n  " = utf8 "\n" ++ utf8 "  " := rfl
  rw [excerpt, if_neg hshown]
  dsimp only
  rw [hcut]
  show Except.ok _ = Except.ok _
  rw [caretPadding_eq htab]
  simp only [lineRow, caretRow, hbreak, List.append_assoc]

/-- Between the gutter and the caret there are as many blanks as the text in front of the caret has
columns, and further ones for the overhangs of its user-perceived characters. So the caret stands
under its column if and only if none of them has a second part that takes columns. -/
theorem excerpt_aligned_iff (o : PrettyOptions) (f : SourceFile) (start stop : Position)
    (htab : '\t'.toUInt8 ∉ f.line start.line) (hcolumn : 1 ≤ start.column)
    (hshown : f.line start.line ≠ [] ∨ 1 < start.column) :
    let line := f.line start.line
    let before := line.take (start.column.toNat - 1)
    let blanks := textWidth before + ((clusters before).map overhang).sum
    (∃ marked, marked <+: line.drop (start.column.toNat - 1) ∧
      excerpt o f start stop =
        .ok (lineRow o start.line line ++ caretRow o start.line blanks marked)) ∧
      (blanks = textWidth before ↔ ∀ c ∈ clusters before, (partWidths c).length ≤ 1) := by
  intro line before blanks
  constructor
  · have hnonempty : ¬(line = [] ∧ start.column ≤ 1) := by
      rintro ⟨hempty, hle⟩
      exact hshown.elim (fun h => h hempty) fun h => absurd hle (UInt32.not_le.mpr h)
    have hpos : 1 ≤ start.column.toNat := UInt32.le_iff_toNat_le.mp hcolumn
    have hcast : (start.column.toNat : Int) - 1 = (start.column.toNat - 1 : Nat) := by omega
    obtain ⟨marked, hmarked, hcut⟩ := exists_cut line (start.column.toNat - 1)
      (if stop.line = start.line then (stop.column.toNat : Int) - 1 else line.length)
    rw [← hcast] at hcut
    exact ⟨marked, hmarked,
      excerpt_of_cut hnonempty hcut fun h => htab (List.mem_of_mem_take h)⟩
  · have hsum : blanks = textWidth before ↔ ((clusters before).map overhang).sum = 0 :=
      Nat.add_eq_left
    simp only [hsum, List.sum_eq_zero_iff_forall_eq_nat, List.forall_mem_map,
      Unicode.overhang_eq_zero_iff]

/-- Behind a family of three joined emoji and a blank, which are three columns wide, the caret
stands behind seven blanks. -/
theorem excerpt_misaligned_family :
    let joiner := Char.ofNat 0x200D
    let family := [Char.ofNat 0x1F468, joiner, Char.ofNat 0x1F469, joiner, Char.ofNat 0x1F467]
    let f := SourceFile.ofContent 0 (utf8 "a.ez") (utf8Chars (family ++ [' ', 'x'])) 0
    f.position 19 = ⟨1, 20⟩ ∧ textWidth (utf8Chars (family ++ [' '])) = 3 ∧
      ∃ marked, marked <+: utf8 "x" ∧ excerpt {} f (f.position 19) (f.position 20) =
        .ok (lineRow {} 1 (f.line 1) ++ caretRow {} 1 7 marked) := by
  intro joiner family f
  have hstart : f.position 19 = ⟨1, 20⟩ := by decide +kernel
  have hline : f.line 1 = utf8Chars (family ++ [' ', 'x']) := by decide +kernel
  have hbefore : (f.line 1).take 19 = utf8Chars (family ++ [' ']) := by decide +kernel
  have hbehind : (f.line 1).drop 19 = utf8 "x" := by decide +kernel
  have hwidth : textWidth (utf8Chars (family ++ [' '])) = 3 := by decide +kernel
  have hoverhang : ((clusters (utf8Chars (family ++ [' ']))).map overhang).sum = 4 := by
    decide +kernel
  have htab : '\t'.toUInt8 ∉ f.line 1 := by
    rw [hline]
    decide +kernel
  have haligned := excerpt_aligned_iff {} f ⟨1, 20⟩ (f.position 20) htab (by decide)
    (.inr (by decide))
  obtain ⟨⟨marked, hmarked, hexcerpt⟩, -⟩ := haligned
  have hcolumn : (20 : UInt32).toNat - 1 = 19 := rfl
  rw [hcolumn] at hmarked
  rw [hcolumn, hbefore, hwidth, hoverhang] at hexcerpt
  rw [hbehind] at hmarked
  rw [hstart]
  exact ⟨rfl, hwidth, marked, hmarked, hexcerpt⟩

end ThreeAddress.Render
