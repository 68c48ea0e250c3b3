import ThreeAddress.Proofs.Source.Lines
import ThreeAddress.Proofs.Text.Splitting

/-!
# Positions and lines of a source

A source falls into lines: stretches without a newline that start at the front or behind a newline,
and end at the end or in front of a newline. The position of an offset tells the line that the
offset is on or at the end of, counted by newlines, and how far into that line it is; so positions
are in the order of offsets. The lines of a source are what stands between its newlines, and put
together they are the source.

## Main definitions

* `IsLine` : a stretch of a content is one of its lines.
* `Position.IsBefore` : a position is on an earlier line, or on the same line and further left.
* `SourceFile.FitsContent` : the positions and the lines of a file are those of its content.

## Main results

* `SourceFile.isBefore_position_iff` : positions are in the order of offsets.
* `SourceFile.line_ofContent` : the lines of a file are the fields around its newlines.
* `FileSet.fitsContent_stored` : what a set of files tells about a file fits the content.
-/

namespace ThreeAddress

/-- A text is a line of a content, with certain bytes in front of it and behind it. -/
structure IsLine (content front text behind : Bytes) : Prop where
  /-- The content is made up of the three. -/
  content_eq : content = front ++ text ++ behind
  /-- The line starts at the front or behind a newline. -/
  opens : ∀ b ∈ front.getLast?, b = '\n'.toUInt8
  /-- It ends at the end or in front of a newline. -/
  closes : ∀ b ∈ behind.head?, b = '\n'.toUInt8
  /-- It holds no newline. -/
  plain : '\n'.toUInt8 ∉ text

/-- A position comes before another one: it is on an earlier line, or on the same line and further
left. -/
def Position.IsBefore (p q : Position) : Prop :=
  p.line < q.line ∨ p.line = q.line ∧ p.column < q.column

theorem Position.IsBefore.asymm {p q : Position} (h : p.IsBefore q) : ¬q.IsBefore p := by
  rintro (hline | ⟨hline, hcolumn⟩)
  · rcases h with hline' | ⟨hline', -⟩
    · exact UInt32.lt_irrefl _ (UInt32.lt_trans hline hline')
    · exact UInt32.lt_irrefl _ (hline' ▸ hline)
  · rcases h with hline' | ⟨-, hcolumn'⟩
    · exact UInt32.lt_irrefl _ (hline ▸ hline')
    · exact UInt32.lt_irrefl _ (UInt32.lt_trans hcolumn hcolumn')

/-- No position comes before itself. -/
theorem Position.not_isBefore_self (p : Position) : ¬p.IsBefore p :=
  fun h => h.asymm h

namespace SourceFile

variable {id : FileId} {path content : Bytes} {flags : FileFlags}

/-! ### The line of an offset -/

/-- The two parts of a line around an offset make up a line. -/
theorem isLine_around (content : Bytes) (offset : Nat) :
    IsLine content (earlierLines content offset)
      (lineFront content offset ++ lineBack content offset)
      ((content.drop offset).dropWhile staysInLine) where
  content_eq := by
    rw [← List.append_assoc, earlierLines_append_lineFront, List.append_assoc, lineBack,
      List.takeWhile_append_dropWhile, List.take_append_drop]
  opens := by
    intro b hb
    rw [earlierLines, List.rdropWhile, List.getLast?_reverse] at hb
    have hstays := List.head?_dropWhile_not staysInLine (content.take offset).reverse
    rw [Option.mem_def.mp hb] at hstays
    simpa [staysInLine] using hstays
  closes := by
    intro b hb
    have hstays := List.head?_dropWhile_not staysInLine (content.drop offset)
    rw [Option.mem_def.mp hb] at hstays
    simpa [staysInLine] using hstays
  plain := by
    have hplain : ∀ b ∈ lineFront content offset ++ lineBack content offset,
        staysInLine b = true := by
      rw [List.forall_mem_append]
      exact ⟨fun b hb => List.mem_rtakeWhile_imp hb, fun b hb => List.mem_takeWhile_imp hb⟩
    exact fun hmem => absurd (hplain _ hmem) (by decide)

/-! ### The order of positions -/

/-- A later offset has a later position. -/
theorem isBefore_position_of_lt {a b : UInt32} (hsize : content.length < UInt32.size - 1)
    (hab : a < b) (hb : b.toNat ≤ content.length) :
    ((ofContent id path content flags).position a).IsBefore
      ((ofContent id path content flags).position b) := by
  have hlt := UInt32.lt_iff_toNat_lt.mp hab
  have ha : a.toNat ≤ content.length := by omega
  have hline := @line_position_eq_iff id path content flags a b hsize
    (UInt32.le_iff_toNat_le.mpr (Nat.le_of_lt hlt)) hb
  by_cases hplain : ∀ x ∈ slice content a.toNat b.toNat, staysInLine x = true
  · -- on one line, the part of it in front of the later offset is longer
    refine .inr ⟨(hline.mpr hplain).symm, ?_⟩
    have hslice : (slice content a.toNat b.toNat).length = b.toNat - a.toNat := by
      rw [slice, List.length_drop, List.length_take, Nat.min_eq_left hb]
    rw [UInt32.lt_iff_toNat_lt, toNat_column_position hsize ha, toNat_column_position hsize hb,
      lineFront_of_plain (Nat.le_of_lt hlt) hplain, List.length_append]
    omega
  · -- otherwise there are more newlines in front of the later offset
    left
    have hne := mt hline.mp hplain
    rw [← UInt32.toNat_inj, toNat_line_position hsize hb, toNat_line_position hsize ha,
      take_eq_append_slice content (Nat.le_of_lt hlt), List.count_append] at hne
    rw [UInt32.lt_iff_toNat_lt, toNat_line_position hsize ha, toNat_line_position hsize hb,
      take_eq_append_slice content (Nat.le_of_lt hlt), List.count_append]
    omega

/-- Positions are in the order of offsets. -/
theorem isBefore_position_iff {a b : UInt32} (hsize : content.length < UInt32.size - 1)
    (ha : a.toNat ≤ content.length) (hb : b.toNat ≤ content.length) :
    ((ofContent id path content flags).position a).IsBefore
      ((ofContent id path content flags).position b) ↔ a < b := by
  refine ⟨fun h => ?_, fun h => isBefore_position_of_lt hsize h hb⟩
  rcases Nat.lt_trichotomy a.toNat b.toNat with hlt | heq | hlt
  · exact UInt32.lt_iff_toNat_lt.mpr hlt
  · obtain rfl := UInt32.toNat_inj.mp heq
    exact absurd h h.asymm
  · exact absurd h (isBefore_position_of_lt hsize (UInt32.lt_iff_toNat_lt.mpr hlt) ha).asymm

/-- Two offsets have different positions. -/
theorem position_inj {a b : UInt32} (hsize : content.length < UInt32.size - 1)
    (ha : a.toNat ≤ content.length) (hb : b.toNat ≤ content.length)
    (heq : (ofContent id path content flags).position a =
      (ofContent id path content flags).position b) : a = b := by
  rcases Nat.lt_trichotomy a.toNat b.toNat with hlt | hab | hlt
  · have hbefore := @isBefore_position_of_lt id path content flags a b hsize
      (UInt32.lt_iff_toNat_lt.mpr hlt) hb
    exact absurd (heq ▸ hbefore) (Position.not_isBefore_self _)
  · exact UInt32.toNat_inj.mp hab
  · have hbefore := @isBefore_position_of_lt id path content flags b a hsize
      (UInt32.lt_iff_toNat_lt.mpr hlt) ha
    exact absurd (heq ▸ hbefore) (Position.not_isBefore_self _)

/-- An offset stands on the line that its position names. -/
theorem exists_isLine_position {offset : UInt32} (hsize : content.length < UInt32.size - 1)
    (h : offset.toNat ≤ content.length) :
    ∃ front text behind, IsLine content front text behind ∧
      front.length ≤ offset.toNat ∧ offset.toNat ≤ front.length + text.length ∧
      ((ofContent id path content flags).position offset).line.toNat =
        1 + (content.take offset.toNat).count '\n'.toUInt8 ∧
      ((ofContent id path content flags).position offset).column.toNat =
        1 + offset.toNat - front.length ∧
      (ofContent id path content flags).line
        ((ofContent id path content flags).position offset).line = text := by
  have hfront := length_earlierLines_add h
  refine ⟨_, _, _, isLine_around content offset.toNat, by omega, ?_, ?_, ?_,
    line_position hsize h⟩
  · rw [List.length_append]
    omega
  · rw [toNat_line_position hsize h, Nat.add_comm]
  · rw [toNat_column_position hsize h]
    omega

/-! ### The lines between newlines -/

/-- The first entry of the table, or the end of the content, is not in front of where it starts. -/
theorem exists_stops (k : Nat) (bs : Bytes) :
    ∃ stop stops, (newlinesFrom k bs).map UInt32.toNat ++ [k + bs.length] = stop :: stops ∧
      k ≤ stop := by
  cases htable : newlinesFrom k bs with
  | nil => exact ⟨_, _, rfl, Nat.le_add_right _ _⟩
  | cons n ns =>
    exact ⟨_, _, rfl, (bounds_newlinesFrom (by rw [htable]; exact List.mem_cons_self)).1⟩

/-- A stretch with the byte in front of it starts one offset earlier. -/
theorem slice_of_front {before bs : Bytes} {b : UInt8} {stop : Nat}
    (h : before.length + 1 ≤ stop) :
    slice (before ++ b :: bs) before.length stop =
      b :: slice (before ++ b :: bs) (before.length + 1) stop := by
  obtain ⟨d, rfl⟩ := Nat.exists_eq_add_of_le h
  have htake : (before ++ b :: bs).take (before.length + 1 + d) = before ++ b :: bs.take d := by
    rw [Nat.add_assoc, Nat.add_comm 1 d, List.take_length_add_append, List.take_succ_cons]
  rw [slice, slice, htake, List.drop_left, List.drop_length_add_append, List.drop_succ_cons,
    List.drop_zero]

/-- The table cuts a content into the fields around its newlines: each of them runs from behind one
entry up to the next. -/
theorem splitOn_eq_zipWith {before bs : Bytes} (hsize : (before ++ bs).length ≤ UInt32.size) :
    Bytes.splitOn '\n'.toUInt8 bs =
      List.zipWith (slice (before ++ bs))
        (before.length :: (newlinesFrom before.length bs).map fun n => n.toNat + 1)
        ((newlinesFrom before.length bs).map UInt32.toNat ++ [(before ++ bs).length]) := by
  induction bs generalizing before with
  | nil => simp [Bytes.splitOn, newlinesFrom, slice]
  | cons b bs ih =>
    have hrest := @ih (before ++ [b]) (by simpa using hsize)
    have hfits : before.length < UInt32.size := by
      rw [List.length_append, List.length_cons] at hsize
      omega
    rw [List.append_assoc, List.singleton_append, List.length_append, List.length_singleton]
      at hrest
    by_cases hb : staysInLine b = true
    · have htable : newlinesFrom before.length (b :: bs) = newlinesFrom (before.length + 1) bs := by
        rw [← List.singleton_append, newlinesFrom_append, newlinesFrom_singleton hb,
          List.nil_append, List.length_singleton]
      obtain ⟨stop, stops, hstops, hstop⟩ := exists_stops (before.length + 1) bs
      have hlength : (before ++ b :: bs).length = before.length + 1 + bs.length := by
        rw [List.length_append, List.length_cons]
        omega
      rw [hlength, hstops, List.zipWith_cons_cons] at hrest
      rw [hlength, htable, hstops, List.zipWith_cons_cons, slice_of_front hstop, Bytes.splitOn,
        if_neg (by simpa [staysInLine] using hb), hrest]
    · obtain rfl : b = '\n'.toUInt8 := by simpa [staysInLine] using hb
      have htable : newlinesFrom before.length ('\n'.toUInt8 :: bs) =
          UInt32.ofNat before.length :: newlinesFrom (before.length + 1) bs := by
        rw [newlinesFrom, if_pos (by simp [hfits])]
      have hempty : slice (before ++ '\n'.toUInt8 :: bs) before.length before.length = [] := by
        simp [slice]
      rw [Bytes.splitOn, if_pos (by simp), htable, hrest]
      simp only [List.map_cons, List.cons_append, List.zipWith_cons_cons,
        UInt32.toNat_ofNat_of_lt' hfits, hempty]

/-- The start of a line, read from the table. -/
theorem getElem?_starts {table : List UInt32} {i : Nat} (h : i ≤ table.length) :
    (0 :: table.map fun n => n.toNat + 1)[i]? =
      some (if i = 0 then 0 else (table.getD (i - 1) 0).toNat + 1) := by
  cases i with
  | zero => rfl
  | succ i =>
    rw [List.getElem?_cons_succ, List.getElem?_map, List.getD_eq_getElem?_getD,
      Nat.add_sub_cancel, List.getElem?_eq_getElem h, if_neg (Nat.succ_ne_zero i)]
    rfl

/-- The end of a line, read from the table. -/
theorem getElem?_stops {table : List UInt32} {i : Nat} (h : i ≤ table.length) (stop : Nat) :
    (table.map UInt32.toNat ++ [stop])[i]? =
      some (match table[i]? with
        | some e => e.toNat
        | none => stop) := by
  rcases Nat.lt_or_eq_of_le h with hlt | rfl
  · rw [List.getElem?_append_left (by rwa [List.length_map]), List.getElem?_map,
      List.getElem?_eq_getElem hlt]
    rfl
  · simp

/-- A line is the field with its number, and there are no lines beyond the fields. -/
theorem line_ofContent (hsize : content.length ≤ UInt32.size) {n : UInt32} (hn : n ≠ 0) :
    (ofContent id path content flags).line n =
      ((Bytes.splitOn '\n'.toUInt8 content)[n.toNat - 1]?).getD [] := by
  have hsplit := @splitOn_eq_zipWith [] content hsize
  have hlength : (newlinesFrom 0 content).length = content.count '\n'.toUInt8 :=
    length_newlinesFrom (by rwa [Nat.zero_add])
  have hfields := Bytes.length_splitOn '\n'.toUInt8 content
  rw [List.nil_append, List.length_nil] at hsplit
  rw [line, if_neg hn]
  by_cases hbeyond : (newlinesFrom 0 content).length < n.toNat - 1
  · rw [List.getElem?_eq_none (by omega)]
    exact if_pos hbeyond
  · have hi := Nat.le_of_not_lt hbeyond
    rw [hsplit, List.getElem?_zipWith_eq_some.mpr
      ⟨_, _, getElem?_starts hi, getElem?_stops hi content.length, rfl⟩]
    exact if_neg hbeyond

/-- The lines of a source, one after the other. -/
theorem map_line_ofContent (hsize : content.length < UInt32.size - 1) :
    ((List.range (1 + content.count '\n'.toUInt8)).map fun i =>
      (ofContent id path content flags).line (UInt32.ofNat (i + 1))) =
        Bytes.splitOn '\n'.toUInt8 content := by
  have hcount := List.count_le_length (a := '\n'.toUInt8) (l := content)
  have hfields := Bytes.length_splitOn '\n'.toUInt8 content
  refine List.ext_getElem (by rw [List.length_map, List.length_range]; omega) fun i hi hi' => ?_
  have hnumber : (UInt32.ofNat (i + 1)).toNat = i + 1 := UInt32.toNat_ofNat_of_lt' (by omega)
  have hpos : UInt32.ofNat (i + 1) ≠ 0 := fun hzero => by rw [hzero] at hnumber; cases hnumber
  rw [List.getElem_map, List.getElem_range, line_ofContent (by omega) hpos, hnumber,
    Nat.add_sub_cancel, List.getElem?_eq_getElem hi', Option.getD_some]

/-! ### Positions and lines together -/

/-- The positions and the lines of a file are those of its content. -/
structure FitsContent (f : SourceFile) : Prop where
  /-- The line of an offset is one more than the newlines in front of the offset; its column is one
  more than the bytes from the start of the line; and the text of the line runs from that start to
  the next newline or the end. -/
  place : ∀ offset : UInt32, offset.toNat ≤ f.content.length → ∃ front text behind,
    IsLine f.content front text behind ∧
    front.length ≤ offset.toNat ∧ offset.toNat ≤ front.length + text.length ∧
    (f.position offset).line.toNat = 1 + (f.content.take offset.toNat).count '\n'.toUInt8 ∧
    (f.position offset).column.toNat = 1 + offset.toNat - front.length ∧
    f.line (f.position offset).line = text
  /-- A position is that of one offset. -/
  position_inj : ∀ a b : UInt32, a.toNat ≤ f.content.length → b.toNat ≤ f.content.length →
    f.position a = f.position b → a = b
  /-- Positions are in the order of offsets. -/
  isBefore_iff : ∀ a b : UInt32, a.toNat ≤ f.content.length → b.toNat ≤ f.content.length →
    ((f.position a).IsBefore (f.position b) ↔ a < b)
  /-- There is no line in front of the first. -/
  line_zero : f.line 0 = []
  /-- There is no line behind the last. -/
  line_beyond : ∀ n : UInt32, 1 + f.content.count '\n'.toUInt8 < n.toNat → f.line n = []
  /-- The lines, put together, are the content. -/
  joinWith_lines : Bytes.joinWith (utf8 "\n") ((List.range (1 + f.content.count '\n'.toUInt8)).map
    fun i => f.line (UInt32.ofNat (i + 1))) = f.content

/-- The positions and the lines of a file fit its content. -/
theorem fitsContent_ofContent (hsize : content.length < UInt32.size - 1) :
    (ofContent id path content flags).FitsContent where
  place _ h := exists_isLine_position hsize h
  position_inj _ _ ha hb heq := position_inj hsize ha hb heq
  isBefore_iff a b ha hb := isBefore_position_iff hsize ha hb
  line_zero := rfl
  line_beyond n hn := by
    have hcount : 1 + content.count '\n'.toUInt8 < n.toNat := hn
    have hfields := Bytes.length_splitOn '\n'.toUInt8 content
    rw [line_ofContent (by omega) (fun hzero => by rw [hzero] at hcount; cases hcount),
      List.getElem?_eq_none (by omega), Option.getD_none]
  joinWith_lines := by
    have hlines := @map_line_ofContent id path content flags hsize
    exact (congrArg (Bytes.joinWith _) hlines).trans (Bytes.joinWith_splitOn _ _)

end SourceFile

namespace FileSet

/-- What a set of files tells about a file fits the content it was made from: the positions of a
span are those of its two ends, and positions and lines are those of the content. -/
theorem fitsContent_stored {s : FileSet} {id i : FileId} {path content : Bytes} {flags : FileFlags}
    (hfile : s.get? id = some (.ofContent i path content flags))
    (hsize : content.length < UInt32.size - 1) :
    (SourceFile.ofContent i path content flags).FitsContent ∧
      ∀ a b : UInt32, s.resolve? ⟨id, a, b⟩ =
        some ((SourceFile.ofContent i path content flags).position a,
          (SourceFile.ofContent i path content flags).position b) := by
  refine ⟨SourceFile.fitsContent_ofContent hsize, fun a b => ?_⟩
  rw [resolve?, hfile]
  rfl

/-- A source of three lines, the second of them empty, in a set of its own. -/
theorem fitsContent_threeLines :
    (({} : FileSet).add (utf8 "a.ez") (utf8 "1;\n\n+2") 0).2.get? 0 =
        some (.ofContent 0 (utf8 "a.ez") (utf8 "1;\n\n+2") 0) ∧
      (utf8 "1;\n\n+2").length < UInt32.size - 1 ∧
      (SourceFile.ofContent 0 (utf8 "a.ez") (utf8 "1;\n\n+2") 0).FitsContent ∧
      (({} : FileSet).add (utf8 "a.ez") (utf8 "1;\n\n+2") 0).2.resolve? ⟨0, 3, 6⟩ =
        some (⟨2, 1⟩, ⟨3, 3⟩) := by
  have hfile : (({} : FileSet).add (utf8 "a.ez") (utf8 "1;\n\n+2") 0).2.get? 0 =
      some (.ofContent 0 (utf8 "a.ez") (utf8 "1;\n\n+2") 0) := rfl
  have hsize : (utf8 "1;\n\n+2").length < UInt32.size - 1 := by decide +kernel
  obtain ⟨hfits, hresolve⟩ := fitsContent_stored hfile hsize
  have hstart : (SourceFile.ofContent 0 (utf8 "a.ez") (utf8 "1;\n\n+2") 0).position 3 = ⟨2, 1⟩ := by
    decide +kernel
  have hstop : (SourceFile.ofContent 0 (utf8 "a.ez") (utf8 "1;\n\n+2") 0).position 6 = ⟨3, 3⟩ := by
    decide +kernel
  exact ⟨hfile, hsize, hfits, by rw [hresolve, hstart, hstop]⟩

end FileSet

end ThreeAddress
