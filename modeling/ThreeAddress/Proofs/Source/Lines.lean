import Mathlib.Data.List.DropRight
import ThreeAddress.Source.File

/-!
# Lines and columns

The line table of a source holds the offsets of its newlines. From it come the line and the column
of an offset and the text of a line. Both are described here without the table: the line counts the
newlines in front of the offset, the column counts the bytes behind the last of them, and the text
of the line runs from there to the next newline.

## Main definitions

* `lineFront`, `lineBack` : the two parts of a line around an offset.
* `SourceFile.line?` : the text of a line, read with every index checked.

## Main results

* `SourceFile.line?_ofContent` : no index is out of range, whichever line is read.
* `SourceFile.position_ofContent` : the line and the column of an offset.
* `SourceFile.line_position` : the line of an offset is made up of the two parts around it.
-/

namespace ThreeAddress

/-- Tests for a byte that does not end a line. -/
def staysInLine (b : UInt8) : Bool :=
  b != '\n'.toUInt8

/-- The bytes in front of an offset, as far as they stand on its line. -/
def lineFront (content : Bytes) (offset : Nat) : Bytes :=
  (content.take offset).rtakeWhile staysInLine

/-- The bytes from an offset on, as far as they stand on its line. -/
def lineBack (content : Bytes) (offset : Nat) : Bytes :=
  (content.drop offset).takeWhile staysInLine

/-- The bytes of the lines in front of the one of an offset. -/
def earlierLines (content : Bytes) (offset : Nat) : Bytes :=
  (content.take offset).rdropWhile staysInLine

theorem earlierLines_append_lineFront (content : Bytes) (offset : Nat) :
    earlierLines content offset ++ lineFront content offset = content.take offset :=
  List.rdropWhile_append_rtakeWhile

theorem length_earlierLines_add {content : Bytes} {offset : Nat} (h : offset ≤ content.length) :
    (earlierLines content offset).length + (lineFront content offset).length = offset := by
  rw [← List.length_append, earlierLines_append_lineFront, List.length_take, Nat.min_eq_left h]

/-! ### The line table -/

section Table

variable {k : Nat} {bs cs : Bytes}

theorem newlinesFrom_append (k : Nat) (bs cs : Bytes) :
    newlinesFrom k (bs ++ cs) = newlinesFrom k bs ++ newlinesFrom (k + bs.length) cs := by
  induction bs generalizing k with
  | nil => rfl
  | cons b bs ih =>
    have hlength : k + 1 + bs.length = k + (b :: bs).length := by
      rw [List.length_cons]
      omega
    rw [List.cons_append, newlinesFrom, newlinesFrom, ih, hlength]
    split <;> rfl

/-- A byte that does not end its line is not in the table. -/
theorem newlinesFrom_singleton {b : UInt8} (h : staysInLine b = true) :
    newlinesFrom k [b] = [] := by
  rw [newlinesFrom, if_neg]
  · rfl
  · simp [bne_iff_ne.mp h]

theorem newlinesFrom_newline (h : k < UInt32.size) :
    newlinesFrom k ['\n'.toUInt8] = [UInt32.ofNat k] := by
  rw [newlinesFrom, if_pos (by simp [h])]
  rfl

/-- The table holds offsets of bytes. -/
theorem bounds_newlinesFrom {n : UInt32} (h : n ∈ newlinesFrom k bs) :
    k ≤ n.toNat ∧ n.toNat < k + bs.length := by
  induction bs generalizing k with
  | nil => cases h
  | cons b bs ih =>
    rw [newlinesFrom] at h
    rw [List.length_cons]
    split at h
    · rename_i hb
      have hk : k < UInt32.size := of_decide_eq_true (Bool.and_eq_true_iff.mp hb).2
      rcases List.mem_cons.mp h with rfl | h
      · rw [UInt32.toNat_ofNat_of_lt' hk]
        omega
      · have := ih h
        omega
    · have := ih h
      omega

/-- The table has an entry for every newline. -/
theorem length_newlinesFrom (h : k + bs.length ≤ UInt32.size) :
    (newlinesFrom k bs).length = bs.count '\n'.toUInt8 := by
  induction bs generalizing k with
  | nil => rfl
  | cons b bs ih =>
    rw [List.length_cons] at h
    have hrest := @ih (k + 1) (by omega)
    have hk : k < UInt32.size := by omega
    rw [newlinesFrom, List.count_cons]
    split
    · rename_i hb
      rw [if_pos (Bool.and_eq_true_iff.mp hb).1, List.length_cons, hrest]
    · rename_i hb
      rw [if_neg (by simpa [hk] using hb), hrest, Nat.add_zero]

/-- A line starts behind the last newline in front of it. -/
theorem getLast?_newlinesFrom (h : bs.length < UInt32.size) :
    (newlinesFrom 0 bs).getLast?.elim 0 (fun n => n.toNat + 1) =
      (bs.rdropWhile staysInLine).length := by
  induction bs using List.reverseRecOn with
  | nil => rfl
  | append_singleton bs b ih =>
    rw [List.length_append, List.length_singleton] at h
    have hbs : bs.length < UInt32.size := by omega
    rw [newlinesFrom_append, Nat.zero_add]
    by_cases hb : staysInLine b = true
    · rw [newlinesFrom_singleton hb, List.append_nil, List.rdropWhile_concat_pos _ _ _ hb, ih hbs]
    · obtain rfl : b = '\n'.toUInt8 := by simpa [staysInLine] using hb
      rw [newlinesFrom_newline hbs, List.getLast?_concat, List.rdropWhile_concat_neg _ _ _ hb,
        Option.elim_some, UInt32.toNat_ofNat_of_lt' hbs, List.length_append, List.length_singleton]

/-- A line ends at the first newline from there on, or with the source. -/
theorem head?_newlinesFrom (h : k + bs.length ≤ UInt32.size) :
    (newlinesFrom k bs).head?.elim (k + bs.length) UInt32.toNat =
      k + (bs.takeWhile staysInLine).length := by
  induction bs generalizing k with
  | nil => rfl
  | cons b bs ih =>
    have hlength : k + (b :: bs).length = k + 1 + bs.length := by
      rw [List.length_cons]
      omega
    have hsplit : newlinesFrom k (b :: bs) = newlinesFrom k [b] ++ newlinesFrom (k + 1) bs :=
      newlinesFrom_append k [b] bs
    rw [hlength] at h
    rw [hsplit, hlength]
    by_cases hb : staysInLine b = true
    · rw [newlinesFrom_singleton hb, List.nil_append, ih h, List.takeWhile_cons_of_pos hb,
        List.length_cons]
      omega
    · obtain rfl : b = '\n'.toUInt8 := by simpa [staysInLine] using hb
      have hk : k < UInt32.size := by omega
      rw [newlinesFrom_newline hk, List.singleton_append, List.takeWhile_cons_of_neg hb]
      exact UInt32.toNat_ofNat_of_lt' hk

end Table

namespace SourceFile

/-- The bytes of a content from one offset to another, if they are there. -/
def slice? (content : Bytes) (start stop : Nat) : Option Bytes :=
  if start ≤ stop ∧ stop ≤ content.length then some (slice content start stop) else none

/-- The text of a line, with every entry of the table and all bounds checked; empty for lines that
do not exist. -/
def line? (f : SourceFile) (n : UInt32) : Option Bytes :=
  if n = 0 then some []
  else
    let i := n.toNat - 1
    if f.newlines.length < i then some []
    else do
      let start ← if i = 0 then some 0 else (f.newlines[i - 1]?).map fun e => e.toNat + 1
      let stop := match f.newlines[i]? with
        | some e => e.toNat
        | none => f.content.length
      if stop < start then some [] else slice? f.content start stop

theorem slice_of_lt {content : Bytes} {start stop : Nat} (h : stop < start) :
    slice content start stop = [] := by
  rw [slice, List.drop_eq_nil_iff, List.length_take]
  omega

theorem slice?_of_le {content : Bytes} {start stop : Nat} (h : start ≤ stop)
    (hstop : stop ≤ content.length) :
    slice? content start stop = some (slice content start stop) :=
  if_pos ⟨h, hstop⟩

/-- The two parts around an offset stand beside each other. -/
theorem slice_line (content : Bytes) (offset : Nat) :
    slice content (earlierLines content offset).length
        (offset + (lineBack content offset).length) =
      lineFront content offset ++ lineBack content offset := by
  have hback : (content.drop offset).take (lineBack content offset).length =
      lineBack content offset :=
    List.prefix_iff_eq_take.mp (List.takeWhile_prefix _) |>.symm
  rw [slice, List.take_add, hback, ← earlierLines_append_lineFront, List.append_assoc,
    List.drop_left]

variable {id : FileId} {path content : Bytes} {flags : FileFlags} {offset : UInt32}

/-- No index is out of range when a line is read, whether there is such a line or not. -/
theorem line?_ofContent (id : FileId) (path content : Bytes) (flags : FileFlags) (n : UInt32) :
    (ofContent id path content flags).line? n =
      some ((ofContent id path content flags).line n) := by
  have hstop (i : Nat) : (match (newlinesFrom 0 content)[i]? with
      | some e => e.toNat
      | none => content.length) ≤ content.length := by
    split
    · rename_i e he
      have hbounds := bounds_newlinesFrom (List.mem_of_getElem? he)
      omega
    · exact Nat.le_refl _
  have hread {start stop : Nat} (h : stop ≤ content.length) :
      (if stop < start then some [] else slice? content start stop) =
        some (slice content start stop) := by
    split
    · rename_i hlt
      rw [slice_of_lt hlt]
    · rename_i hle
      exact slice?_of_le (Nat.le_of_not_lt hle) h
  unfold line? line
  split
  · rfl
  · dsimp only
    split
    · rfl
    · rename_i hzero hlength
      by_cases hfirst : n.toNat - 1 = 0
      · rw [if_pos hfirst, if_pos hfirst]
        exact @hread 0 _ (hstop (n.toNat - 1))
      · have hentry : n.toNat - 1 - 1 < (ofContent id path content flags).newlines.length := by
          omega
        rw [if_neg hfirst, if_neg hfirst, List.getD_eq_getElem?_getD,
          List.getElem?_eq_getElem hentry]
        exact hread (hstop (n.toNat - 1))

/-! ### The line of an offset -/

/-- The table is that of the bytes in front of an offset, followed by that of the others. -/
theorem newlines_split (h : offset.toNat ≤ content.length) :
    newlinesFrom 0 content = newlinesFrom 0 (content.take offset.toNat) ++
      newlinesFrom offset.toNat (content.drop offset.toNat) := by
  have hlength : 0 + (content.take offset.toNat).length = offset.toNat := by
    rw [Nat.zero_add, List.length_take, Nat.min_eq_left h]
  have happend := newlinesFrom_append 0 (content.take offset.toNat) (content.drop offset.toNat)
  rwa [List.take_append_drop, hlength] at happend

/-- The newlines in front of an offset are those of the bytes in front of it. -/
theorem takeWhile_newlines (h : offset.toNat ≤ content.length) :
    (newlinesFrom 0 content).takeWhile (fun n => decide (n < offset)) =
      newlinesFrom 0 (content.take offset.toNat) := by
  have hfront : ∀ n ∈ newlinesFrom 0 (content.take offset.toNat), decide (n < offset) = true := by
    intro n hn
    have hbounds := bounds_newlinesFrom hn
    rw [List.length_take] at hbounds
    rw [decide_eq_true_eq, UInt32.lt_iff_toNat_lt]
    omega
  have hback : (newlinesFrom offset.toNat (content.drop offset.toNat)).takeWhile
      (fun n => decide (n < offset)) = [] := by
    cases htable : newlinesFrom offset.toNat (content.drop offset.toNat) with
    | nil => rfl
    | cons n ns =>
      have hbounds := bounds_newlinesFrom (by rw [htable]; exact List.mem_cons_self)
      rw [List.takeWhile_cons_of_neg]
      rw [decide_eq_true_eq, UInt32.lt_iff_toNat_lt]
      omega
  rw [newlines_split h, List.takeWhile_append_of_pos hfront, hback, List.append_nil]

/-- There are as many of them as there are newlines among these bytes. -/
theorem length_newlines_take (h : offset.toNat ≤ content.length) :
    (newlinesFrom 0 (content.take offset.toNat)).length =
      (content.take offset.toNat).count '\n'.toUInt8 := by
  have hfits : 0 + (content.take offset.toNat).length ≤ UInt32.size := by
    rw [Nat.zero_add, List.length_take, Nat.min_eq_left h]
    exact Nat.le_of_lt offset.toNat_lt
  exact length_newlinesFrom hfits

/-- A line starts behind the last newline in front of it, and its columns are counted from there. -/
theorem position_eq (f : SourceFile) (offset : UInt32) :
    f.position offset =
      let front := f.newlines.takeWhile fun n => decide (n < offset)
      ⟨UInt32.ofNat (front.length + 1), offset - front.getLast?.elim 0 (· + 1) + 1⟩ := by
  unfold position
  dsimp only
  cases (f.newlines.takeWhile fun n => decide (n < offset)).getLast? with
  | none => rfl
  | some n => rfl

/-- The line of an offset counts the newlines in front of it, and its column the bytes behind the
last of them; both start at 1. -/
theorem position_ofContent (h : offset.toNat ≤ content.length) :
    (ofContent id path content flags).position offset =
      ⟨UInt32.ofNat ((content.take offset.toNat).count '\n'.toUInt8 + 1),
        UInt32.ofNat ((lineFront content offset.toNat).length + 1)⟩ := by
  have hlength : (content.take offset.toNat).length = offset.toNat := by
    rw [List.length_take, Nat.min_eq_left h]
  have hlast := @getLast?_newlinesFrom (content.take offset.toNat)
    (by rw [hlength]; exact offset.toNat_lt)
  have hstart : (newlinesFrom 0 (content.take offset.toNat)).getLast?.elim 0 (· + 1) =
      UInt32.ofNat (earlierLines content offset.toNat).length := by
    rw [earlierLines, ← hlast]
    cases (newlinesFrom 0 (content.take offset.toNat)).getLast? with
    | none => rfl
    | some n =>
      rw [Option.elim_some, Option.elim_some, UInt32.ofNat_add, UInt32.ofNat_toNat]
      rfl
  have hcolumn : offset - UInt32.ofNat (earlierLines content offset.toNat).length =
      UInt32.ofNat (lineFront content offset.toNat).length := by
    rw [UInt32.sub_eq_iff_eq_add, ← UInt32.ofNat_add, Nat.add_comm, length_earlierLines_add h,
      UInt32.ofNat_toNat]
  rw [position_eq]
  show Position.mk (UInt32.ofNat (((newlinesFrom 0 content).takeWhile _).length + 1))
    (offset - ((newlinesFrom 0 content).takeWhile _).getLast?.elim 0 (· + 1) + 1) = _
  rw [takeWhile_newlines h, hstart, hcolumn, length_newlines_take h,
    UInt32.ofNat_add (lineFront content offset.toNat).length 1]
  rfl

/-- The offset behind the last byte has a place as well. -/
example : (ofContent 0 (utf8 "a.ez") (utf8 "1;\n\n+2") 0).position 6 = ⟨3, 3⟩ := by
  decide +kernel

/-- The number of a line does not wrap around. -/
theorem toNat_line_position (hsize : content.length < UInt32.size - 1)
    (h : offset.toNat ≤ content.length) :
    ((ofContent id path content flags).position offset).line.toNat =
      (content.take offset.toNat).count '\n'.toUInt8 + 1 := by
  have hcount := List.count_le_length (a := '\n'.toUInt8) (l := content.take offset.toNat)
  rw [List.length_take] at hcount
  rw [position_ofContent h]
  exact UInt32.toNat_ofNat_of_lt' (by omega)

/-- The text of an offset's line is made up of the two parts around the offset. -/
theorem line_position (hsize : content.length < UInt32.size - 1)
    (h : offset.toNat ≤ content.length) :
    (ofContent id path content flags).line
        ((ofContent id path content flags).position offset).line =
      lineFront content offset.toNat ++ lineBack content offset.toNat := by
  have hline := @toNat_line_position id path content flags offset hsize h
  rw [← length_newlines_take h] at hline
  have hlength : (content.take offset.toNat).length = offset.toNat := by
    rw [List.length_take, Nat.min_eq_left h]
  have hrest : offset.toNat + (content.drop offset.toNat).length = content.length := by
    rw [List.length_drop, Nat.add_sub_cancel' h]
  have hlast := @getLast?_newlinesFrom (content.take offset.toNat)
    (by rw [hlength]; exact offset.toNat_lt)
  have hfirst := @head?_newlinesFrom offset.toNat (content.drop offset.toNat) (by omega)
  generalize hfront : newlinesFrom 0 (content.take offset.toNat) = front at hline hlast
  generalize hback : newlinesFrom offset.toNat (content.drop offset.toNat) = back at hfirst
  have htable : (ofContent id path content flags).newlines = front ++ back := by
    rw [← hfront, ← hback]
    exact newlines_split h
  have hstart : (if front.length = 0 then 0
      else ((front ++ back).getD (front.length - 1) 0).toNat + 1) =
        (earlierLines content offset.toNat).length := by
    rw [earlierLines, ← hlast]
    cases front using List.reverseRecOn with
    | nil => rfl
    | append_singleton front n => simp
  have hstop : (match (front ++ back)[front.length]? with
      | some e => e.toNat
      | none => content.length) = offset.toNat + (lineBack content offset.toNat).length := by
    rw [lineBack, ← hfirst, hrest]
    cases back with
    | nil => simp
    | cons n back => simp
  unfold line
  rw [if_neg (fun hzero => by rw [hzero] at hline; cases hline), hline, htable]
  dsimp only
  rw [Nat.add_sub_cancel, if_neg (by simp), hstart]
  exact (congrArg (slice content _) hstop).trans (slice_line content offset.toNat)

/-- Nor does the number of a column. -/
theorem toNat_column_position (hsize : content.length < UInt32.size - 1)
    (h : offset.toNat ≤ content.length) :
    ((ofContent id path content flags).position offset).column.toNat =
      (lineFront content offset.toNat).length + 1 := by
  have hlength := length_earlierLines_add h
  rw [position_ofContent h]
  exact UInt32.toNat_ofNat_of_lt' (by omega)

/-- An offset has a line and a column in a source, and both are there. -/
structure HasPlace (f : SourceFile) (offset : UInt32) : Prop where
  /-- Lines are counted from 1. -/
  line_pos : 1 ≤ (f.position offset).line.toNat
  /-- The line starts behind an entry of the table, or it is the first. -/
  line_le : (f.position offset).line.toNat - 1 ≤ f.newlines.length
  /-- Its text is read in range. -/
  line?_eq : f.line? (f.position offset).line = some (f.line (f.position offset).line)
  /-- It is made up of the two parts around the offset. -/
  line_eq : f.line (f.position offset).line =
    lineFront f.content offset.toNat ++ lineBack f.content offset.toNat
  /-- The column stands behind the first part of the text. -/
  column_eq : (f.position offset).column.toNat = (lineFront f.content offset.toNat).length + 1

/-- Every offset up to the end of a source has a line and a column. -/
theorem hasPlace_ofContent (hsize : content.length < UInt32.size - 1)
    (h : offset.toNat ≤ content.length) : (ofContent id path content flags).HasPlace offset where
  line_pos := by
    rw [toNat_line_position hsize h]
    exact Nat.le_add_left _ _
  line_le := by
    have htable : (ofContent id path content flags).newlines = _ := newlines_split h
    rw [toNat_line_position hsize h, Nat.add_sub_cancel, htable, List.length_append,
      length_newlines_take h]
    exact Nat.le_add_right _ _
  line?_eq := line?_ofContent id path content flags _
  line_eq := line_position hsize h
  column_eq := toNat_column_position hsize h

/-! ### Two offsets -/

variable {start stop : Nat}

theorem take_eq_append_slice (content : Bytes) (h : start ≤ stop) :
    content.take stop = content.take start ++ slice content start stop := by
  have hsplit := List.take_append_drop start (content.take stop)
  rw [List.take_take, Nat.min_eq_left h] at hsplit
  exact hsplit.symm

theorem drop_eq_slice_append (content : Bytes) (h : start ≤ stop) :
    content.drop start = slice content start stop ++ content.drop stop := by
  have hsplit := List.take_append_drop (stop - start) (content.drop start)
  rw [List.drop_drop, Nat.add_sub_cancel' h, ← List.drop_take] at hsplit
  exact hsplit.symm

/-- Between two offsets of one line the line goes on. -/
theorem lineFront_of_plain (h : start ≤ stop)
    (hplain : ∀ b ∈ slice content start stop, staysInLine b = true) :
    lineFront content stop = lineFront content start ++ slice content start stop := by
  rw [lineFront, take_eq_append_slice content h, List.rtakeWhile, List.reverse_append,
    List.takeWhile_append_of_pos (by simpa using hplain), List.reverse_append,
    List.reverse_reverse]
  rfl

theorem lineBack_of_plain (h : start ≤ stop)
    (hplain : ∀ b ∈ slice content start stop, staysInLine b = true) :
    lineBack content start = slice content start stop ++ lineBack content stop := by
  rw [lineBack, drop_eq_slice_append content h, List.takeWhile_append_of_pos hplain]
  rfl

/-- A newline between two offsets ends the line of the first one. -/
theorem lineBack_of_newline (h : start ≤ stop)
    (hnewline : ¬∀ b ∈ slice content start stop, staysInLine b = true) :
    lineBack content start = (slice content start stop).takeWhile staysInLine := by
  rw [lineBack, drop_eq_slice_append content h, List.takeWhile_append, if_neg]
  intro hlength
  have hall := (List.takeWhile_prefix (l := slice content start stop) staysInLine).eq_of_length
    hlength
  exact hnewline fun b hb => List.mem_takeWhile_imp (hall ▸ hb)

/-- What stands between two offsets on the line of the first one is a piece of it. -/
theorem takeWhile_slice_prefix_lineBack (content : Bytes) (h : start ≤ stop) :
    (slice content start stop).takeWhile staysInLine <+: lineBack content start := by
  by_cases hplain : ∀ b ∈ slice content start stop, staysInLine b = true
  · rw [List.takeWhile_eq_self_iff.mpr hplain, lineBack_of_plain h hplain]
    exact List.prefix_append _ _
  · have hback := lineBack_of_newline h hplain
    exact hback ▸ List.prefix_refl _

/-- Two offsets are on one line if and only if there is no newline between them. -/
theorem line_position_eq_iff {a b : UInt32} (hsize : content.length < UInt32.size - 1)
    (hab : a ≤ b) (hb : b.toNat ≤ content.length) :
    ((ofContent id path content flags).position b).line =
        ((ofContent id path content flags).position a).line ↔
      ∀ x ∈ slice content a.toNat b.toNat, staysInLine x = true := by
  have hab := UInt32.le_iff_toNat_le.mp hab
  have hcount : (slice content a.toNat b.toNat).count '\n'.toUInt8 = 0 ↔
      ∀ x ∈ slice content a.toNat b.toNat, staysInLine x = true := by
    rw [List.count_eq_zero]
    constructor
    · intro hmem x hx
      exact bne_iff_ne.mpr fun hnewline => hmem (hnewline ▸ hx)
    · intro hplain hmem
      exact absurd rfl (bne_iff_ne.mp (hplain _ hmem))
  rw [← UInt32.toNat_inj, toNat_line_position hsize hb, toNat_line_position hsize (hab.trans hb),
    take_eq_append_slice content hab, List.count_append, ← hcount]
  omega

end SourceFile

end ThreeAddress
