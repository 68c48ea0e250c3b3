import ThreeAddress.Proofs.Code.Listing
import ThreeAddress.Proofs.Text.Decimal
import ThreeAddress.Proofs.Text.Splitting

/-!
# Emitted lines

What a sink has taken is cut into lines again, and a line into its fields. An operand may hold a
newline or white space of its own, so the statements here are about arbitrary operand texts: a line
with newlines in it comes back as several lines, and an operand as the fields that it has.

## Main results

* `Sink.linesOf_unlines` : the lines of a text that was written line by line.
* `Generator.text_emitted` : the text of a recorder after a list of instructions.
* `Instruction.split_text` : the fields of an instruction.
-/

namespace ThreeAddress

namespace Sink

/-- A list of lines, each with a newline behind it. -/
def unlines (ls : List Bytes) : Bytes :=
  ls.flatMap fun l => l ++ utf8 "\n"

/-- The lines of a text that was written line by line. A line with newlines in it counts as
several. -/
theorem linesOf_unlines {ls : List Bytes} (h : ∀ l ∈ ls, l ≠ []) :
    linesOf (unlines ls) = ls.flatMap (Bytes.splitOn '\n'.toUInt8) := by
  have hnewline : utf8 "\n" = ['\n'.toUInt8] := by decide
  -- the last newline goes; the others separate lines
  have hsplit (ls : List Bytes) (l : Bytes) :
      Bytes.splitOn '\n'.toUInt8 (unlines ls ++ l) =
        ls.flatMap (Bytes.splitOn '\n'.toUInt8) ++ Bytes.splitOn '\n'.toUInt8 l := by
    induction ls with
    | nil => rfl
    | cons k ls ih =>
      have : unlines (k :: ls) ++ l = k ++ '\n'.toUInt8 :: (unlines ls ++ l) := by
        simp [unlines, hnewline]
      rw [this, Bytes.splitOn_append_cons, ih, List.flatMap_cons, List.append_assoc]
  rcases List.eq_nil_or_concat ls with rfl | ⟨init, last, rfl⟩
  · rfl
  · have hlast : last ≠ [] := h last (by simp)
    have htext : unlines (init.concat last) = unlines init ++ last ++ utf8 "\n" := by
      simp [unlines]
    simp only [linesOf, htext, Bytes.stripEnd?_append, Option.getD_some]
    rw [if_neg (by simp [hlast]), hsplit]
    simp

end Sink

namespace Generator

theorem text_emitted (g : Generator) (is : List Instruction) :
    (g.emitted is).sink.text = g.sink.text ++ Sink.unlines (is.map Instruction.line) := by
  have hchunks : (is.map Instruction.chunk).flatten = Sink.unlines (is.map Instruction.line) := by
    rw [Sink.unlines, List.flatMap_def, List.map_map]
    rfl
  rw [Sink.text, emitted, List.reverse_append, List.reverse_reverse, List.flatten_append, hchunks]
  rfl

end Generator

theorem Opcode.ofName?_name (o : Opcode) : Opcode.ofName? o.name = some o := by
  cases o <;> decide

namespace Instruction

theorem line_ne_nil (i : Instruction) : i.line ≠ [] := by
  have : utf8 "\t" = [9] := by decide
  simp [line, this]

theorem spaceless_name (o : Opcode) : Spaceless o.name ∧ o.name ≠ [] := by
  cases o <;> decide

theorem split_joinWith (operands : List Bytes) :
    Fields.split (Bytes.joinWith (utf8 " ") operands) = operands.flatMap Fields.split := by
  induction operands with
  | nil => rfl
  | cons o operands ih =>
    cases operands with
    | nil => simp [Bytes.joinWith]
    | cons p operands =>
      rw [Bytes.joinWith, Fields.split_append_blank, ih]
      rfl

/-- The fields of an instruction: the opcode, the target, and the fields of the operands. -/
theorem split_text (i : Instruction) :
    Fields.split i.text =
      i.opcode.name :: temporaryName i.target :: i.operands.flatMap Fields.split := by
  obtain ⟨hname, hne⟩ := spaceless_name i.opcode
  rw [text, Fields.split_append_blank, Fields.split_append_blank, split_joinWith,
    Fields.split_eq_singleton hname hne,
    Fields.split_eq_singleton (spaceless_temporaryName _) (temporaryName_ne_nil _)]
  rfl

theorem strip?_line (i : Instruction) : Bytes.strip? (utf8 "\t") i.line = some i.text :=
  Bytes.strip?_append _ _

/-- A line holds a newline only if one of its operands does. -/
theorem newline_mem_operand {i : Instruction} (h : '\n'.toUInt8 ∈ i.line) :
    ∃ o ∈ i.operands, '\n'.toUInt8 ∈ o := by
  have hblank : '\n'.toUInt8 ∉ utf8 " " := by decide
  have htab : '\n'.toUInt8 ∉ utf8 "\t" := by decide
  have hname := (spaceless_name i.opcode).1.newline_notMem
  have htarget := (spaceless_temporaryName i.target).newline_notMem
  simp only [line, text, List.mem_append, hblank, htab, hname, htarget, false_or] at h
  exact (Bytes.mem_joinWith h).resolve_left hblank

/-- An operand stands in its line as it is. -/
theorem infix_line {i : Instruction} {o : Bytes} (h : o ∈ i.operands) : o <:+: i.line :=
  (Bytes.infix_joinWith _ h).trans ((List.suffix_append _ _).isInfix.trans
    (List.suffix_append _ _).isInfix)

end Instruction

end ThreeAddress
