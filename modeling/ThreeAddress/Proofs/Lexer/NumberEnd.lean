import ThreeAddress.Proofs.Lexer.IntegerText
import ThreeAddress.Proofs.Lexer.Spans

/-!
# Where numbers end

A number takes all digits of its base, and no letter and no underscore may stand right behind it:
a letter or an underscore there spoils the number, and all characters of a name that follow belong
to the invalid token. The test for the end looks at one byte and only for letters and underscores,
so two things get past it: a decimal digit that the base of the number does not have, and a
character beyond ASCII.

## Main definitions

* `Lexer.numberBase` : the base of the digits of a number.
* `Lexer.NumberEnds` : how the scan of a number ends.
* `Lexeme.EndsNumber` : what becomes of a digit at which a token starts.

## Main results

* `Lexer.numberEnds_scanNumber` : every way in which the scan of a number ends.
* `SourceFile.endsNumber_of_mem` : what follows the numbers of a source.
-/

namespace ThreeAddress

namespace Lexer

/-- The base of the digits of a number: that of its marker, or 10. -/
def numberBase (text : Bytes) : Nat :=
  match text with
  | z :: marker :: _ => (if z == '0'.toUInt8 then markedBase? marker else none).getD 10
  | _ => 10

/-- How a scan at the front of some bytes ends, if it is one of a number. -/
inductive NumberEnds (bs : Bytes) : Scan → Prop
  /-- A number, with neither a letter nor an underscore nor a digit of its base behind it. -/
  | number {kind : TokenKind} {size : Nat} (hkind : kind = .integer ∨ kind = .float)
      (hbehind : ∀ b, (bs.drop size).head? = some b →
        isNameStart b = false ∧ isDigitIn (numberBase (bs.take size)) b = false) :
      NumberEnds bs ⟨kind, size, []⟩
  /-- A number with a letter or an underscore behind it, and the name characters from there on. -/
  | glued {taken : Nat} (htaken : 0 < taken)
      (hstart : (bs.drop taken).head?.any isNameStart = true) :
      NumberEnds bs (.bad (taken + (nameTail (bs.drop taken)).length) .badSuffix)
  /-- A number that is malformed in itself. -/
  | malformed {size : Nat} {c : Complaint} (hcode : c.code = .badNumber) :
      NumberEnds bs (.bad size c)

/-- The byte behind all bytes at the front that pass a test does not pass it. -/
theorem not_behind_takeWhile {p : UInt8 → Bool} {bs : Bytes} {b : UInt8}
    (h : (bs.drop (bs.takeWhile p).length).head? = some b) : p b = false := by
  induction bs with
  | nil => cases h
  | cons a bs ih =>
    by_cases ha : p a = true
    · rw [List.takeWhile_cons_of_pos ha, List.length_cons, List.drop_succ_cons] at h
      exact ih h
    · rw [List.takeWhile_cons_of_neg ha] at h
      obtain rfl : a = b := Option.some.inj h
      exact Bool.eq_false_iff.mpr ha

/-- No digit stands behind all digits at the front. -/
theorem digit_behind_digitRun {digit : UInt8 → Bool} {bs : Bytes} {b : UInt8}
    (h : (bs.drop (digitRun digit bs).length).head? = some b) : digit b = false := by
  unfold digitRun at h
  split at h
  · exact (Bool.or_eq_false_iff.mp (not_behind_takeWhile h)).1
  · rename_i hhead
    rw [List.length_nil, List.drop_zero] at h
    simpa [h] using hhead

section Numbers

variable {bs : Bytes} {kind : TokenKind} {taken : Nat}

/-- Behind all digits of a number the test for letters and underscores decides. -/
theorem numberEnds_finishNumber (hkind : kind = .integer ∨ kind = .float) (htaken : 0 < taken)
    (hdigit : ∀ b, (bs.drop taken).head? = some b →
      isDigitIn (numberBase (bs.take taken)) b = false) :
    NumberEnds bs (finishNumber kind taken (bs.drop taken)) := by
  unfold finishNumber
  split
  · rename_i hstart
    exact .glued htaken hstart
  · rename_i hstart
    refine .number hkind fun b hb => ⟨?_, hdigit b hb⟩
    rw [hb] at hstart
    simpa using hstart

theorem numberEnds_scanBased {base : Nat} {marker : UInt8} {rest : Bytes}
    (hmarker : markedBase? marker = some base) :
    NumberEnds ('0'.toUInt8 :: marker :: rest) (scanBased (isDigitIn base) rest) := by
  have hbase (n : Nat) : numberBase (('0'.toUInt8 :: marker :: rest).take (2 + n)) = base := by
    rw [Nat.add_comm, List.take_succ_cons, List.take_succ_cons]
    simp [numberBase, hmarker]
  have hdrop (n : Nat) : rest.drop n = ('0'.toUInt8 :: marker :: rest).drop (2 + n) := by
    rw [Nat.add_comm, List.drop_succ_cons, List.drop_succ_cons]
  unfold scanBased
  dsimp only
  split
  · exact .malformed rfl
  · split
    · rw [hdrop]
      refine numberEnds_finishNumber (.inl rfl) (by omega) fun b hb => ?_
      rw [← hdrop] at hb
      rw [hbase]
      exact digit_behind_digitRun hb
    · exact .malformed rfl

theorem numberEnds_scanExponent (hdecimal : ∀ n, numberBase (bs.take n) = 10)
    (hkind : kind = .integer ∨ kind = .float) (htaken : 0 < taken)
    (hdigit : ∀ b, (bs.drop taken).head? = some b → isDigit b = false) :
    NumberEnds bs (scanExponent kind taken (bs.drop taken)) := by
  have hplain : NumberEnds bs (finishNumber kind taken (bs.drop taken)) :=
    numberEnds_finishNumber hkind htaken (by rwa [hdecimal, isDigitIn_ten])
  unfold scanExponent
  split
  · rename_i e more hrest
    split
    · dsimp only
      split
      · exact .malformed rfl
      · split
        · -- the letter, the sign and the digits are taken
          have hdrop (n : Nat) : more.drop n = bs.drop (taken + 1 + n) := by
            rw [Nat.add_assoc, ← List.drop_drop, hrest, Nat.add_comm, List.drop_succ_cons]
          have hsize (n m : Nat) : taken + 1 + (n + m) = taken + 1 + n + m := by omega
          rw [hdrop (signSize more + _), hsize]
          refine numberEnds_finishNumber (.inr rfl) (by omega) fun b hb => ?_
          rw [← hsize, ← hdrop, ← List.drop_drop] at hb
          rw [hdecimal, isDigitIn_ten]
          exact digit_behind_digitRun hb
        · exact .malformed rfl
    · exact hrest ▸ hplain
  · rename_i hrest
    exact hrest ▸ hplain

theorem numberEnds_scanDecimal (hdecimal : ∀ n, numberBase (bs.take n) = 10)
    (hhead : bs.head?.any isDigit = true) : NumberEnds bs (scanDecimal bs) := by
  have htaken : 0 < (digitRun isDigit bs).length := by
    cases bs with
    | nil => cases hhead
    | cons b bs => exact length_digitRun_pos hhead
  have hexponent : NumberEnds bs
      (scanExponent .integer (digitRun isDigit bs).length (bs.drop (digitRun isDigit bs).length)) :=
    numberEnds_scanExponent hdecimal (.inl rfl) htaken fun b hb => digit_behind_digitRun hb
  unfold scanDecimal
  dsimp only
  split
  · exact .malformed rfl
  · split
    · split
      · split
        · split
          · -- the point and the digits of the fraction are taken
            refine numberEnds_scanExponent hdecimal (.inr rfl) (by omega) fun b hb => ?_
            rw [← List.drop_drop, ← List.drop_drop] at hb
            exact digit_behind_digitRun hb
          · exact .malformed rfl
        · split
          · exact hexponent
          · exact .malformed rfl
      · exact hexponent
    · exact hexponent

/-- The scan of a number ends in front of neither a letter nor an underscore nor a digit of its
base. -/
theorem numberEnds_scanNumber (hhead : bs.head?.any isDigit = true) :
    NumberEnds bs (scanNumber bs) := by
  by_cases hmarked : ∃ marker rest base, bs = '0'.toUInt8 :: marker :: rest ∧
      markedBase? marker = some base
  · obtain ⟨marker, rest, base, rfl, hmarker⟩ := hmarked
    have hscan : scanNumber ('0'.toUInt8 :: marker :: rest) = scanBased (isDigitIn base) rest := by
      simp [scanNumber, baseDigits?_eq, hmarker]
    rw [hscan]
    exact numberEnds_scanBased hmarker
  · have hnone (marker : UInt8) (rest : Bytes) (heq : bs = '0'.toUInt8 :: marker :: rest) :
        markedBase? marker = none :=
      Option.eq_none_iff_forall_ne_some.mpr fun base hbase =>
        hmarked ⟨marker, rest, base, heq, hbase⟩
    have hdecimal (n : Nat) : numberBase (bs.take n) = 10 := by
      unfold numberBase
      split
      · rename_i z marker more htake
        split
        · rename_i hzero
          rw [hnone marker (more ++ bs.drop n)]
          · rfl
          · rw [← eq_of_beq hzero, ← List.cons_append, ← List.cons_append, ← htake,
              List.take_append_drop]
        · rfl
      · rfl
    unfold scanNumber
    split
    · rename_i z marker rest
      split
      · rename_i hzero
        split
        · rename_i digit hbase
          rw [baseDigits?_eq, hnone marker rest (by rw [eq_of_beq hzero])] at hbase
          cases hbase
        · split
          · exact .malformed rfl
          · exact numberEnds_scanDecimal hdecimal hhead
      · exact numberEnds_scanDecimal hdecimal hhead
    · exact numberEnds_scanDecimal hdecimal hhead

end Numbers

/-- What starts with a digit is scanned as a number. -/
theorem scan?_of_digit {bs : Bytes} (hdigit : bs.head?.any isDigit = true) :
    scan? bs = some (scanNumber bs) := by
  cases bs with
  | nil => cases hdigit
  | cons b rest =>
    have hplain : isDigit b = true → (isNameStart b || decide (0x80 ≤ b)) = false :=
      forall_byte (p := fun b => isDigit b = true → (isNameStart b || decide (0x80 ≤ b)) = false)
        (by decide +kernel) b
    have hb : isDigit b = true := hdigit
    simp [scan?, hplain hb, hb]

/-- Only what starts with a digit is scanned as a number. -/
theorem digit_of_scan? {bs : Bytes} {s : Scan} (h : scan? bs = some s)
    (hkind : s.kind = .integer ∨ s.kind = .float) : bs.head?.any isDigit = true := by
  have hliteral : s.kind.isLiteral = true := by rcases hkind with hk | hk <;> rw [hk] <;> rfl
  rcases scan?_cases h with rfl | ⟨b, rest, rfl, hdigit, -⟩ | ⟨body, -, rfl⟩ |
    ⟨b, k, hk, rfl⟩ | hinvalid
  · rcases kind_scanName bs with hname | hname | hname | hname | hname <;> rw [hname] at hkind <;>
      simp at hkind
  · exact hdigit
  · rcases kind_scanChar body with hchar | hchar <;> rw [hchar] at hkind <;> simp at hkind
  · rw [show k.isLiteral = false from (kind_of_ofPunctuation? hk).2.2] at hliteral
    cases hliteral
  · rw [hinvalid] at hliteral
    cases hliteral

/-- A character of ASCII that continues a name is read from a byte that does. -/
theorem isNamePart_of_decode? {bs : Bytes} {c : Char} {n : Nat}
    (h : Utf8.decode? bs = some (c, n)) (hc : c.toNat < 0x80) (hname : isNamePartChar c = true) :
    bs.head? = some c.toUInt8 ∧ isNamePart c.toUInt8 = true := by
  rw [isNamePartChar, if_pos hc] at hname
  refine ⟨?_, hname⟩
  cases bs with
  | nil => cases h
  | cons b rest =>
    cases henc : Utf8.encoding? (b :: rest) with
    | some p =>
      rw [Utf8.decode?, henc, Option.getD_some] at h
      obtain rfl := Option.some.inj h
      rw [List.head?_cons, (Utf8.ascii_of_encoding? henc hc).1]
      rfl
    | none =>
      -- what stands for a byte that is no character is beyond ASCII
      rw [Utf8.decode?, henc, Option.getD_none] at h
      obtain rfl : Utf8.replacement = c := congrArg Prod.fst (Option.some.inj h)
      exact absurd hc (by decide)

end Lexer

/-- What becomes of a digit of a source at which a token starts. -/
inductive Lexeme.EndsNumber (content : Bytes) (l : Lexeme) : Prop
  /-- It starts a number, about which nothing is complained. If a character that can continue a
  name follows, then it is beyond ASCII or a decimal digit that the base of the number does not
  have. -/
  | number (hkind : l.token.kind = .integer ∨ l.token.kind = .float)
      (hquiet : l.diagnostics = [])
      (hbehind : ∀ c n, Utf8.decode? (content.drop l.token.span.stop.toNat) = some (c, n) →
        Lexer.isNamePartChar c = true → 0x80 ≤ c.toNat ∨
          Lexer.isDigit c.toUInt8 = true ∧
            Lexer.isDigitIn (Lexer.numberBase l.token.text) c.toUInt8 = false)
  /-- It starts an invalid token: a number, the letter or underscore right behind it, and all
  characters of ASCII that continue a name from there on. -/
  | glued (literal : Bytes) (first : UInt8) (tail : Bytes) (hkind : l.token.kind = .invalid)
      (hliteral : literal.head?.any Lexer.isDigit = true)
      (htext : l.token.text = literal ++ first :: tail) (hfirst : Lexer.isNameStart first = true)
      (htail : ∀ b ∈ tail, Lexer.isNamePart b = true)
      (hbehind : ∀ b, (content.drop l.token.span.stop.toNat).head? = some b →
        Lexer.isNamePart b = false)
      (htold : l.diagnostics =
        [.ofError .badNumber l.token.span (utf8 "invalid suffix on number literal")])
  /-- It starts a number that is malformed in itself. -/
  | malformed (message : Bytes) (hkind : l.token.kind = .invalid)
      (htold : l.diagnostics = [.ofError .badNumber l.token.span message])

namespace Cursor

/-- A complaint about a whole token is about its span. -/
theorem complain_lexemeOf (c : Cursor) (s : Lexer.Scan) (complaint : Lexer.Complaint)
    (hsize : s.size ≤ c.rest.length) :
    Lexer.complain c.file c.offset (s.size, complaint) =
      .ofError complaint.code (c.lexemeOf s).token.span complaint.message := by
  have hstop : (c.advance s.size).offset = c.offset + UInt32.ofNat s.size := by
    show UInt32.ofNat (c.offset.toNat + (c.rest.take s.size).length) = _
    rw [List.length_take, Nat.min_eq_left hsize, UInt32.ofNat_add, UInt32.ofNat_toNat]
  rw [Lexer.complain, lexemeOf, spanFrom, hstop]
  rfl

/-- A digit ahead of a cursor starts a number, or an invalid token. -/
theorem endsNumber_lexemeOf {c : Cursor} {s : Lexer.Scan} (h : Lexer.scan? c.rest = some s)
    (hdigit : c.rest.head?.any Lexer.isDigit = true) : (c.lexemeOf s).EndsNumber c.content := by
  have hbehind : c.content.drop (c.lexemeOf s).token.span.stop.toNat = c.rest.drop s.size :=
    (c.advance s.size).rest_eq.symm
  have hfits := Lexer.fits_scan? h
  obtain rfl := Option.some.inj ((Lexer.scan?_of_digit hdigit).symm.trans h)
  generalize hscan : Lexer.scanNumber c.rest = s at *
  have hends := hscan ▸ Lexer.numberEnds_scanNumber hdigit
  cases hends with
  | @number kind size hkind hnext =>
    have htext : (c.lexemeOf ⟨kind, size, []⟩).token.text = c.rest.take size := by
      rcases hkind with rfl | rfl <;> rfl
    refine .number hkind rfl fun d n hd hname => ?_
    rw [hbehind] at hd
    by_cases hascii : d.toNat < 0x80
    · obtain ⟨hhead, hpart⟩ := Lexer.isNamePart_of_decode? hd hascii hname
      obtain ⟨hstart, hbase⟩ := hnext _ hhead
      rw [Lexer.isNamePart, hstart, Bool.false_or] at hpart
      exact .inr ⟨hpart, by rwa [htext]⟩
    · exact .inl (Nat.le_of_not_lt hascii)
  | @glued taken htaken hstart =>
    have htold := complain_lexemeOf c
      (.bad (taken + (Lexer.nameTail (c.rest.drop taken)).length) .badSuffix) .badSuffix
      (hfits _ List.mem_cons_self)
    obtain ⟨first, more, hmore⟩ : ∃ first more, c.rest.drop taken = first :: more := by
      cases hrest : c.rest.drop taken with
      | nil => simp [hrest] at hstart
      | cons first more => exact ⟨first, more, rfl⟩
    rw [hmore] at hstart
    have hpart : Lexer.isNamePart first = true := by
      rw [Lexer.isNamePart, show Lexer.isNameStart first = true from hstart, Bool.true_or]
    have htail : Lexer.nameTail (c.rest.drop taken) =
        first :: more.takeWhile Lexer.isNamePart := by
      rw [hmore, Lexer.nameTail, List.takeWhile_cons_of_pos hpart]
    have hfront : Lexer.nameTail (c.rest.drop taken) =
        (c.rest.drop taken).take (Lexer.nameTail (c.rest.drop taken)).length :=
      List.prefix_iff_eq_take.mp (List.takeWhile_prefix _)
    refine .glued (c.rest.take taken) first (more.takeWhile Lexer.isNamePart) rfl ?_ ?_ hstart ?_ ?_
      (congrArg (fun d => [d]) htold)
    · rwa [Lexer.any_head?_take htaken]
    · show c.rest.take (taken + (Lexer.nameTail (c.rest.drop taken)).length) = _
      rw [List.take_add, ← hfront, htail]
    · exact fun b hb => List.all_eq_true.mp List.all_takeWhile b hb
    · intro b hb
      rw [hbehind] at hb
      have hdrop : ((c.rest.drop taken).drop
          (Lexer.nameTail (c.rest.drop taken)).length).head? = some b := by
        rwa [List.drop_drop]
      exact Lexer.not_behind_takeWhile hdrop
  | @malformed size complaint hcode =>
    have htold := complain_lexemeOf c (.bad size complaint) complaint (hfits _ List.mem_cons_self)
    rw [hcode] at htold
    exact .malformed complaint.message rfl (congrArg (fun d => [d]) htold)

/-- A digit at which a lexeme ahead of a cursor starts is one of a number. -/
theorem endsNumber_lexemes (c : Cursor) : ∀ l ∈ c.lexemes,
    (c.content.drop l.token.span.start.toNat).head?.any Lexer.isDigit = true →
      l.EndsNumber c.content := by
  induction c using Cursor.lexemes.induct with
  | case1 c h =>
    rw [lexemes_of_none h]
    refine List.forall_mem_singleton.mpr fun hdigit => ?_
    have hrest : c.skipTrivia.rest.head?.any Lexer.isDigit = true := by
      rwa [c.skipTrivia.rest_eq]
    rw [Lexer.scan?_of_digit hrest] at h
    cases h
  | case2 c s h ih =>
    rw [lexemes_of_some h]
    refine List.forall_mem_cons.mpr ⟨fun hdigit => ?_, ih⟩
    refine endsNumber_lexemeOf h ?_
    rwa [c.skipTrivia.rest_eq]

/-- A number ahead of a cursor starts with a digit. -/
theorem digit_of_number (c : Cursor) : ∀ l ∈ c.lexemes,
    l.token.kind = .integer ∨ l.token.kind = .float →
      (c.content.drop l.token.span.start.toNat).head?.any Lexer.isDigit = true := by
  induction c using Cursor.lexemes.induct with
  | case1 c h =>
    rw [lexemes_of_none h]
    refine List.forall_mem_singleton.mpr fun hkind => ?_
    rcases hkind with hkind | hkind <;> cases hkind
  | case2 c s h ih =>
    rw [lexemes_of_some h]
    refine List.forall_mem_cons.mpr ⟨fun hkind => ?_, ih⟩
    have hdigit := Lexer.digit_of_scan? h hkind
    rwa [c.skipTrivia.rest_eq] at hdigit

end Cursor

/-- A number of a source starts with a digit, and each digit at which a token of a source starts is
that of a number, or of an invalid token which is all that lexing complains about. No letter and no
underscore is glued to a number, and no digit of its base: what follows it continues a name only if
it is beyond ASCII or a decimal digit that the base does not have. -/
theorem SourceFile.endsNumber_of_mem (f : SourceFile) {l : Lexeme} (hl : l ∈ f.lexemes) :
    (l.token.kind = .integer ∨ l.token.kind = .float →
      (f.content.drop l.token.span.start.toNat).head?.any Lexer.isDigit = true) ∧
      ((f.content.drop l.token.span.start.toNat).head?.any Lexer.isDigit = true →
        l.EndsNumber f.content) := by
  have hsize : f.content.length < UInt32.size := by
    by_contra hsize
    rw [lexemes_eq_nil hsize] at hl
    cases hl
  rw [lexemes_eq hsize] at hl
  exact ⟨Cursor.digit_of_number _ l hl, Cursor.endsNumber_lexemes _ l hl⟩

/-- A binary number with a digit behind it that is not binary. -/
def gluedSource : SourceFile :=
  .ofContent 0 (utf8 "a.ez") (utf8 "0b12") 0

/-- The lexeme of the binary number. -/
def gluedNumber : Lexeme :=
  ⟨⟨.integer, ⟨0, 0, 3⟩, utf8 "0b1"⟩, []⟩

theorem gluedNumber_mem : gluedNumber ∈ gluedSource.lexemes := by
  decide +kernel

/-- The digit behind the binary number is not one of its base. -/
theorem endsNumber_gluedNumber : gluedNumber ∈ gluedSource.lexemes ∧
    gluedNumber.EndsNumber gluedSource.content ∧
      Utf8.decode? (gluedSource.content.drop gluedNumber.token.span.stop.toNat) = some ('2', 1) ∧
        Lexer.isDigitIn (Lexer.numberBase gluedNumber.token.text) '2'.toUInt8 = false :=
  ⟨gluedNumber_mem, (gluedSource.endsNumber_of_mem gluedNumber_mem).2 (by decide +kernel),
    by decide +kernel, by decide +kernel⟩

/-- So what follows a number may continue a name. -/
theorem not_nameEnds_behind_number :
    ¬∀ (f : SourceFile) (l : Lexeme), l ∈ f.lexemes → l.token.kind = .integer →
      ∀ c n, Utf8.decode? (f.content.drop l.token.span.stop.toNat) = some (c, n) →
        Lexer.isNamePartChar c = false :=
  fun h => absurd (h _ _ gluedNumber_mem rfl '2' 1 (by decide +kernel)) (by decide)

-- A letter beyond ASCII starts a name of its own behind a number.
example : (SourceFile.ofContent 0 (utf8 "a.ez") (utf8 "12é") 0).lexemes.map (·.token.kind) =
    [.integer, .identifier, .endOfFile] := by
  decide +kernel

end ThreeAddress
