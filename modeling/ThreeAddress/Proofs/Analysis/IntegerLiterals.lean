import ThreeAddress.Analysis
import ThreeAddress.Proofs.Lexer.Lexemes
import ThreeAddress.Proofs.Parse.Unfold
import ThreeAddress.Proofs.Text.IntegerReading

/-!
# What integer literals mean

An integer literal has the type that its number needs and is a size if its number is one; a number
of more than 63 bits is complained about, and so is a size out of range. The number is the one that
the literal writes, but a decimal literal that starts with `0_` is taken for one of base 8.

## Main definitions

* `Token.IsNumber` : a token stands for a number, as an operand and as a size.

## Main results

* `Token.isNumber_readValue?` : a token stands for the number that its text reads as.
* `SourceFile.isNumber_of_integer` : what the integer literals of a source stand for.
-/

namespace ThreeAddress

open Analysis Parse

/-- A token stands for a number, or for none that would fit anywhere. -/
structure Token.IsNumber (t : Token) (value : Option Nat) : Prop where
  /-- A number of 31 bits is an operand of 32 bits. -/
  int32 : ∀ v ∈ value, v ≤ 2 ^ 31 - 1 → ∀ limits s,
    State.literal limits s t = s.pushOperand (some (.constant t .int32)) t.span
  /-- A larger one of 63 bits is an operand of 64 bits. -/
  int64 : ∀ v ∈ value, 2 ^ 31 - 1 < v → v ≤ 2 ^ 63 - 1 → ∀ limits s,
    State.literal limits s t = s.pushOperand (some (.constant t .int64)) t.span
  /-- Any other is complained about and gives no operand. -/
  overflows : (∀ v ∈ value, 2 ^ 63 - 1 < v) → ∀ limits s,
    State.literal limits s t =
      (s.report limits (.ofError .badNumber t.span
        (utf8 "integer literal " ++ t.text ++ utf8 " overflows i64"))).pushOperand none t.span
  /-- A positive number of 32 bits is a size. -/
  size : ∀ v ∈ value, 1 ≤ v → v ≤ 2 ^ 32 - 1 → ∀ (i : Input) (l r : Lexeme) (more : List Lexeme),
    i.ahead = l :: r :: more → l.token = t → r.token.kind = .rightBracket →
    (parseSize i).value = some (UInt32.ofNat v) ∧
      (parseSize i).events = i.lookEvents ++ i.tail.lookEvents
  /-- Any other is complained about and counts as 0. -/
  badSize : (∀ v ∈ value, v = 0 ∨ 2 ^ 32 - 1 < v) →
    ∀ (i : Input) (l r : Lexeme) (more : List Lexeme),
    i.ahead = l :: r :: more → l.token = t → r.token.kind = .rightBracket →
    (parseSize i).value = some 0 ∧
      (parseSize i).events = i.lookEvents ++ i.tail.lookEvents ++ [.complain (Parse.badSize t)]

/-- Typing goes by the number that is read. -/
theorem literal_of_integer {t : Token} (hk : t.kind = .integer) (h : Lexer.IsIntegerText t.text)
    (limits : Limits) (s : State) :
    s.literal limits t = match (Integer.readValue? t.text).filter (· < Integer.signBit) with
      | some v =>
        s.pushOperand (some (.constant t (if v ≤ 2 ^ 31 - 1 then .int32 else .int64))) t.span
      | none =>
        let message := utf8 "integer literal " ++ t.text ++ utf8 " overflows i64"
        (s.report limits (.ofError .badNumber t.span message)).pushOperand none t.span := by
  have hread := Integer.readInt64_of_isIntegerText h
  rw [State.literal, hk]
  cases hv : Integer.readInt64 .announced t.text with
  | ok n =>
    rw [hv] at hread
    obtain ⟨v, hvalue, rfl⟩ := Option.map_eq_some_iff.mp hread.symm
    rw [hvalue]
    have hle : (Int.ofNat v ≤ State.maxInt32) = (v ≤ 2 ^ 31 - 1) := by
      rw [State.maxInt32, Int.ofNat_eq_natCast]
      exact propext (by omega)
    simp only [hle]
  | error e =>
    rw [hv] at hread
    rw [Option.map_eq_none_iff.mp hread.symm]

/-- A size is the number that is read. -/
theorem sizeValue?_of_isIntegerText {text : Bytes} (h : Lexer.IsIntegerText text) :
    sizeValue? text =
      ((Integer.readValue? text).filter fun v => 1 ≤ v ∧ v ≤ 2 ^ 32 - 1).map UInt32.ofNat := by
  have hread := Integer.readNat_of_isIntegerText h maxSize
  rw [sizeValue?]
  cases hv : Integer.readNat .announced maxSize text with
  | ok n =>
    rw [hv] at hread
    obtain ⟨hvalue, hle⟩ := Option.filter_eq_some_iff.mp hread.symm
    have hle : n ≤ 2 ^ 32 - 1 := of_decide_eq_true hle
    rw [hvalue, Option.filter_some]
    by_cases hzero : n = 0
    · simp [hzero]
    · rw [if_pos (decide_eq_true ⟨Nat.pos_of_ne_zero hzero, hle⟩), Option.map_some]
      exact if_neg hzero
  | error e =>
    rw [hv] at hread
    symm
    rw [Option.map_eq_none_iff, Option.filter_eq_none_iff]
    intro v hvalue hfits
    have hlarge := Option.filter_eq_none_iff.mp hread.symm v hvalue
    exact hlarge (decide_eq_true (of_decide_eq_true hfits).2)

/-- A size and its closing bracket are read. -/
theorem parseSize_eq {i : Input} {l r : Lexeme} {more : List Lexeme} (h : i.ahead = l :: r :: more)
    (hl : l.token.kind = .integer) (hr : r.token.kind = .rightBracket) :
    (parseSize i).value = some ((sizeValue? l.token.text).getD 0) ∧
      (parseSize i).events = i.lookEvents ++ i.tail.lookEvents ++
        if sizeValue? l.token.text = none then [Event.complain (badSize l.token)] else [] := by
  have hhead : i.head = l.token := by rw [Input.head, h]
  have hkind : i.kind = .integer := (Input.kind_of_ahead h).trans hl
  have htail : i.tail.kind = .rightBracket :=
    (Input.kind_of_ahead (by rw [Input.ahead_tail, h, List.tail_cons])).trans hr
  have hfirst : Step.expect i .integer .expectType (utf8 "expected size") [] =
      .take i l.token [] := by rw [Step.expect, if_pos hkind, hhead]
  have hsecond : Step.expect i.tail .rightBracket .unclosedBracket
      (utf8 "expected ']' after size") [] = .take i.tail i.tail.head [] := if_pos htail
  rw [parseSize, hfirst]
  simp only [Step.bind, Step.take, hsecond, Step.after]
  cases sizeValue? l.token.text <;> simp [Step.pure, Step.remark]

/-- A token stands for the number that its text reads as. -/
theorem Token.isNumber_readValue? {t : Token} (hk : t.kind = .integer)
    (h : Lexer.IsIntegerText t.text) : t.IsNumber (Integer.readValue? t.text) where
  int32 := by
    intro v hv hle limits s
    have hlt : v < Integer.signBit := by simp only [Integer.signBit]; omega
    rw [literal_of_integer hk h, Option.mem_def.mp hv, Option.filter_some,
      if_pos (decide_eq_true hlt)]
    simp only [if_pos hle]
  int64 := by
    intro v hv hlarge hle limits s
    have hlt : v < Integer.signBit := by simp only [Integer.signBit]; omega
    rw [literal_of_integer hk h, Option.mem_def.mp hv, Option.filter_some,
      if_pos (decide_eq_true hlt)]
    simp only [if_neg (Nat.not_le.mpr hlarge)]
  overflows := by
    intro hlarge limits s
    have hnone : (Integer.readValue? t.text).filter (· < Integer.signBit) = none := by
      rw [Option.filter_eq_none_iff]
      intro v hv hlt
      have := hlarge v hv
      have := of_decide_eq_true hlt
      simp only [Integer.signBit] at this
      omega
    rw [literal_of_integer hk h, hnone]
  size := by
    intro v hv hpos hle i l r more hahead hl hr
    subst hl
    have hsize : sizeValue? l.token.text = some (UInt32.ofNat v) := by
      rw [sizeValue?_of_isIntegerText h, Option.mem_def.mp hv, Option.filter_some,
        if_pos (decide_eq_true ⟨hpos, hle⟩), Option.map_some]
    have hparse := parseSize_eq hahead hk hr
    simpa [hsize] using hparse
  badSize := by
    intro hbad i l r more hahead hl hr
    subst hl
    have hsize : sizeValue? l.token.text = none := by
      rw [sizeValue?_of_isIntegerText h, Option.map_eq_none_iff, Option.filter_eq_none_iff]
      intro v hv hfits
      have := hbad v hv
      have := of_decide_eq_true hfits
      omega
    have hparse := parseSize_eq hahead hk hr
    simpa [hsize] using hparse

/-- The text of an integer token is that of an integer literal. -/
theorem Lexeme.IsScanned.isIntegerText {l : Lexeme} (h : l.IsScanned)
    (hk : l.token.kind = .integer) : Lexer.IsIntegerText l.token.text := by
  obtain ⟨c, s, hs, rfl⟩ := h
  have hkind : s.kind = .integer := hk
  have htext : (c.lexemeOf s).token.text = c.rest.take s.size := by
    show Lexer.tokenText s.kind _ = _
    rw [hkind]
    rfl
  rw [htext]
  exact Lexer.isIntegerText_of_scan? hs hkind

/-- The integer literals of a source stand for the numbers that they write. A literal that starts
with `0_` stands for what its digits write in base 8 instead, and for no number if they are not
octal. -/
theorem SourceFile.isNumber_of_integer (f : SourceFile) {l : Lexeme} (hl : l ∈ f.lexemes)
    (hk : l.token.kind = .integer) :
    (¬utf8 "0_" <+: l.token.text → l.token.IsNumber (some (Lexer.literalValue l.token.text))) ∧
      ∀ run, l.token.text = utf8 "0_" ++ run →
        Lexer.literalValue l.token.text = Lexer.valueIn 10 run ∧
        ((∀ b ∈ run, Lexer.isOctalDigit b = true ∨ b = '_'.toUInt8) →
          l.token.IsNumber (some (Lexer.valueIn 8 run))) ∧
        ((∃ b ∈ run, Lexer.isOctalDigit b = false ∧ b ≠ '_'.toUInt8) → l.token.IsNumber none) := by
  have hscanned : l.IsScanned := by
    by_cases hsize : f.content.length < UInt32.size
    · obtain ⟨front, stop, hlexemes, hfront, hstop, -⟩ := f.exists_lexemes hsize
      rw [hlexemes, List.mem_append, List.mem_singleton] at hl
      rcases hl with hl | rfl
      · exact hfront l hl
      · rw [hstop] at hk
        cases hk
    · rw [lexemes_eq_nil hsize] at hl
      cases hl
  have htext := hscanned.isIntegerText hk
  have hread := Token.isNumber_readValue? hk htext
  refine ⟨fun hplain => ?_, fun run hrun => ?_⟩
  · rwa [Integer.readValue?_eq hplain] at hread
  · have hrun : l.token.text = '0'.toUInt8 :: '_'.toUInt8 :: run := hrun
    rw [hrun] at hread ⊢
    refine ⟨?_, fun hoctal => ?_, fun hbad => ?_⟩
    · rw [Lexer.literalValue_decimal]
      · have hzero : Lexer.isDigitIn 10 '0'.toUInt8 = true := by decide
        rw [Lexer.valueIn_cons hzero, Lexer.valueIn_underscore,
          show Lexer.digitOf '0'.toUInt8 = 0 by decide, Nat.zero_mul, Nat.zero_add]
      · intro b rest heq
        exact (List.cons.inj (List.cons.inj heq).2).1.symm
    · rwa [Integer.readValue?, if_pos (by decide), if_pos] at hread
      exact List.all_eq_true.mpr fun b hb => by simpa using hoctal b hb
    · rwa [Integer.readValue?, if_pos (by decide), if_neg] at hread
      obtain ⟨b, hb, hdigit, hne⟩ := hbad
      intro hall
      have := List.all_eq_true.mp hall b hb
      simp [hdigit, hne] at this

/-- A declaration of an array whose size starts with `0_`. -/
def paddedSizeSource : SourceFile :=
  .ofContent 0 (utf8 "a.ez") (utf8 "let a: [0_17]i32;") 0

/-- The lexeme of the size. -/
def paddedSize : Lexeme :=
  ⟨⟨.integer, ⟨0, 8, 12⟩, utf8 "0_17"⟩, []⟩

/-- The input of parsing at the size. -/
def paddedSizeInput : Input :=
  .ofLexemes (paddedSizeSource.lexemes.drop 4)

theorem paddedSize_mem : paddedSize ∈ paddedSizeSource.lexemes := by
  decide +kernel

theorem ahead_paddedSizeInput : paddedSizeInput.ahead =
    [paddedSize, ⟨⟨.rightBracket, ⟨0, 12, 13⟩, utf8 "]"⟩, []⟩,
      ⟨⟨.identifier, ⟨0, 13, 16⟩, utf8 "i32"⟩, []⟩, ⟨⟨.semicolon, ⟨0, 16, 17⟩, utf8 ";"⟩, []⟩] := by
  decide +kernel

/-- The size is written as 17, but parsing takes it for 15. -/
theorem isNumber_paddedSize :
    paddedSize ∈ paddedSizeSource.lexemes ∧ Lexer.literalValue paddedSize.token.text = 17 ∧
      paddedSize.token.IsNumber (some 15) ∧ (parseSize paddedSizeInput).value = some 15 := by
  have hoctal : ∀ b ∈ utf8 "17", Lexer.isOctalDigit b = true ∨ b = '_'.toUInt8 := by
    decide +kernel
  have hnumber := ((paddedSizeSource.isNumber_of_integer paddedSize_mem rfl).2 (utf8 "17")
    (by decide)).2.1 hoctal
  have hvalue : Lexer.valueIn 8 (utf8 "17") = 15 := by decide +kernel
  rw [hvalue] at hnumber
  exact ⟨paddedSize_mem, by decide +kernel, hnumber,
    (hnumber.size 15 rfl (by decide) (by decide) _ _ _ _ ahead_paddedSizeInput rfl rfl).1⟩

/-- So not every integer literal stands for the number that it writes. -/
theorem not_isNumber_literalValue :
    ¬∀ (f : SourceFile) (l : Lexeme), l ∈ f.lexemes → l.token.kind = .integer →
      l.token.IsNumber (some (Lexer.literalValue l.token.text)) := by
  intro h
  have hnumber := h _ _ paddedSize_mem rfl
  have hvalue : Lexer.literalValue paddedSize.token.text = 17 := by decide +kernel
  rw [hvalue] at hnumber
  have hsize := (hnumber.size 17 rfl (by decide) (by decide) _ _ _ _ ahead_paddedSizeInput
    rfl rfl).1
  exact absurd hsize (by decide +kernel)

end ThreeAddress
