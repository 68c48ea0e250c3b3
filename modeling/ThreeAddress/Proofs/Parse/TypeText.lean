import ThreeAddress.Proofs.Lexer.IntegerText
import ThreeAddress.Proofs.Lexer.Rescanning
import ThreeAddress.Proofs.Parse.Completeness
import ThreeAddress.Proofs.Parse.Printing
import ThreeAddress.Proofs.Text.Decimal

/-!
# Reading back the spelling of a type

The spelling of an array type puts its count between brackets and the spelling of its elements
behind them, with no blank anywhere. The words still come apart: a bracket is a word by itself, a
count ends at the bracket behind it, and the name of a scalar stands at the end. So the spelling of
a declarable type is read as its words, and these as the type. A spelling is that of one type alone.

## Main definitions

* `Word.joined` : the text of words that stand side by side.
* `Word.Apart` : words that come apart although nothing stands between them.
* `DataType.IsDeclarable` : the scalar types, and the arrays of at least one element over them.
* `DataType.words` : the words of a type.
* `SourceFile.SpellsType` : what lexing and parsing make of the spelling of a type.

## Main results

* `Word.Apart.lexemes` : words that come apart are read one by one.
* `DataType.IsDeclarable.apart_words` : the words of a declarable type come apart.
* `Parse.reads_words` : the words of a declarable type are read as the type.
* `DataType.eq_of_render` : a spelling is that of one declarable type alone.
* `Parse.spellsType_render` : the spelling of a declarable type is read back.
-/

namespace ThreeAddress

open Lexer

/-! ### Words side by side -/

namespace Word

/-- The text of words with nothing between them. -/
def joined (ws : List Word) : Bytes :=
  ws.flatMap Word.text

theorem joined_cons (w : Word) (ws : List Word) : joined (w :: ws) = w.text ++ joined ws :=
  List.flatMap_cons

/-- Words come apart although nothing stands between them: each is read in front of the others. -/
inductive Apart : List Word → Prop where
  | nil : Apart []
  | cons {w : Word} {ws : List Word} (hopens : triviaSize (joined (w :: ws)) = 0)
      (hscan : scan? (joined (w :: ws)) = some ⟨w.kind, w.text.length, []⟩)
      (htext : tokenText w.kind w.text = w.text) (h : Apart ws) : Apart (w :: ws)

/-- Words that come apart are read one by one, without a complaint. -/
theorem Apart.lexemes {ws : List Word} (h : Apart ws) {c : Cursor} (hc : c.rest = joined ws) :
    ∃ front stop, c.lexemes = front ++ [stop] ∧ (front.map fun l => l.token.word) = ws ∧
      ∀ l ∈ front ++ [stop], l.diagnostics = [] := by
  induction h generalizing c with
  | nil =>
    have hnone : scan? c.skipTrivia.rest = none := by
      rw [Cursor.skipTrivia, Cursor.rest_advance, hc]
      rfl
    exact ⟨[], _, Cursor.lexemes_of_none hnone, rfl, by simp [Cursor.endLexeme]⟩
  | @cons w ws hopens hscan htext _ ih =>
    have hskip : c.skipTrivia.rest = w.text ++ joined ws := by
      rw [Cursor.skipTrivia, Cursor.rest_advance, hc, hopens, List.drop_zero, joined_cons]
    have hbehind : (c.skipTrivia.advance w.text.length).rest = joined ws := by
      rw [Cursor.rest_advance, hskip, List.drop_left]
    have hword : (c.skipTrivia.lexemeOf ⟨w.kind, w.text.length, []⟩).token.word = w := by
      simp only [Cursor.lexemeOf, Token.word, hskip, List.take_left, htext]
    rw [joined_cons, ← hskip] at hscan
    obtain ⟨front, stop, hlexemes, hwords, hsilent⟩ := ih hbehind
    refine ⟨_ :: front, stop, ?_, congrArg₂ List.cons hword hwords,
      List.forall_mem_cons.mpr ⟨rfl, hsilent⟩⟩
    rw [Cursor.lexemes_of_some hscan, hlexemes]
    rfl

end Word

/-- A source of words that come apart is read word by word, without a complaint. -/
theorem SourceFile.words_of_joined {f : SourceFile} {ws : List Word} (h : Word.Apart ws)
    (hsize : f.content.length < UInt32.size) (hcontent : f.content = Word.joined ws) :
    (Parse.Input.ofLexemes f.lexemes).tokens.map Token.word = ws ∧
      ∀ l ∈ f.lexemes, l.diagnostics = [] := by
  obtain ⟨front, stop, hlexemes, hwords, hsilent⟩ :=
    h.lexemes (c := ⟨f.id, f.content, 0, f.content, hsize, Nat.zero_le _, rfl⟩) hcontent
  rw [← SourceFile.lexemes_eq hsize] at hlexemes
  obtain ⟨front', stop', hlexemes', -, -, -, hahead⟩ := f.exists_lexemes hsize
  obtain ⟨rfl, -⟩ := List.append_inj' (hlexemes.symm.trans hlexemes') rfl
  refine ⟨?_, hlexemes ▸ hsilent⟩
  rw [Parse.Input.tokens, hahead, List.map_map]
  exact hwords

/-! ### Counts -/

namespace Lexer

theorem exists_decimal_cons (n : Nat) : ∃ z ds, decimal n = z :: ds ∧ isDigit z = true := by
  obtain ⟨z, ds, hdecimal⟩ := List.exists_cons_of_ne_nil (decimal_ne_nil n)
  exact ⟨z, ds, hdecimal, isDigit_of_mem_decimal (n := n) (hdecimal ▸ List.mem_cons_self)⟩

theorem isSeparated_of_notMem {run : Bytes} (h : '_'.toUInt8 ∉ run) : isSeparated run = true := by
  induction run with
  | nil => rfl
  | cons a run ih =>
    obtain ⟨ha, hrun⟩ := not_or.mp (mt List.mem_cons.mpr h)
    have hne : (a == '_'.toUInt8) = false := beq_false_of_ne (Ne.symm ha)
    cases run with
    | nil => simp [isSeparated, bne, hne]
    | cons b run => rw [isSeparated, hne, ih hrun]; rfl

/-- The digits of a count end at the bracket behind them. -/
theorem digitRun_decimal (n : Nat) (r : Bytes) :
    digitRun isDigit (decimal n ++ ']'.toUInt8 :: r) = decimal n := by
  have hdigits : ∀ x ∈ decimal n, (isDigit x || x == '_'.toUInt8) = true := fun x hx => by
    rw [isDigit_of_mem_decimal hx, Bool.true_or]
  have hhead : (decimal n ++ ']'.toUInt8 :: r).head?.any isDigit = true := by
    obtain ⟨z, ds, hdecimal, hz⟩ := exists_decimal_cons n
    rw [head?_decimal_append, hdecimal]
    exact hz
  rw [digitRun, if_pos hhead, List.takeWhile_append_of_pos hdigits,
    List.takeWhile_cons_of_neg (by decide), List.append_nil]

theorem triviaSize_decimal (n : Nat) (r : Bytes) : triviaSize (decimal n ++ r) = 0 := by
  have hdigit (z : UInt8) : isDigit z = true → (isBlank z || z == '/'.toUInt8) = false :=
    forall_byte (p := fun z => isDigit z = true → (isBlank z || z == '/'.toUInt8) = false)
      (by decide +kernel) z
  obtain ⟨z, ds, hdecimal, hz⟩ := exists_decimal_cons n
  obtain ⟨hblank, hslash⟩ := Bool.or_eq_false_iff.mp (hdigit z hz)
  rw [hdecimal, List.cons_append, triviaSize, triviaFrom, hblank, hslash]
  rfl

/-- A count in front of a closing bracket is read as an integer. -/
theorem scan?_decimal {n : Nat} (hn : n ≠ 0) (r : Bytes) :
    scan? (decimal n ++ ']'.toUInt8 :: r) = some ⟨.integer, (decimal n).length, []⟩ := by
  have hrun := digitRun_decimal n r
  have hseparated : isSeparated (decimal n) = true :=
    isSeparated_of_notMem (notMem_decimal (by decide) n)
  have hnumber : scanNumber (decimal n ++ ']'.toUInt8 :: r) =
      ⟨.integer, (decimal n).length, []⟩ := by
    have hplain := @scanDecimal_of_plain (decimal n ++ ']'.toUInt8 :: r) (by rwa [hrun])
    rw [hrun, List.drop_left] at hplain
    rw [scanNumber_eq_scanDecimal,
      hplain fun d more heq => absurd (List.cons.inj heq).1 (by decide)]
    · rfl
    · intro b rest heq
      have hhead := congrArg List.head? heq
      rw [head?_decimal_append] at hhead
      exact absurd hhead (head?_decimal_ne hn)
  have hdigit (z : UInt8) : isDigit z = true → (isNameStart z || decide (0x80 ≤ z)) = false :=
    forall_byte (p := fun z => isDigit z = true → (isNameStart z || decide (0x80 ≤ z)) = false)
      (by decide +kernel) z
  obtain ⟨z, ds, hdecimal, hz⟩ := exists_decimal_cons n
  rw [hdecimal] at hnumber ⊢
  rw [List.cons_append, scan?, hdigit z hz, hz]
  exact congrArg some hnumber

end Lexer

/-! ### Types -/

namespace DataType

/-- The types that are named by a word. -/
def scalars : List DataType :=
  [int32, int64, float32, float64, char, bool]

/-- The types that are built from the scalar types as arrays of at least one element. -/
inductive IsDeclarable : DataType → Prop where
  | scalar {t : DataType} (h : t ∈ scalars) : IsDeclarable t
  | array {elem : DataType} {count : UInt32} (helem : IsDeclarable elem) (hcount : count ≠ 0) :
      IsDeclarable (array elem count)

/-- The words of a type. -/
def words : DataType → List Word
  | leaf k _ => [.name k.name]
  | compound _ n t =>
    .mark .leftBracket :: ⟨.integer, decimal n.toNat⟩ :: .mark .rightBracket :: t.words

/-- The words of a declarable type, side by side, are its spelling. -/
theorem IsDeclarable.joined_words {t : DataType} (h : t.IsDeclarable) :
    Word.joined t.words = t.render := by
  induction h with
  | scalar h =>
    have hscalars : ∀ t ∈ scalars, Word.joined t.words = t.render := by decide
    exact hscalars _ h
  | @array elem count _ _ ih =>
    show utf8 "[" ++ (decimal count.toNat ++ (utf8 "]" ++ Word.joined elem.words)) =
      utf8 "[" ++ decimal count.toNat ++ utf8 "]" ++ elem.render
    rw [ih, List.append_assoc, List.append_assoc]

/-- The words of a declarable type come apart: a count ends at the bracket behind it. -/
theorem IsDeclarable.apart_words {t : DataType} (h : t.IsDeclarable) : Word.Apart t.words := by
  induction h with
  | scalar h =>
    simp only [scalars, List.mem_cons, List.not_mem_nil, or_false] at h
    rcases h with rfl | rfl | rfl | rfl | rfl | rfl <;>
    · exact .cons (by decide +kernel) (by decide +kernel) (by decide +kernel) .nil
  | @array elem count _ hcount ih =>
    have hn : count.toNat ≠ 0 := fun hzero => hcount (UInt32.toNat_inj.mp hzero)
    have hclosing : Word.Apart (.mark .rightBracket :: elem.words) := .cons rfl rfl rfl ih
    have hsize :
        Word.Apart (⟨.integer, decimal count.toNat⟩ :: .mark .rightBracket :: elem.words) :=
      .cons (triviaSize_decimal _ _) (scan?_decimal hn _) rfl hclosing
    exact .cons rfl rfl rfl hsize

/-- A declarable type is the same as itself. -/
theorem IsDeclarable.same_self {t : DataType} (h : t.IsDeclarable) : t.same t = true := by
  induction h with
  | scalar h =>
    have hscalars : ∀ t ∈ scalars, t.same t = true := by decide
    exact hscalars _ h
  | @array elem count _ _ ih =>
    show (_ == _ && _ == _ && (_ || elem.same elem)) = true
    rw [ih]
    simp

/-- The spelling of an array type: its count between brackets, and the spelling of its elements. -/
theorem render_array (elem : DataType) (count : UInt32) : (array elem count).render =
    '['.toUInt8 :: (decimal count.toNat ++ ']'.toUInt8 :: elem.render) := by
  have hbrackets : utf8 "[" = ['['.toUInt8] ∧ utf8 "]" = [']'.toUInt8] := by decide
  rw [array, render, hbrackets.1, hbrackets.2, List.append_assoc, List.append_assoc]
  rfl

/-- No name of a scalar type starts with a bracket. -/
theorem head?_render_ne : ∀ t ∈ scalars, t.render.head? ≠ some '['.toUInt8 := by
  decide

/-- The name of a scalar type is read as the type. -/
theorem ofName?_render : ∀ t ∈ scalars, ofName? t.render = some t ∧ t.words = [.name t.render] := by
  decide

/-- A spelling is that of one declarable type alone. -/
theorem eq_of_render {s t : DataType} (hs : s.IsDeclarable) (ht : t.IsDeclarable)
    (h : s.render = t.render) : s = t := by
  induction hs generalizing t with
  | @scalar s hs =>
    cases ht with
    | scalar ht =>
      have hname := (ofName?_render s hs).1
      rw [h, (ofName?_render t ht).1] at hname
      exact (Option.some.inj hname).symm
    | array _ _ => exact absurd (by rw [h, render_array]; rfl) (head?_render_ne s hs)
  | @array elem count _ _ ih =>
    cases ht with
    | scalar ht => exact absurd (by rw [← h, render_array]; rfl) (head?_render_ne t ht)
    | @array elem' count' helem' _ =>
      -- the counts are the digits at the front of what stands behind the opening bracket
      rw [render_array, render_array] at h
      have hrest := (List.cons.inj h).2
      have hdigits := congrArg (digitRun isDigit) hrest
      rw [digitRun_decimal, digitRun_decimal] at hdigits
      obtain rfl := UInt32.toNat_inj.mp (decimal_injective hdigits)
      rw [ih helem' (List.cons.inj (List.append_cancel_left hrest)).2]

end DataType

namespace Parse

/-- A count is read as a size. -/
theorem sizeValue?_decimal {n : UInt32} (h : n ≠ 0) : sizeValue? (decimal n.toNat) = some n := by
  have hn : n.toNat ≠ 0 := fun hzero => h (UInt32.toNat_inj.mp hzero)
  have hbound : n.toNat ≤ maxSize := Nat.le_sub_one_of_lt n.toNat_lt
  rw [sizeValue?, Integer.readNat_announced_decimal hn hbound]
  simp [hn]

/-- Tokens with the words of a declarable type are derived as a tree that stands for the type, and
there is nothing to complain about. -/
theorem exists_isType {t : DataType} (h : t.IsDeclarable) {ts : List Token}
    (hts : ts.map Token.word = t.words) :
    ∃ tree, IsType ts tree ∧ tree.denote = t ∧ tree.events = [] := by
  induction h generalizing ts with
  | @scalar t h =>
    obtain ⟨hname, hwords⟩ := DataType.ofName?_render t h
    rw [hwords] at hts
    obtain ⟨name, us, rfl, hword, hus⟩ := List.map_eq_cons_iff.mp hts
    obtain rfl := List.map_eq_nil_iff.mp hus
    obtain ⟨hkind, htext⟩ := Word.mk.inj hword
    exact ⟨.scalar t, .scalar hkind (by rw [htext, hname]), rfl, rfl⟩
  | @array elem count _ hcount ih =>
    obtain ⟨opening, us, rfl, hopening, hus⟩ := List.map_eq_cons_iff.mp hts
    obtain ⟨size, vs, rfl, hsize, hvs⟩ := List.map_eq_cons_iff.mp hus
    obtain ⟨closing, ts, rfl, hclosing, hts⟩ := List.map_eq_cons_iff.mp hvs
    obtain ⟨tree, htree, hdenote, hevents⟩ := ih hts
    obtain ⟨hkind, htext⟩ := Word.mk.inj hsize
    have hvalue : sizeValue? size.text = some count := by
      rw [htext, sizeValue?_decimal hcount]
    refine ⟨.array size tree, .array (Word.Derives.kind_of_word hopening) hkind
      (Word.Derives.kind_of_word hclosing) htree, ?_, ?_⟩
    · rw [TypeTree.denote, hdenote, hvalue]
      rfl
    · rw [TypeTree.events, hevents, sizeEvents, hvalue]
      rfl

/-- The words of a declarable type are read as the type, whatever stands behind them. -/
theorem reads_words {t : DataType} (h : t.IsDeclarable) {i : Input} {ts us : List Token}
    (hts : ts.map Token.word = t.words) (hi : i.tokens = ts ++ us) :
    (parseType i).Reads t [] us := by
  obtain ⟨tree, htree, rfl, hevents⟩ := exists_isType h hts
  exact hevents ▸ reads_parseType htree hi

end Parse

/-- What lexing and parsing make of a source that spells a type. -/
structure SourceFile.SpellsType (f : SourceFile) (t : DataType) : Prop where
  /-- Lexing has nothing to tell. -/
  silent : ∀ l ∈ f.lexemes, l.diagnostics = []
  /-- Parsing yields the type. -/
  value : (Parse.parseType (.ofLexemes f.lexemes)).value = some t
  /-- Nothing comes up but looks at the tokens. -/
  quiet : ∀ e ∈ (Parse.parseType (.ofLexemes f.lexemes)).events, e.isLook = true
  /-- No token is left. -/
  rest : (Parse.parseType (.ofLexemes f.lexemes)).rest.ahead = []

namespace Parse

/-- The spelling of a declarable type is read back: in a source that lexing takes on it is read as
that very type, and as far as parsing goes its words are, whatever stands behind them and however
many they are. And no type that is not the same has this spelling. -/
theorem spellsType_render {t : DataType} (h : t.IsDeclarable) :
    t.same t = true ∧
    (∀ f : SourceFile, f.content = t.render → f.content.length < UInt32.size → f.SpellsType t) ∧
    (∀ (i : Input) (ts us : List Token), ts.map Token.word = t.words → i.tokens = ts ++ us →
      (parseType i).Reads t [] us) ∧
    ∀ s : DataType, s.IsDeclarable → s.render = t.render → s.same t = true := by
  refine ⟨h.same_self, fun f hcontent hsize => ?_, fun i ts us hts hi => reads_words h hts hi,
    fun s hs hrender => ?_⟩
  · obtain ⟨hwords, hsilent⟩ := SourceFile.words_of_joined h.apart_words hsize
      (hcontent.trans h.joined_words.symm)
    have hreads := reads_words h hwords (List.append_nil _).symm
    refine ⟨hsilent, hreads.value, fun e he => ?_, List.map_eq_nil_iff.mp hreads.rest⟩
    by_contra hlook
    have hmem := mem_significant.mpr ⟨he, Bool.eq_false_iff.mpr hlook⟩
    rw [hreads.events] at hmem
    cases hmem
  · rw [DataType.eq_of_render hs h hrender]
    exact h.same_self

/-- The spelling of an array of three arrays of two integers is read back. -/
theorem spellsType_render_matrix :
    (DataType.array (.array .int32 2) 3).IsDeclarable ∧
      (DataType.array (.array .int32 2) 3).render = utf8 "[3][2]i32" ∧
      (SourceFile.ofContent 0 (utf8 "a.ez") (utf8 "[3][2]i32") 0).SpellsType
        (.array (.array .int32 2) 3) ∧
      ∀ s : DataType, s.IsDeclarable → s.render = utf8 "[3][2]i32" →
        s.same (.array (.array .int32 2) 3) = true := by
  have hdeclarable : (DataType.array (.array .int32 2) 3).IsDeclarable :=
    .array (.array (.scalar (by decide)) (by decide)) (by decide)
  have hrender : (DataType.array (.array .int32 2) 3).render = utf8 "[3][2]i32" := by decide
  obtain ⟨-, hspells, -, hsame⟩ := spellsType_render hdeclarable
  exact ⟨hdeclarable, hrender, hspells _ hrender.symm (by decide +kernel),
    fun s hs heq => hsame s hs (heq.trans hrender.symm)⟩

end Parse

end ThreeAddress
