import ThreeAddress.Proofs.Analysis.Running
import ThreeAddress.Proofs.Lexer.Lexemes

/-!
# Syntax errors

Without a bound on errors and over a sink that takes everything, an analysis reports a syntax error
for exactly the sources that the grammar does not derive.

## Main results

* `noSyntaxError_iff_isProgram` : no syntax error is reported if and only if the tokens of the
  source are derived by the grammar.
-/

namespace ThreeAddress

open Parse (Event Input IsProgram IsBody Complains parseProgram)

/-- The tokens of a source. -/
def SourceFile.tokens (f : SourceFile) : List Token :=
  f.lexemes.map Lexeme.token

/-- The input that parsing gets of a source. -/
def SourceFile.input (f : SourceFile) : Input :=
  .ofLexemes f.lexemes

namespace SourceFile

variable {f : SourceFile}

/-- Parsing gets the tokens of a source in front of its end marker. -/
theorem exists_tokens (h : f.content.length < UInt32.size) :
    ∃ stop : Token, f.tokens = f.input.tokens ++ [stop] ∧ stop.kind = .endOfFile := by
  obtain ⟨front, stop, hls, -, hstop, -, hahead⟩ := f.exists_lexemes h
  refine ⟨stop.token, ?_, hstop⟩
  rw [tokens, Input.tokens, input, hahead, hls, List.map_append, List.map_singleton]

/-- The tokens that parsing gets are scanned. -/
theorem exists_scanned (h : f.content.length < UInt32.size) {t : Token}
    (ht : t ∈ f.input.tokens) : ∃ l : Lexeme, l.IsScanned ∧ l.token = t := by
  obtain ⟨front, stop, -, hscanned, -, -, hahead⟩ := f.exists_lexemes h
  obtain ⟨l, hl, rfl⟩ := List.mem_map.mp ht
  rw [input, hahead] at hl
  exact ⟨l, hscanned l hl, rfl⟩

theorem valid_input (hvalid : ∀ t ∈ f.tokens, t.kind ≠ .invalid)
    (h : f.content.length < UInt32.size) : f.input.Valid := by
  obtain ⟨stop, htokens, -⟩ := f.exists_tokens h
  exact fun t ht => hvalid t (by rw [htokens]; exact List.mem_append_left _ ht)

/-- Deriving a source is deriving the statements in front of its end marker. -/
theorem isProgram_iff (h : f.content.length < UInt32.size) {b : Parse.Body} :
    IsProgram f.tokens b ↔ IsBody f.input.tokens b := by
  obtain ⟨stop, htokens, hstop⟩ := f.exists_tokens h
  rw [htokens]
  constructor
  · rintro ⟨us, stop', heq, -, hb⟩
    obtain ⟨rfl, -⟩ := List.append_inj' heq rfl
    exact hb
  · intro hb
    exact ⟨_, stop, rfl, hstop, hb⟩

/-- What lexing found about the tokens of a source is no syntax error. -/
theorem isLexical_events (h : f.content.length < UInt32.size) :
    ∀ e ∈ parseProgram f.input, Analysis.IsLexical e := by
  obtain ⟨front, stop, -, hscanned, -, -, hahead⟩ := f.exists_lexemes h
  rintro e he l rfl d hd hcode
  have hl : l ∈ f.input.ahead := Parse.from_parseProgram f.input _ he
  rw [input, hahead] at hl
  have hbound := (hscanned l hl).code hd
  have hsyntax := hcode.1
  omega

end SourceFile

namespace Analysis

/-- The state behind all events of a source. -/
def final (limits : Limits) (g : Generator) (f : SourceFile) : State :=
  (parseProgram f.input).foldl (act limits) (.start limits g)

variable {limits : Limits} {g : Generator} {f : SourceFile}

theorem ready_final (hg : g.sink.Open) : (final limits g f).Ready :=
  ready_foldl limits (State.ready_start limits hg) _

/-- Over a sink that takes everything, the outcome comes from acting on every event. -/
theorem run_eq (hg : g.sink.Open) : run limits g f.lexemes = (final limits g f).outcome := by
  rw [run, foldl_step limits (State.ready_start limits hg)]
  rfl

/-- Over a sink that takes everything, nothing fails. -/
theorem failure_run (hg : g.sink.Open) : (run limits g f.lexemes).failure = none := by
  rw [run_eq hg]
  simp only [State.outcome, (ready_final hg).running]

/-- The parser accepts exactly its grammar: for a source without invalid tokens, without a bound on
errors and over a sink that takes everything, no syntax error is reported if and only if the tokens
are derived by the grammar. -/
theorem noSyntaxError_iff_isProgram (hsize : f.content.length < UInt32.size - 1)
    (hvalid : ∀ t ∈ f.tokens, t.kind ≠ .invalid) (hlimit : limits.maxErrors = 0)
    (hg : g.sink.Open) :
    (∀ r ∈ (run limits g f.lexemes).reports, ¬ r.diagnostic.code.IsSyntax) ↔
      ∃ b, IsProgram f.tokens b := by
  have hfits : f.content.length < UInt32.size := Nat.lt_of_lt_of_le hsize (Nat.sub_le _ _)
  have herroneous : (final limits g f).Erroneous ↔
      (State.start limits g).Erroneous ∨ Complains (parseProgram f.input) :=
    erroneous_foldl (State.ready_start limits hg) hlimit (f.isLexical_events hfits)
  have hstart : ¬ (State.start limits g).Erroneous := by simp [State.Erroneous, State.start]
  calc (∀ r ∈ (run limits g f.lexemes).reports, ¬ r.diagnostic.code.IsSyntax)
      ↔ ¬ (final limits g f).Erroneous := by
        rw [run_eq hg]
        simp [State.Erroneous, State.outcome]
    _ ↔ ¬ Complains (parseProgram f.input) := by rw [herroneous, or_iff_right hstart]
    _ ↔ ∃ b, IsBody f.input.tokens b :=
        Parse.not_complains_parseProgram_iff (f.valid_input hvalid hfits)
    _ ↔ ∃ b, IsProgram f.tokens b := by simp only [SourceFile.isProgram_iff hfits]

/-! ### A source that is derived -/

/-- A source with a block, an array, an index and operators of several levels. -/
def sampleSource : SourceFile :=
  .ofContent 0 (utf8 "sample.ez") (utf8 "\x7b let a: [2]i32; a[-1 + 2]; \x7d") 0

/-- A token of the sample at an offset. -/
def sampleToken (kind : TokenKind) (start : UInt32) (text : String) : Token :=
  ⟨kind, ⟨0, start, start + UInt32.ofNat (utf8 text).length⟩, utf8 text⟩

/-- The tree of the index in the sample. -/
def samplePlace : Parse.ExprTree :=
  .binary (sampleToken .plus 22 "+")
    (.unary (sampleToken .minus 19 "-") (.literal (sampleToken .integer 20 "1")))
    (.literal (sampleToken .integer 24 "2"))

/-- The tree of the sample. -/
def sampleBody : Parse.Body :=
  .block
    (.declare (sampleToken .identifier 6 "a")
      (.array (sampleToken .integer 10 "2") (.scalar .int32))
      (.expression
        (.index (sampleToken .identifier 17 "a") samplePlace (sampleToken .rightBracket 25 "]"))
        .done))
    .done

theorem isExpr_samplePlace : Parse.IsExpr .expr
    ([sampleToken .minus 19 "-", sampleToken .integer 20 "1"] ++
      sampleToken .plus 22 "+" :: [sampleToken .integer 24 "2"]) samplePlace :=
  .sum (.ofTerm (.ofUnary (.unary (.inl rfl) (.ofFactor (.literal rfl))))) (.inl rfl)
    (.ofUnary (.ofFactor (.literal rfl)))

theorem isProgram_sample : IsProgram sampleSource.tokens sampleBody := by
  have hindex := @Parse.IsExpr.index _ (sampleToken .identifier 17 "a")
    (sampleToken .leftBracket 18 "[") (sampleToken .rightBracket 25 "]") _ rfl rfl
    isExpr_samplePlace rfl
  have htype : Parse.IsType
      [sampleToken .leftBracket 9 "[", sampleToken .integer 10 "2",
        sampleToken .rightBracket 11 "]", sampleToken .identifier 12 "i32"]
      (.array (sampleToken .integer 10 "2") (.scalar .int32)) :=
    .array rfl rfl rfl (.scalar rfl rfl)
  have hstmt := @IsBody.expression (sampleToken .semicolon 26 ";") _ _ _ _
    (.ofTerm (.ofUnary (.ofFactor hindex))) rfl .done
  have hlet := @IsBody.declare (sampleToken .keywordLet 2 "let") (sampleToken .identifier 6 "a")
    (sampleToken .colon 7 ":") (sampleToken .semicolon 15 ";") _ _ _ _ rfl rfl rfl htype rfl hstmt
  have hblock := @IsBody.block (sampleToken .leftBrace 0 "\x7b")
    (sampleToken .rightBrace 28 "\x7d") _ _ _ _ rfl hlet rfl .done
  exact ⟨_, sampleToken .endOfFile 29 "", by decide +kernel, rfl, hblock⟩

/-- The sample is derived, so no syntax error is reported for it. -/
theorem noSyntaxError_sample :
    IsProgram sampleSource.tokens sampleBody ∧
      ∀ r ∈ (run {} {} sampleSource.lexemes).reports, ¬ r.diagnostic.code.IsSyntax :=
  ⟨isProgram_sample,
    (noSyntaxError_iff_isProgram (by decide +kernel) (by decide +kernel) rfl .recorder).mpr
      ⟨sampleBody, isProgram_sample⟩⟩

end Analysis

end ThreeAddress
