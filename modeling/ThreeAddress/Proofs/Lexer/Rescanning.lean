import ThreeAddress.Proofs.Lexer.Tiling

/-!
# Tokens without what follows them

A scan stops where its token ends, so the bytes of a token are read as that token again when nothing
stands behind them. The text of a literal therefore tells the literal, and no name is spelled like
one.

## Main definitions

* `Lexer.Rereads` : a part of a scan stays as it is without what follows.

## Main results

* `Lexer.scan?_take` : the bytes of a token are read as that token.
* `Lexeme.IsScanned.lexes` : so is the text of a token, unless it is a name beyond plain characters.
* `Lexeme.IsScanned.word_eq` : literals with the same text are the same literal.
* `Lexeme.IsScanned.text_ne` : no name is spelled like a literal.
-/

namespace ThreeAddress

namespace Lexer

/-- Without what follows it, a scan that is not invalid is read alike; `taken` bytes of its token
are in front of the rest. -/
def Rereads (scan : Bytes → Scan) (taken : Nat) (rest : Bytes) : Prop :=
  (scan rest).kind ≠ .invalid →
    ∃ n ≤ rest.length, (scan rest).size = taken + n ∧ scan (rest.take n) = scan rest

/-! ### Numbers -/

theorem any_head?_take {p : UInt8 → Bool} {bs : Bytes} {n : Nat} (hn : 0 < n) :
    (bs.take n).head?.any p = bs.head?.any p := by
  rw [List.head?_take, if_neg (Nat.ne_of_gt hn)]

theorem digitRun_take {digit : UInt8 → Bool} {bs : Bytes} {n : Nat}
    (hn : (digitRun digit bs).length ≤ n) : digitRun digit (bs.take n) = digitRun digit bs := by
  unfold digitRun at hn ⊢
  by_cases hhead : bs.head?.any digit = true
  · rw [if_pos hhead] at hn ⊢
    have hpos : 0 < n := by
      refine Nat.lt_of_lt_of_le ?_ hn
      cases bs with
      | nil => cases hhead
      | cons b bs =>
        have hb : digit b = true := hhead
        simp [hb]
    rw [any_head?_take hpos, if_pos hhead, ← List.take_takeWhile, List.take_of_length_le hn]
  · rw [if_neg hhead]
    refine if_neg fun hhead' => hhead ?_
    cases n with
    | zero => cases hhead'
    | succ n => rwa [any_head?_take n.succ_pos] at hhead'

/-- A number that ends ends where it is. -/
theorem finishNumber_eq {kind : TokenKind} {taken : Nat} {rest : Bytes}
    (h : (finishNumber kind taken rest).kind ≠ .invalid) :
    finishNumber kind taken rest = ⟨kind, taken, []⟩ := by
  unfold finishNumber at h ⊢
  split at h
  · exact absurd rfl h
  · rename_i hstart
    exact if_neg hstart

theorem rereads_scanBased (digit : UInt8 → Bool) (rest : Bytes) :
    Rereads (scanBased digit) 2 rest := by
  intro hkind
  unfold scanBased at hkind ⊢
  dsimp only at hkind ⊢
  split at hkind
  · exact absurd rfl hkind
  · rename_i hrun
    split at hkind
    · rename_i hseparated
      refine ⟨(digitRun digit rest).length, (front_digitRun digit rest).length_le, ?_, ?_⟩
      · rw [if_neg hrun, if_pos hseparated, finishNumber_eq hkind]
      · rw [digitRun_take (Nat.le_refl _), if_neg hrun, if_neg hrun, if_pos hseparated,
          if_pos hseparated, finishNumber_eq hkind, List.drop_take, Nat.sub_self]
        rfl
    · exact absurd rfl hkind

theorem signSize_take {bs : Bytes} {n : Nat} (hn : 0 < n) : signSize (bs.take n) = signSize bs := by
  rw [signSize, signSize, any_head?_take hn]

theorem rereads_scanExponent (kind : TokenKind) (taken : Nat) (rest : Bytes) :
    Rereads (scanExponent kind taken) taken rest := by
  intro hkind
  cases rest with
  | nil => exact ⟨0, Nat.le_refl _, rfl, rfl⟩
  | cons e more =>
    by_cases he : (e == 'e'.toUInt8 || e == 'E'.toUInt8) = true
    · simp only [scanExponent, he, if_true] at hkind
      split at hkind
      · exact absurd rfl hkind
      · rename_i hrun
        split at hkind
        · rename_i hseparated
          have hpos := List.length_pos_iff.mpr hrun
          -- the letter, the sign and the digits
          refine ⟨signSize more + (digitRun isDigit (more.drop (signSize more))).length + 1,
            ?_, ?_, ?_⟩
          · have hle := (front_digitRun isDigit (more.drop (signSize more))).length_le
            rw [List.length_drop] at hle
            rw [List.length_cons]
            omega
          · simp only [scanExponent, he, if_true, if_neg hrun, if_pos hseparated,
              finishNumber_eq hkind]
            omega
          · have hsign := @signSize_take more _ (Nat.add_pos_right (signSize more) hpos)
            simp only [List.take_succ_cons, scanExponent, he, if_true, hsign, List.drop_take,
              Nat.add_sub_cancel_left, digitRun_take (Nat.le_refl _), if_neg hrun,
              if_pos hseparated, finishNumber_eq hkind, Nat.sub_self]
            rfl
        · exact absurd rfl hkind
    · simp only [scanExponent, he] at hkind
      refine ⟨0, Nat.zero_le _, ?_, ?_⟩
      · simp [scanExponent, he, finishNumber_eq hkind]
      · simp [scanExponent, he, finishNumber_eq hkind]
        rfl

/-- Behind the digits of a number there is a point with the digits of a fraction, or no point that
counts. -/
theorem scanDecimal_cases {bs : Bytes} (h : (scanDecimal bs).kind ≠ .invalid) :
    isSeparated (digitRun isDigit bs) = true ∧
      ((∃ d more, bs.drop (digitRun isDigit bs).length = '.'.toUInt8 :: d :: more ∧
          isDigit d = true ∧ isSeparated (digitRun isDigit (d :: more)) = true) ∨
        ∀ d more, bs.drop (digitRun isDigit bs).length = '.'.toUInt8 :: d :: more →
          isDigit d = false ∧ isNameStart d = true) := by
  unfold scanDecimal at h
  dsimp only at h
  split at h
  · exact absurd rfl h
  · rename_i hseparated
    refine ⟨by simpa using hseparated, ?_⟩
    split at h
    · rename_i p d more hrest
      split at h
      · rename_i hpoint
        rw [hrest, eq_of_beq hpoint]
        split at h
        · rename_i hdigit
          split at h
          · rename_i hfraction
            rw [hrest, List.drop_one, List.tail_cons] at hfraction
            exact .inl ⟨d, more, rfl, hdigit, hfraction⟩
          · exact absurd rfl h
        · rename_i hdigit
          split at h
          · rename_i hname
            refine .inr fun d' more' heq => ?_
            obtain ⟨rfl, -⟩ := List.cons.inj (List.cons.inj heq).2
            exact ⟨Bool.eq_false_iff.mpr hdigit, hname⟩
          · exact absurd rfl h
      · rename_i hpoint
        refine .inr fun d' more' heq => ?_
        rw [hrest] at heq
        exact absurd (beq_iff_eq.mpr (List.cons.inj heq).1) hpoint
    · rename_i hshort
      exact .inr fun d more heq => absurd heq (hshort _ d more)

theorem scanDecimal_of_fraction {bs : Bytes} {d : UInt8} {more : Bytes}
    (hseparated : isSeparated (digitRun isDigit bs) = true)
    (hrest : bs.drop (digitRun isDigit bs).length = '.'.toUInt8 :: d :: more)
    (hdigit : isDigit d = true) (hfraction : isSeparated (digitRun isDigit (d :: more)) = true) :
    scanDecimal bs =
      scanExponent .float
        ((digitRun isDigit bs).length + 1 + (digitRun isDigit (d :: more)).length)
        ((d :: more).drop (digitRun isDigit (d :: more)).length) := by
  have hdrop (n : Nat) : bs.drop ((digitRun isDigit bs).length + 1 + n) = (d :: more).drop n := by
    rw [Nat.add_assoc, ← List.drop_drop, hrest, Nat.add_comm, List.drop_succ_cons]
  simp [scanDecimal, hseparated, hrest, hdigit, hfraction, hdrop]

theorem scanDecimal_of_plain {bs : Bytes} (hseparated : isSeparated (digitRun isDigit bs) = true)
    (hrest : ∀ d more, bs.drop (digitRun isDigit bs).length = '.'.toUInt8 :: d :: more →
      isDigit d = false ∧ isNameStart d = true) :
    scanDecimal bs = scanExponent .integer (digitRun isDigit bs).length
      (bs.drop (digitRun isDigit bs).length) := by
  unfold scanDecimal
  simp only [hseparated, Bool.not_true, Bool.false_eq_true, if_false]
  split
  · rename_i p d more hcons
    split
    · rename_i hpoint
      rw [eq_of_beq hpoint] at hcons
      obtain ⟨hdigit, hname⟩ := hrest d more hcons
      simp [hdigit, hname]
    · rfl
  · rfl

theorem rereads_scanDecimal (bs : Bytes) : Rereads scanDecimal 0 bs := by
  intro hkind
  have hrun (n : Nat) :
      digitRun isDigit (bs.take ((digitRun isDigit bs).length + n)) = digitRun isDigit bs :=
    digitRun_take (Nat.le_add_right _ n)
  have hdrop (n : Nat) :
      (bs.take ((digitRun isDigit bs).length + n)).drop (digitRun isDigit bs).length =
        (bs.drop (digitRun isDigit bs).length).take n := by
    rw [List.drop_take, Nat.add_sub_cancel_left]
  obtain ⟨hseparated, ⟨d, more, hrest, hdigit, hfraction⟩ | hplain⟩ := scanDecimal_cases hkind
  · have hscan := scanDecimal_of_fraction hseparated hrest hdigit hfraction
    rw [hscan] at hkind ⊢
    obtain ⟨n, hn, hsize, hsame⟩ := rereads_scanExponent _ _ _ hkind
    obtain ⟨k, hk⟩ : ∃ k, (digitRun isDigit (d :: more)).length + n = k + 1 := by
      have hpos : 0 < (digitRun isDigit (d :: more)).length := by simp [digitRun, hdigit]
      exact ⟨(digitRun isDigit (d :: more)).length + n - 1, by omega⟩
    -- the point and the digits of the fraction stay
    have hrest' : (bs.drop (digitRun isDigit bs).length).take (k + 2) =
        '.'.toUInt8 :: d :: more.take k := by
      rw [hrest, List.take_succ_cons, List.take_succ_cons]
    have hmore : d :: more.take k =
        (d :: more).take ((digitRun isDigit (d :: more)).length + n) := by
      rw [hk, List.take_succ_cons]
    have hrun' : digitRun isDigit (d :: more.take k) = digitRun isDigit (d :: more) := by
      rw [hmore, digitRun_take (Nat.le_add_right _ _)]
    have hlength : (digitRun isDigit bs).length + (k + 2) ≤ bs.length := by
      have htotal := congrArg List.length hrest
      have hle := (front_digitRun isDigit (d :: more)).length_le
      simp only [List.length_drop, List.length_cons] at htotal hn hle
      omega
    refine ⟨(digitRun isDigit bs).length + (k + 2), hlength, by rw [hsize]; omega, ?_⟩
    have hscan' := @scanDecimal_of_fraction (bs.take ((digitRun isDigit bs).length + (k + 2)))
      d (more.take k) (by rwa [hrun]) (by rw [hrun, hdrop, hrest']) hdigit (by rwa [hrun'])
    rw [hscan', hrun, hrun', hmore, List.drop_take, Nat.add_sub_cancel_left, hsame]
  · have hscan := scanDecimal_of_plain hseparated hplain
    rw [hscan] at hkind ⊢
    obtain ⟨n, hn, hsize, hsame⟩ := rereads_scanExponent _ _ _ hkind
    have hlength : (digitRun isDigit bs).length + n ≤ bs.length := by
      have hle := (front_digitRun isDigit bs).length_le
      rw [List.length_drop] at hn
      omega
    refine ⟨(digitRun isDigit bs).length + n, hlength, by rw [hsize, Nat.zero_add], ?_⟩
    rw [scanDecimal_of_plain, hrun, hdrop, hsame]
    · rwa [hrun]
    · intro d more htake
      rw [hrun, hdrop] at htake
      refine hplain d (more ++ (bs.drop (digitRun isDigit bs).length).drop n) ?_
      exact (List.take_append_drop n _).symm.trans (by rw [htake]; rfl)

theorem scanNumber_eq_scanDecimal {bs : Bytes}
    (h : ∀ b rest, bs = '0'.toUInt8 :: b :: rest → baseDigits? b = none ∧ isDigit b = false) :
    scanNumber bs = scanDecimal bs := by
  unfold scanNumber
  split
  · rename_i z b rest
    split
    · rename_i hzero
      obtain ⟨hbase, hdigit⟩ := h b rest (by rw [eq_of_beq hzero])
      simp [hbase, hdigit]
    · rfl
  · rfl

/-- A number is read in a base that it announces, or in decimal. -/
theorem scanNumber_cases {bs : Bytes} (h : (scanNumber bs).kind ≠ .invalid) :
    (∃ b rest digit, bs = '0'.toUInt8 :: b :: rest ∧ baseDigits? b = some digit) ∨
      ∀ b rest, bs = '0'.toUInt8 :: b :: rest → baseDigits? b = none ∧ isDigit b = false := by
  unfold scanNumber at h
  split at h
  · rename_i z b rest
    split at h
    · rename_i hzero
      rw [eq_of_beq hzero]
      split at h
      · rename_i digit hbase
        exact .inl ⟨b, rest, digit, rfl, hbase⟩
      · rename_i hbase
        split at h
        · exact absurd rfl h
        · rename_i hdigit
          refine .inr fun b' rest' heq => ?_
          obtain ⟨rfl, -⟩ := List.cons.inj (List.cons.inj heq).2
          exact ⟨hbase, Bool.eq_false_iff.mpr hdigit⟩
    · rename_i hzero
      exact .inr fun b' rest' heq => absurd (beq_iff_eq.mpr (List.cons.inj heq).1) hzero
  · rename_i hshort
    exact .inr fun b rest heq => absurd heq (hshort _ b rest)

theorem rereads_scanNumber (bs : Bytes) : Rereads scanNumber 0 bs := by
  intro hkind
  rcases scanNumber_cases hkind with ⟨b, rest, digit, rfl, hbase⟩ | hplain
  · have hscan (rest : Bytes) : scanNumber ('0'.toUInt8 :: b :: rest) = scanBased digit rest := by
      simp [scanNumber, hbase]
    rw [hscan] at hkind ⊢
    obtain ⟨n, hn, hsize, hsame⟩ := rereads_scanBased digit rest hkind
    refine ⟨n + 2, Nat.succ_le_succ (Nat.succ_le_succ hn), by rw [hsize]; omega, ?_⟩
    rw [List.take_succ_cons, List.take_succ_cons, hscan, hsame]
  · have hscan := scanNumber_eq_scanDecimal hplain
    rw [hscan] at hkind ⊢
    obtain ⟨n, hn, hsize, hsame⟩ := rereads_scanDecimal bs hkind
    refine ⟨n, hn, hsize, ?_⟩
    rw [scanNumber_eq_scanDecimal, hsame]
    intro b rest htake
    refine hplain b (rest ++ bs.drop n) ?_
    exact (List.take_append_drop n bs).symm.trans (by rw [htake]; rfl)

/-! ### Char literals -/

/-- A character in front of a quote is read without what stands behind the quote. -/
theorem charSize_take {bs : Bytes} (hquote : (bs.drop (charSize bs)).head? = some '\''.toUInt8) :
    charSize (bs.take (charSize bs + 1)) = charSize bs := by
  cases bs with
  | nil => cases hquote
  | cons b rest =>
    have hsize (bs : Bytes) : charSize (b :: bs) =
        ((Utf8.encoding? (b :: bs)).getD (Utf8.replacement, 1)).2 := rfl
    cases henc : Utf8.encoding? (b :: rest) with
    | some p =>
      obtain ⟨c, n⟩ := p
      have hn : charSize (b :: rest) = n := by rw [hsize, henc]; rfl
      have htake := Utf8.encoding?_take henc (Nat.le_succ n)
      rw [hn, List.take_succ_cons] at *
      rw [hsize, htake]
      rfl
    | none =>
      have hone : charSize (b :: rest) = 1 := by rw [hsize, henc]; rfl
      rw [hone, List.drop_succ_cons, List.drop_zero] at hquote
      obtain ⟨back, rfl⟩ := List.head?_eq_some_iff.mp hquote
      have halone (r : Bytes) :
          Utf8.encoding? (b :: '\''.toUInt8 :: r) = Utf8.encoding? [b] :=
        Utf8.encoding?_append_ascii (by decide) b [] r
      rw [hone, List.take_succ_cons, List.take_succ_cons, List.take_zero, hsize, halone,
        ← halone back, henc]
      rfl

/-- A literal that is closed ends with its quote. -/
theorem closeChar_eq {taken : Nat} {rest : Bytes} {earlier : List (Nat × Complaint)}
    (h : (closeChar taken rest earlier).kind ≠ .invalid) :
    rest.head? = some '\''.toUInt8 ∧
      closeChar taken rest earlier = ⟨.char, taken + 1, earlier⟩ := by
  unfold closeChar at h ⊢
  split at h
  · rename_i hquote
    exact ⟨hquote, if_pos hquote⟩
  · exact absurd rfl h

theorem closeChar_take {taken n : Nat} {bs : Bytes} {earlier : List (Nat × Complaint)}
    (h : (closeChar taken (bs.drop n) earlier).kind ≠ .invalid) :
    n < bs.length ∧
      closeChar taken ((bs.take (n + 1)).drop n) earlier = closeChar taken (bs.drop n) earlier := by
  obtain ⟨hquote, hclose⟩ := closeChar_eq h
  have hlength : n < bs.length := by
    refine Nat.lt_of_not_le fun hle => ?_
    rw [List.drop_eq_nil_of_le hle] at hquote
    cases hquote
  have hquote' : ((bs.take (n + 1)).drop n).head? = some '\''.toUInt8 := by
    rw [List.drop_take, Nat.add_sub_cancel_left, List.head?_take, if_neg (by decide), hquote]
  exact ⟨hlength, by rw [hclose, closeChar, if_pos hquote']⟩

theorem rereads_scanChar (body : Bytes) : Rereads scanChar 1 body := by
  intro hkind
  cases body with
  | nil => exact absurd rfl hkind
  | cons b rest =>
    by_cases hnewline : (b == '\n'.toUInt8) = true
    · exact absurd (by rw [scanChar, if_pos hnewline]; rfl) hkind
    by_cases hclosed : (b == '\''.toUInt8) = true
    · exact absurd (by rw [scanChar, if_neg hnewline, if_pos hclosed]; rfl) hkind
    by_cases hbackslash : (b == '\\'.toUInt8) = true
    · by_cases hescape : rest.head?.any isEscape = true
      · have hscan {rest : Bytes} (hescape : rest.head?.any isEscape = true) :
            scanChar (b :: rest) = closeChar 3 (rest.drop 1) [] := by
          rw [scanChar, if_neg hnewline, if_neg hclosed, if_pos hbackslash, if_pos hescape]
        rw [hscan hescape] at hkind ⊢
        obtain ⟨hlength, hsame⟩ := closeChar_take hkind
        refine ⟨3, Nat.succ_le_succ hlength, by rw [(closeChar_eq hkind).2], ?_⟩
        have hescape' : (rest.take 2).head?.any isEscape = true := by
          rwa [any_head?_take (by decide)]
        rw [List.take_succ_cons, hscan hescape', hsame]
      · have hscan {rest : Bytes} (hescape : ¬rest.head?.any isEscape = true) :
            scanChar (b :: rest) = closeChar (2 + charSize rest) (rest.drop (charSize rest))
              [(2 + charSize rest, .unknownEscape)] := by
          rw [scanChar, if_neg hnewline, if_neg hclosed, if_pos hbackslash, if_neg hescape]
        rw [hscan hescape] at hkind ⊢
        obtain ⟨hquote, hclose⟩ := closeChar_eq hkind
        obtain ⟨hlength, hsame⟩ := closeChar_take hkind
        refine ⟨charSize rest + 2, Nat.succ_le_succ hlength, by simp only [hclose]; omega, ?_⟩
        have hescape' : ¬(rest.take (charSize rest + 1)).head?.any isEscape = true := by
          rwa [any_head?_take (Nat.succ_pos _)]
        rw [List.take_succ_cons, hscan hescape', charSize_take hquote, hsame]
    · have hscan (rest : Bytes) : scanChar (b :: rest) =
          closeChar (1 + charSize (b :: rest)) ((b :: rest).drop (charSize (b :: rest))) [] := by
        rw [scanChar, if_neg hnewline, if_neg hclosed, if_neg hbackslash]
      rw [hscan] at hkind ⊢
      obtain ⟨hquote, hclose⟩ := closeChar_eq hkind
      obtain ⟨hlength, hsame⟩ := closeChar_take hkind
      refine ⟨charSize (b :: rest) + 1, hlength, by simp only [hclose]; omega, ?_⟩
      have hsize := charSize_take hquote
      rw [List.take_succ_cons] at hsize hsame ⊢
      rw [hscan, hsize, hsame]

/-! ### Names -/

theorem namePartFrom_le {k : Nat} {bs : Bytes} (hk : k ≤ bs.length) :
    namePartFrom k bs ≤ bs.length :=
  (namePartFrom_append (w := 0x20) (by decide) bs [] hk).2

/-- The bytes of a name are those of its characters. -/
theorem namePartFrom_take {bs : Bytes} :
    ∀ k ≤ bs.length, namePartFrom k (bs.take (namePartFrom k bs)) = namePartFrom k bs := by
  induction bs with
  | nil => exact fun k _ => rfl
  | cons b bs ih =>
    intro k hk
    cases k with
    | succ k =>
      rw [namePartFrom, Nat.add_comm 1, List.take_succ_cons, namePartFrom,
        ih k (by simpa using hk), Nat.add_comm 1]
    | zero =>
      rw [namePartFrom]
      split
      · rename_i c n henc
        obtain ⟨hle, htake⟩ := encoding?_take_namePartFrom henc
        split
        · rename_i hpart
          rw [Nat.add_comm 1, List.take_succ_cons, namePartFrom, htake]
          simp only [hpart, if_true]
          rw [ih (n - 1) hle, Nat.add_comm 1]
        · rfl
      · rfl

theorem isNamePartChar_of_isNameStartChar {c : Char} (h : isNameStartChar c = true) :
    isNamePartChar c = true := by
  unfold isNameStartChar at h
  unfold isNamePartChar
  split
  · rename_i hascii
    rw [if_pos hascii] at h
    rw [isNamePart, h, Bool.true_or]
  · rename_i hascii
    rw [if_neg hascii] at h
    rw [h, Bool.true_or, Bool.true_or]

theorem rereads_scanName (bs : Bytes) : Rereads scanName 0 bs := by
  intro hkind
  have hscan {bs : Bytes} {c : Char} {n : Nat} (henc : Utf8.encoding? bs = some (c, n))
      (hstart : isNameStartChar c = true) : scanName bs =
        ⟨(TokenKind.keyword? (nameText (bs.take (namePartSize bs)))).getD .identifier,
          namePartSize bs, []⟩ := by
    cases bs with
    | nil => cases henc
    | cons b rest => simp [scanName, Utf8.decode?, henc, hstart]
  cases bs with
  | nil => exact absurd rfl hkind
  | cons b rest =>
    cases henc : Utf8.encoding? (b :: rest) with
    | none =>
      have hreplacement : isNameStartChar Utf8.replacement = false := by decide +kernel
      simp [scanName, Utf8.decode?, henc, hreplacement, Scan.bad] at hkind
    | some p =>
      obtain ⟨c, n⟩ := p
      by_cases hstart : isNameStartChar c = true
      · have hfirst : namePartSize (b :: rest) = namePartFrom (n - 1) rest + 1 := by
          simp [namePartSize, namePartFrom, henc, isNamePartChar_of_isNameStartChar hstart,
            Nat.add_comm]
        have htake : Utf8.encoding? ((b :: rest).take (namePartSize (b :: rest))) =
            some (c, n) := by
          rw [hfirst, List.take_succ_cons]
          exact (encoding?_take_namePartFrom henc).2
        have hsame : namePartSize ((b :: rest).take (namePartSize (b :: rest))) =
            namePartSize (b :: rest) := namePartFrom_take 0 (Nat.zero_le _)
        refine ⟨namePartSize (b :: rest), namePartFrom_le (Nat.zero_le _),
          by rw [hscan henc hstart, Nat.zero_add], ?_⟩
        rw [hscan henc hstart, hscan htake hstart, hsame, List.take_take, Nat.min_self]
      · simp [scanName, Utf8.decode?, henc, hstart, Scan.bad] at hkind

/-! ### Tokens -/

/-- The bytes of a token are read as that token. -/
theorem scan?_take {bs : Bytes} {s : Scan} (h : scan? bs = some s) (hkind : s.kind ≠ .invalid) :
    s.size ≤ bs.length ∧ scan? (bs.take s.size) = some s := by
  have hpos := size_pos_of_scan? h
  obtain ⟨k, hk⟩ : ∃ k, s.size = k + 1 := ⟨s.size - 1, by omega⟩
  cases bs with
  | nil => cases h
  | cons b rest =>
    -- a scan of all bytes, of which the token takes some
    have hreread {scan : Bytes → Scan} (hscan : Rereads scan 0 (b :: rest))
        (hs : scan (b :: rest) = s) : k ≤ rest.length ∧ scan (b :: rest.take k) = s := by
      obtain ⟨n, hn, hsize, hsame⟩ := hscan (by rwa [hs])
      obtain rfl : n = k + 1 := by
        rw [hs] at hsize
        omega
      exact ⟨Nat.le_of_succ_le_succ hn, hsame.trans hs⟩
    rw [hk, List.take_succ_cons, List.length_cons, Nat.add_le_add_iff_right]
    simp only [scan?] at h ⊢
    split at h
    · rename_i hname
      obtain ⟨hle, hsame⟩ := hreread (rereads_scanName _) (Option.some.inj h)
      exact ⟨hle, by rw [if_pos hname, hsame]⟩
    · rename_i hname
      rw [if_neg hname]
      split at h
      · rename_i hdigit
        obtain ⟨hle, hsame⟩ := hreread (rereads_scanNumber _) (Option.some.inj h)
        exact ⟨hle, by rw [if_pos hdigit, hsame]⟩
      · rename_i hdigit
        rw [if_neg hdigit]
        split at h
        · rename_i hquote
          have hs : scanChar rest = s := Option.some.inj h
          obtain ⟨n, hn, hsize, hsame⟩ := rereads_scanChar rest (by rwa [hs])
          obtain rfl : n = k := by
            rw [hs] at hsize
            omega
          exact ⟨hn, by rw [if_pos hquote, hsame, hs]⟩
        · rename_i hquote
          rw [if_neg hquote]
          refine ⟨?_, h⟩
          have hone : s.size = 1 := by
            split at h
            · cases h
              rfl
            · cases h
              rfl
          omega

theorem tokenText_of_plain {kind : TokenKind} {bs : Bytes} (h : Plain (tokenText kind bs)) :
    tokenText kind bs = bs := by
  cases kind with
  | identifier | keywordLet | keywordTrue | keywordFalse => exact nameText_of_plain h
  | _ => rfl

end Lexer

/-! ### Words -/

namespace Word.Lexes

open Lexer

variable {v w : Word} {cs ds : List (Nat × Complaint)}

/-- A text is a token of one kind only. -/
theorem eq_of_text (hv : v.Lexes cs) (hw : w.Lexes ds) (htext : v.text = w.text) : v = w := by
  have hscan : scan? v.text = some ⟨w.kind, v.text.length, ds⟩ := by
    rw [htext]
    exact hw.scan
  have hkind : v.kind = w.kind := congrArg Scan.kind (Option.some.inj (hv.scan.symm.trans hscan))
  cases v
  cases w
  exact congr (congrArg Word.mk hkind) htext

/-- A literal is plain, or a char literal with its quote in front. -/
theorem plain_or_quote (h : w.Lexes cs) (hlit : w.kind.isLiteral = true) :
    Plain w.text ∨ ∃ body, w.text = '\''.toUInt8 :: body := by
  have hscan := h.scan
  rcases scan?_cases hscan with hname | ⟨b, rest, -, -, hnumber⟩ | ⟨body, hbody, -⟩ |
    ⟨b, k, hk, hmark⟩ | hinvalid
  · rcases scanName_cases w.text with hkind | ⟨hsize, hkind⟩
    · exact absurd ((congrArg Scan.kind hname).trans hkind) h.valid
    · rw [← hname] at hsize hkind
      have hsize : w.text.length = namePartSize w.text := hsize
      have hkind : w.kind = _ := hkind
      rw [← hsize, List.take_length] at hkind
      cases hkey : TokenKind.keyword? (nameText w.text) with
      | none =>
        rw [hkind, hkey] at hlit
        cases hlit
      | some k =>
        left
        rw [← nameText_of_keyword? hkey]
        rcases keyword?_cases hkey with ⟨htext, -⟩ | ⟨htext, -⟩ | ⟨htext, -⟩ <;> rw [htext] <;>
          decide
  · have hvalid : (scanNumber w.text).kind ≠ .invalid := hnumber ▸ h.valid
    obtain ⟨part, hpart, hplain, hsize⟩ := takes_scanNumber w.text hvalid
    rw [← hnumber, Nat.zero_add] at hsize
    left
    rwa [← hpart.eq_of_length hsize.symm]
  · exact .inr ⟨body, hbody⟩
  · rw [show w.kind = k from congrArg Scan.kind hmark, (kind_of_ofPunctuation? hk).2.2] at hlit
    cases hlit
  · exact absurd hinvalid h.valid

end Word.Lexes

namespace Lexeme.IsScanned

variable {l m : Lexeme}

/-- The text of a proper token is read as that token; of a name, if the text is plain. -/
theorem lexes (h : l.IsScanned) (hkind : l.token.kind ≠ .invalid)
    (hname : l.token.kind ≠ .identifier ∨ Lexer.Plain l.token.text) :
    ∃ cs, l.token.word.Lexes cs := by
  obtain ⟨c, s, hs, rfl⟩ := h
  have htext : Lexer.tokenText s.kind (c.rest.take s.size) = c.rest.take s.size := by
    rcases hname with hname | hplain
    · rw [Lexer.tokenText_eq_spelling hs]
      exact Lexer.spelling_of_ne hname _
    · exact Lexer.tokenText_of_plain hplain
  obtain ⟨hsize, hscan⟩ := Lexer.scan?_take hs hkind
  have hword : (c.lexemeOf s).token.word = ⟨s.kind, c.rest.take s.size⟩ :=
    congrArg (Word.mk s.kind) htext
  rw [hword]
  refine ⟨s.complaints, ?_, htext, hkind⟩
  show Lexer.scan? (c.rest.take s.size) = some ⟨s.kind, (c.rest.take s.size).length, s.complaints⟩
  rw [List.length_take, Nat.min_eq_left hsize, hscan]

theorem ne_of_isLiteral {k : TokenKind} (h : k.isLiteral = true) :
    k ≠ .invalid ∧ k ≠ .identifier := by
  constructor <;> rintro rfl <;> cases h

/-- A literal stands in an instruction as it is. -/
theorem render_eq (h : l.IsScanned) (hlit : l.token.kind.isLiteral = true) :
    l.token.render = l.token.text := by
  obtain ⟨hvalid, hname⟩ := ne_of_isLiteral hlit
  obtain ⟨cs, hcs⟩ := h.lexes hvalid (.inl hname)
  exact if_neg (Lexer.ne_nil_of_scan? hcs.scan)

/-- Literals with the same text are the same literal. -/
theorem word_eq (hl : l.IsScanned) (hm : m.IsScanned) (hlit : l.token.kind.isLiteral = true)
    (hlit' : m.token.kind.isLiteral = true) (htext : l.token.text = m.token.text) :
    l.token.word = m.token.word := by
  obtain ⟨hvalid, hname⟩ := ne_of_isLiteral hlit
  obtain ⟨hvalid', hname'⟩ := ne_of_isLiteral hlit'
  obtain ⟨cs, hcs⟩ := hl.lexes hvalid (.inl hname)
  obtain ⟨ds, hds⟩ := hm.lexes hvalid' (.inl hname')
  exact hcs.eq_of_text hds htext

/-- No name is spelled like a literal. -/
theorem text_ne (hl : l.IsScanned) (hm : m.IsScanned) (hname : l.token.kind = .identifier)
    (hlit : m.token.kind.isLiteral = true) : l.token.text ≠ m.token.text := by
  intro htext
  obtain ⟨hvalid, hname'⟩ := ne_of_isLiteral hlit
  obtain ⟨ds, hds⟩ := hm.lexes hvalid (.inl hname')
  rcases hds.plain_or_quote hlit with hplain | ⟨body, hbody⟩
  · -- a plain name is read again as a name
    have hplain : Lexer.Plain l.token.text := htext ▸ hplain
    obtain ⟨cs, hcs⟩ := hl.lexes (by rw [hname]; decide) (.inr hplain)
    exact hname' ((congrArg Word.kind (hcs.eq_of_text hds htext)).symm.trans hname)
  · have hbody : m.token.text = '\''.toUInt8 :: body := hbody
    have hsolid := hl.areSolid hname
    rw [htext, hbody, Utf8.chars, Utf8.pieces_cons_ascii (by decide), List.map_cons] at hsolid
    exact absurd (hsolid _ List.mem_cons_self) (by decide)

end Lexeme.IsScanned

end ThreeAddress
