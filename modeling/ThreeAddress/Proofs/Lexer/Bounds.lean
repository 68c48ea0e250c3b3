import ThreeAddress.Lexer.Cursor
import ThreeAddress.Proofs.Text.Fields

/-!
# The bounds of cursors

A cursor can be had without its bounds: as a content and an offset, a word that starts over behind
the largest one, with faults wherever a byte is read that is not there. Such a word cursor goes the
same way as the cursor with its bounds, in whatever steps, and so it never leaves the content, never
starts over and reads no byte that is not there, with one exception. Two bytes are looked at when
the word behind the offset is below the size of the content. At the end of a content of the largest
possible size that word is 0, and the bytes that are looked at are not there.

## Main definitions

* `WordCursor` : a content and an offset, without bounds.
* `Cursor.Move` : a step, or an offset that is saved or taken up again.
* `WordCursor.InBounds` : what holds of a word cursor that is inside its content.

## Main results

* `Cursor.inBounds_word` : a cursor is inside its content.
* `Cursor.go_word` : one move, with bounds and without them.
* `Cursor.exists_run_word` : whole runs of moves.
* `Cursor.peekTwo_fullContent` : two bytes are looked at behind the largest content.
-/

namespace ThreeAddress

theorem Utf8.size_le_of_decode? {bs : Bytes} {x : Char} {n : Nat}
    (h : decode? bs = some (x, n)) : n ≤ bs.length := by
  cases bs with
  | nil => cases h
  | cons b rest =>
    rw [decode?, Option.some.injEq] at h
    cases henc : encoding? (b :: rest) with
    | none =>
      rw [henc] at h
      cases h
      exact Nat.succ_le_succ (Nat.zero_le _)
    | some p =>
      obtain ⟨y, k⟩ := p
      rw [henc] at h
      cases h
      exact (size_le_of_encoding? henc).2

/-- A cursor without bounds. -/
structure WordCursor where
  /-- The bytes of the source. -/
  content : Bytes
  /-- The offset of the position, which may be anywhere. -/
  offset : UInt32

namespace WordCursor

/-- The size of the content as a word. -/
def limit (w : WordCursor) : UInt32 :=
  UInt32.ofNat w.content.length

/-- Tests whether the offset has reached the size of the content. -/
def atEnd (w : WordCursor) : Bool :=
  decide (w.limit ≤ w.offset)

/-- The byte at an offset. It is a fault to read a byte that is not there. -/
def byteAt (w : WordCursor) (i : UInt32) : Except Fault UInt8 :=
  match w.content[i.toNat]? with
  | some b => .ok b
  | none => .error .absent

/-- The bytes from the offset on. It is a fault to read them from behind the end. -/
def ahead (w : WordCursor) : Except Fault Bytes :=
  if w.offset.toNat ≤ w.content.length then .ok (w.content.drop w.offset.toNat)
  else .error .absent

/-- Moves the offset by a number of bytes, as a word. -/
def plus (w : WordCursor) (n : Nat) : WordCursor :=
  { w with offset := w.offset + UInt32.ofNat n }

@[simp] theorem plus_zero (w : WordCursor) : w.plus 0 = w :=
  congrArg (WordCursor.mk w.content) (UInt32.add_zero _)

/-- The byte ahead, or 0 at the end. -/
def peek (w : WordCursor) : Except Fault UInt8 :=
  if w.atEnd then .ok 0 else w.byteAt w.offset

/-- The two bytes ahead, unless the word behind the offset has reached the size of the content. -/
def peekTwo (w : WordCursor) : Except Fault (Option (UInt8 × UInt8)) :=
  if w.limit ≤ w.offset + 1 then .ok none
  else do
    let b0 ← w.byteAt w.offset
    let b1 ← w.byteAt (w.offset + 1)
    return some (b0, b1)

/-- Takes the byte ahead, or 0 at the end. -/
def bump (w : WordCursor) : Except Fault (UInt8 × WordCursor) :=
  if w.atEnd then .ok (0, w)
  else do
    let b ← w.byteAt w.offset
    return (b, w.plus 1)

/-- Takes the byte ahead if it is the given one. -/
def eat (w : WordCursor) (b : UInt8) : Except Fault (Bool × WordCursor) :=
  if w.atEnd then .ok (false, w)
  else do
    let x ← w.byteAt w.offset
    return if x = b then (true, w.plus 1) else (false, w)

/-- The number of bytes of the character ahead; 0 at the end. -/
def charSize (w : WordCursor) : Except Fault Nat :=
  if w.atEnd then .ok 0
  else do
    let b ← w.peek
    if b < 0x80 then return 1
    else return ((Utf8.decode? (← w.ahead)).map Prod.snd).getD 0

/-- Takes the character ahead. -/
def bumpChar (w : WordCursor) : Except Fault WordCursor := do
  return w.plus (← w.charSize)

end WordCursor

namespace Cursor

variable {c : Cursor} {marks : List UInt32} {rest : Bytes} {a b : UInt8} {n : Nat}

/-- A cursor without its bounds. -/
def word (c : Cursor) : WordCursor :=
  ⟨c.content, c.offset⟩

/-! ### Offsets -/

theorem toNat_limit (c : Cursor) : c.limit.toNat = c.content.length :=
  UInt32.toNat_ofNat_of_lt' c.fits

theorem drop_content (c : Cursor) : c.content.drop c.offset.toNat = c.rest :=
  c.rest_eq.symm

/-- The offset has reached the size of the content if and only if no byte is ahead. -/
theorem limit_le_offset_iff (c : Cursor) : c.limit ≤ c.offset ↔ c.rest = [] := by
  have hlength := c.length_rest
  rw [UInt32.le_iff_toNat_le, toNat_limit, ← List.length_eq_zero_iff]
  omega

theorem atEnd_word (c : Cursor) : c.word.atEnd = true ↔ c.rest = [] := by
  rw [← limit_le_offset_iff]
  exact decide_eq_true_iff

/-- The bytes that are there are read, as numbers of bytes behind the offset. -/
theorem byteAt_word {i : UInt32} (hi : i.toNat = c.offset.toNat + n) (hb : c.rest[n]? = some b) :
    c.word.byteAt i = .ok b := by
  rw [c.rest_eq, List.getElem?_drop, ← hi] at hb
  rw [WordCursor.byteAt, word, hb]

/-- Going ahead is adding the number of bytes taken to the offset. -/
theorem word_advance (c : Cursor) (n : Nat) :
    (c.advance n).word = c.word.plus (min n c.rest.length) := by
  have hfits := c.fits
  have hlength := c.length_rest
  have hinside := c.inside
  have hoffset : (c.advance n).offset = c.offset + UInt32.ofNat (min n c.rest.length) := by
    rw [← UInt32.toNat_inj, toNat_offset_advance, UInt32.toNat_add, UInt32.toNat_ofNat_of_lt'
      (by omega)]
    exact (Nat.mod_eq_of_lt (show _ < UInt32.size by omega)).symm
  rw [word, hoffset]
  rfl

/-! ### Looking and stepping -/

theorem byteAt_of_cons (h : c.rest = b :: rest) : c.word.byteAt c.offset = .ok b :=
  byteAt_word (n := 0) rfl (by rw [h]; rfl)

theorem byteAt_of_nil (h : c.rest = []) : c.word.byteAt c.offset = .error .absent := by
  have hnone : c.content[c.offset.toNat]? = none :=
    List.getElem?_eq_none (List.drop_eq_nil_iff.mp (c.drop_content.trans h))
  rw [WordCursor.byteAt, word, hnone]

theorem not_atEnd_of_cons (h : c.rest = b :: rest) : ¬c.word.atEnd = true := by
  simp [atEnd_word, h]

theorem word_advance_of_nil (h : c.rest = []) (n : Nat) : (c.advance n).word = c.word := by
  rw [word_advance, h, List.length_nil, Nat.min_zero, WordCursor.plus_zero]

theorem word_advance_of_cons (h : c.rest = b :: rest) : (c.advance 1).word = c.word.plus 1 := by
  rw [word_advance, h, List.length_cons, Nat.min_eq_left (Nat.succ_le_succ (Nat.zero_le _))]

/-- Peeking is the same without bounds: no byte is read that is not there. -/
theorem peek_word (c : Cursor) : c.word.peek = .ok c.peek := by
  rw [WordCursor.peek, peek]
  cases hrest : c.rest with
  | nil => rw [if_pos (c.atEnd_word.mpr hrest), List.headD_nil]
  | cons b rest =>
    rw [if_neg (not_atEnd_of_cons hrest), List.headD_cons]
    exact byteAt_of_cons hrest

/-- Bumping is the same without bounds. -/
theorem bump_word (c : Cursor) : c.word.bump = .ok (c.bump.1, c.bump.2.word) := by
  rw [WordCursor.bump, bump, peek]
  cases hrest : c.rest with
  | nil => rw [if_pos (c.atEnd_word.mpr hrest), List.headD_nil, word_advance_of_nil hrest]
  | cons b rest =>
    have hbyte : c.word.byteAt c.word.offset = .ok b := byteAt_of_cons hrest
    rw [if_neg (not_atEnd_of_cons hrest), hbyte, word_advance_of_cons hrest]
    rfl

/-- Eating a byte is the same without bounds. -/
theorem eat_word (c : Cursor) (x : UInt8) : c.word.eat x = .ok ((c.eat x).1, (c.eat x).2.word) := by
  rw [WordCursor.eat, eat]
  cases hrest : c.rest with
  | nil => rw [if_pos (c.atEnd_word.mpr hrest), List.head?_nil, if_neg (by simp)]
  | cons b rest =>
    have hbyte : c.word.byteAt c.word.offset = .ok b := byteAt_of_cons hrest
    rw [if_neg (not_atEnd_of_cons hrest), hbyte, List.head?_cons]
    show Except.ok (if b = x then _ else _) = _
    by_cases hb : b = x
    · rw [if_pos hb, if_pos (congrArg some hb), word_advance_of_cons hrest]
    · rw [if_neg hb, if_neg (mt Option.some.inj hb)]

/-- The size of the character ahead is the same without bounds. -/
theorem charSize_word (c : Cursor) :
    c.word.charSize = .ok (((Utf8.decode? c.rest).map Prod.snd).getD 0) := by
  rw [WordCursor.charSize, peek_word, peek]
  cases hrest : c.rest with
  | nil =>
    rw [if_pos (c.atEnd_word.mpr hrest)]
    rfl
  | cons b rest =>
    have hahead : c.word.ahead = .ok (b :: rest) := by
      rw [WordCursor.ahead, word, if_pos c.inside, drop_content, hrest]
    rw [if_neg (not_atEnd_of_cons hrest), hahead]
    show (if b < 0x80 then Except.ok 1 else _) = _
    split
    · rename_i hascii
      simp [Utf8.decode?, Utf8.encoding?, hascii]
    · rfl

/-- Taking a character is the same without bounds. -/
theorem bumpChar_word (c : Cursor) : c.word.bumpChar = .ok c.bumpChar.word := by
  rw [WordCursor.bumpChar, charSize_word, bumpChar]
  show Except.ok (c.word.plus _) = _
  cases hread : Utf8.decode? c.rest with
  | none => exact congrArg Except.ok (WordCursor.plus_zero _)
  | some p =>
    obtain ⟨x, n⟩ := p
    rw [word_advance, Nat.min_eq_left (Utf8.size_le_of_decode? hread)]
    rfl

/-- Going back to an offset inside the source is the same without bounds. -/
theorem reset_word {mark : UInt32} (h : mark.toNat ≤ c.content.length) :
    (c.reset mark).word = ⟨c.content, mark⟩ := by
  rw [reset, dif_pos h]
  exact congrArg (WordCursor.mk c.content) UInt32.ofNat_toNat

/-! ### Two bytes ahead -/

/-- The first two bytes, if there are two. -/
def firstTwo : Bytes → Option (UInt8 × UInt8)
  | a :: b :: _ => some (a, b)
  | _ => none

theorem firstTwo_of_lt {bs : Bytes} (h : bs.length < 2) : firstTwo bs = none := by
  rcases bs with _ | ⟨x, _ | ⟨y, rest⟩⟩
  · rfl
  · rfl
  · exact absurd h (Nat.not_lt_of_le (Nat.le_add_left 2 rest.length))

theorem firstTwo_eq_some_iff {bs : Bytes} {a b : UInt8} :
    firstTwo bs = some (a, b) ↔ ∃ rest, bs = a :: b :: rest := by
  rcases bs with _ | ⟨x, _ | ⟨y, rest⟩⟩ <;> simp [firstTwo]

theorem exists_of_not_lt {bs : Bytes} (h : ¬bs.length < 2) : ∃ a b rest, bs = a :: b :: rest := by
  rcases bs with _ | ⟨x, _ | ⟨y, rest⟩⟩
  · simp at h
  · simp at h
  · exact ⟨x, y, rest, rfl⟩

/-- A cursor stands at the end of a content of the largest possible size. -/
def AtFullEnd (c : Cursor) : Prop :=
  c.content.length = UInt32.size - 1 ∧ c.offset.toNat = c.content.length

/-- The word behind the offset has reached the size of the content if fewer than two bytes are
ahead, unless it starts over. -/
theorem limit_le_next_iff (c : Cursor) :
    c.limit ≤ c.offset + 1 ↔ c.rest.length < 2 ∧ ¬c.AtFullEnd := by
  have hfits := c.fits
  have hinside := c.inside
  have hlength := c.length_rest
  have hsize : UInt32.size = 4294967296 := rfl
  have hnext : (c.offset + 1).toNat = (c.offset.toNat + 1) % UInt32.size := UInt32.toNat_add _ _
  rw [UInt32.le_iff_toNat_le, toNat_limit, hnext, AtFullEnd]
  rcases Nat.lt_or_ge (c.offset.toNat + 1) UInt32.size with hlt | hge
  · rw [Nat.mod_eq_of_lt hlt]
    omega
  · have hover : c.offset.toNat + 1 = UInt32.size := by omega
    rw [hover, Nat.mod_self]
    omega

theorem rest_of_atFullEnd (h : c.AtFullEnd) : c.rest = [] := by
  have hlength := c.length_rest
  rw [h.2, Nat.sub_self] at hlength
  exact List.length_eq_zero_iff.mp hlength

/-- At the end of a content of the largest possible size, bytes are read that are not there. -/
theorem peekTwo_of_atFullEnd (h : c.AtFullEnd) : c.peekTwo = .error .absent := by
  rw [peekTwo, if_neg fun hle => (c.limit_le_next_iff.mp hle).2 h, rest_of_atFullEnd h]

/-- Elsewhere, the two bytes ahead are told if there are two. -/
theorem peekTwo_of_not_atFullEnd (h : ¬c.AtFullEnd) : c.peekTwo = .ok (firstTwo c.rest) := by
  rw [peekTwo]
  split
  · rename_i hle
    rw [firstTwo_of_lt (c.limit_le_next_iff.mp hle).1]
  · rename_i hle
    obtain ⟨x, y, rest, hrest⟩ :=
      exists_of_not_lt fun hfew => hle (c.limit_le_next_iff.mpr ⟨hfew, h⟩)
    rw [hrest]
    rfl

/-- Looking at two bytes is the same without bounds, also where it is a fault. -/
theorem peekTwo_word (c : Cursor) : c.word.peekTwo = c.peekTwo := by
  rw [WordCursor.peekTwo, peekTwo]
  show (if c.limit ≤ c.offset + 1 then _ else _) = _
  split
  · rfl
  · rename_i hle
    by_cases hfull : c.AtFullEnd
    · have hempty := rest_of_atFullEnd hfull
      have hfirst : c.word.byteAt c.word.offset = .error .absent := byteAt_of_nil hempty
      rw [hfirst, hempty]
      rfl
    · obtain ⟨x, y, rest, hrest⟩ :=
        exists_of_not_lt fun hfew => hle (c.limit_le_next_iff.mpr ⟨hfew, hfull⟩)
      have hnext : (c.offset + 1).toNat = c.offset.toNat + 1 := by
        have hlength := c.length_rest
        have hfits := c.fits
        rw [hrest, List.length_cons, List.length_cons] at hlength
        have hlt : c.offset.toNat + 1 < UInt32.size := by omega
        exact (UInt32.toNat_add _ _).trans (Nat.mod_eq_of_lt hlt)
      have hfirst : c.word.byteAt c.word.offset = .ok x := byteAt_of_cons hrest
      have hsecond : c.word.byteAt (c.word.offset + 1) = .ok y :=
        byteAt_word hnext (by rw [hrest]; rfl)
      rw [hfirst, hsecond, hrest]
      rfl

/-! ### Moves -/

/-- A step, or an offset that is saved or taken up again. -/
inductive Move where
  /-- A byte is taken. -/
  | bump
  /-- A byte is taken if it is the given one. -/
  | eat (b : UInt8)
  /-- A character is taken. -/
  | bumpChar
  /-- The offset is saved. -/
  | mark
  /-- A saved offset is taken up again: the latest for 0, the one before it for 1, and so on. Where
  there are not so many, the start is taken up. -/
  | reset (i : Nat)

/-- The number of the bytes ahead that a move takes. -/
def Move.size (rest : Bytes) : Move → Nat
  | bump => min 1 rest.length
  | eat b => if rest.head? = some b then 1 else 0
  | bumpChar => ((Utf8.decode? rest).map Prod.snd).getD 0
  | mark | reset _ => 0

/-- The cursor and the saved offsets behind a move. -/
def go (s : Cursor × List UInt32) : Move → Cursor × List UInt32
  | .bump => (s.1.bump.2, s.2)
  | .eat b => ((s.1.eat b).2, s.2)
  | .bumpChar => (s.1.bumpChar, s.2)
  | .mark => (s.1, s.1.offset :: s.2)
  | .reset i => (s.1.reset (s.2.getD i 0), s.2)

end Cursor

namespace WordCursor

/-- The cursor without bounds and the saved offsets behind a move. -/
def go (s : WordCursor × List UInt32) : Cursor.Move → Except Fault (WordCursor × List UInt32)
  | .bump => do return ((← s.1.bump).2, s.2)
  | .eat b => do return ((← s.1.eat b).2, s.2)
  | .bumpChar => do return (← s.1.bumpChar, s.2)
  | .mark => .ok (s.1, s.1.offset :: s.2)
  | .reset i => .ok (⟨s.1.content, s.2.getD i 0⟩, s.2)

/-- A cursor without bounds is inside its content. -/
structure InBounds (w : WordCursor) : Prop where
  /-- The offset is in the content or at its end. -/
  offset_le : w.offset.toNat ≤ w.content.length
  /-- A byte that is looked at is there. -/
  peek_eq : w.peek = .ok ((w.content.drop w.offset.toNat).headD 0)
  /-- A move ahead is no fault. It adds the number of bytes it takes to the offset, which does not
  start over. -/
  exists_go : ∀ m, (∀ i, m ≠ .reset i) → ∃ s, go (w, []) m = .ok s ∧
    s.1.offset.toNat = w.offset.toNat + m.size (w.content.drop w.offset.toNat)
  /-- Two bytes are told if and only if there are two. -/
  peekTwo_eq_some_iff : ∀ a b, w.peekTwo = .ok (some (a, b)) ↔
    ∃ rest, w.content.drop w.offset.toNat = a :: b :: rest
  /-- Bytes are read that are not there if and only if two bytes are looked at from the end of a
  content of the largest possible size. -/
  peekTwo_eq_error_iff : ∀ f, w.peekTwo = .error f ↔
    f = .absent ∧ w.content.length = UInt32.size - 1 ∧ w.offset.toNat = w.content.length

end WordCursor

namespace Cursor

variable {c : Cursor} {marks : List UInt32}

theorem toNat_offset_go (c : Cursor) (marks : List UInt32) {m : Move} (h : ∀ i, m ≠ .reset i) :
    (go (c, marks) m).1.offset.toNat = c.offset.toNat + m.size c.rest := by
  cases m with
  | bump => exact c.toNat_offset_advance 1
  | eat b =>
    rw [go, Move.size]
    show (c.eat b).2.offset.toNat = _
    rw [eat]
    split
    · rename_i hhead
      obtain ⟨rest, hrest⟩ := List.head?_eq_some_iff.mp hhead
      rw [toNat_offset_advance, hrest, List.length_cons,
        Nat.min_eq_left (Nat.succ_le_succ (Nat.zero_le _))]
    · rfl
  | bumpChar =>
    rw [go, Move.size]
    show c.bumpChar.offset.toNat = _
    rw [bumpChar]
    cases hread : Utf8.decode? c.rest with
    | none => rfl
    | some p =>
      obtain ⟨x, n⟩ := p
      show (c.advance n).offset.toNat = _
      rw [toNat_offset_advance, Nat.min_eq_left (Utf8.size_le_of_decode? hread)]
      rfl
  | mark => rfl
  | reset i => exact absurd rfl (h i)

theorem content_go (c : Cursor) (marks : List UInt32) (m : Move) :
    (go (c, marks) m).1.content = c.content := by
  cases m with
  | bump => rfl
  | mark => rfl
  | eat b =>
    show (c.eat b).2.content = _
    rw [eat]
    split <;> rfl
  | bumpChar =>
    show c.bumpChar.content = _
    rw [bumpChar]
    split <;> rfl
  | reset i =>
    show (c.reset _).content = _
    rw [reset]
    split <;> rfl

/-- Saved offsets are inside the content. -/
theorem marks_go (h : ∀ k ∈ marks, k.toNat ≤ c.content.length) (m : Move) :
    ∀ k ∈ (go (c, marks) m).2, k.toNat ≤ c.content.length := by
  cases m with
  | mark => exact List.forall_mem_cons.mpr ⟨c.inside, h⟩
  | bump => exact h
  | eat b => exact h
  | bumpChar => exact h
  | reset i => exact h

theorem getD_marks_le (h : ∀ k ∈ marks, k.toNat ≤ c.content.length) (i : Nat) :
    (marks.getD i 0).toNat ≤ c.content.length := by
  rw [List.getD_eq_getElem?_getD]
  cases hi : marks[i]? with
  | none => exact Nat.zero_le _
  | some k => exact h k (List.mem_of_getElem? hi)

/-- A move is the same without bounds. -/
theorem go_word (h : ∀ k ∈ marks, k.toNat ≤ c.content.length) (m : Move) :
    WordCursor.go (c.word, marks) m = .ok ((go (c, marks) m).1.word, (go (c, marks) m).2) := by
  cases m with
  | bump => rw [WordCursor.go, bump_word]; rfl
  | eat b => rw [WordCursor.go, eat_word]; rfl
  | bumpChar => rw [WordCursor.go, bumpChar_word]; rfl
  | mark => rfl
  | reset i =>
    rw [WordCursor.go, go, reset_word (getD_marks_le h i)]
    rfl

/-- A run of moves is the same without bounds. -/
theorem foldlM_go_word (h : ∀ k ∈ marks, k.toNat ≤ c.content.length) (moves : List Move) :
    moves.foldlM WordCursor.go (c.word, marks) =
        .ok ((moves.foldl go (c, marks)).1.word, (moves.foldl go (c, marks)).2) ∧
      (moves.foldl go (c, marks)).1.content = c.content := by
  induction moves generalizing c marks with
  | nil => exact ⟨rfl, rfl⟩
  | cons m moves ih =>
    have hcontent := content_go c marks m
    have hmarks := marks_go h m
    rw [← hcontent] at hmarks
    obtain ⟨hrun, hsame⟩ := ih hmarks
    rw [List.foldlM_cons, go_word h m]
    exact ⟨hrun, hsame.trans hcontent⟩

/-- A cursor is inside its content. -/
theorem inBounds_word (c : Cursor) : c.word.InBounds where
  offset_le := c.inside
  peek_eq := by
    rw [peek_word]
    show _ = Except.ok ((c.content.drop c.offset.toNat).headD 0)
    rw [drop_content]
    rfl
  exists_go m hm := by
    refine ⟨_, go_word (List.forall_mem_nil _) m, ?_⟩
    show (go (c, []) m).1.offset.toNat = c.offset.toNat + m.size (c.content.drop c.offset.toNat)
    rw [drop_content, toNat_offset_go c [] hm]
  peekTwo_eq_some_iff a b := by
    rw [peekTwo_word]
    show _ ↔ ∃ rest, c.content.drop c.offset.toNat = a :: b :: rest
    rw [drop_content]
    by_cases hfull : c.AtFullEnd
    · rw [peekTwo_of_atFullEnd hfull, rest_of_atFullEnd hfull]
      simp
    · rw [peekTwo_of_not_atFullEnd hfull, Except.ok.injEq, firstTwo_eq_some_iff]
  peekTwo_eq_error_iff f := by
    rw [peekTwo_word]
    show _ ↔ f = .absent ∧ c.AtFullEnd
    by_cases hfull : c.AtFullEnd
    · rw [peekTwo_of_atFullEnd hfull]
      simp [hfull, eq_comm]
    · rw [peekTwo_of_not_atFullEnd hfull]
      simp [hfull]

theorem exists_start {content : Bytes} (file : FileId) (h : content.length < UInt32.size) :
    ∃ c, start? file content = some c ∧ c.word = ⟨content, 0⟩ :=
  ⟨_, dif_pos h, rfl⟩

theorem word_of_start? {file : FileId} {content : Bytes} (h : start? file content = some c) :
    c.word = ⟨content, 0⟩ := by
  unfold start? at h
  split at h
  · cases h
    rfl
  · cases h

/-- From the start of a source, a cursor without bounds goes in all moves as the cursor with its
bounds does. It is always inside the content, and it is told what the cursor is told: the bytes
ahead, with a fault only where two bytes are looked at from the end of a content of the largest
possible size. -/
theorem exists_run_word {file : FileId} {content : Bytes} (h : start? file content = some c)
    (moves : List Move) :
    ∃ d marks, moves.foldl go (c, []) = (d, marks) ∧
      moves.foldlM WordCursor.go (⟨content, 0⟩, []) = .ok (d.word, marks) ∧
      d.word.content = content ∧ d.word.InBounds ∧
      d.word.peek = .ok d.peek ∧ d.word.peekTwo = d.peekTwo := by
  have hstart := word_of_start? h
  have hcontent : c.content = content := congrArg WordCursor.content hstart
  obtain ⟨hrun, hsame⟩ := foldlM_go_word (c := c) (List.forall_mem_nil _) moves
  rw [hstart] at hrun
  exact ⟨_, _, rfl, hrun, hsame.trans hcontent, inBounds_word _, peek_word _, peekTwo_word _⟩

/-- A letter of two bytes is taken, and what is behind it; it is taken up again from the start, and
the two bytes behind it are looked at. -/
theorem exists_run_word_accent :
    let content := utf8 "é+1"
    let moves : List Move := [.mark, .bumpChar, .eat 43, .mark, .bump, .bump, .reset 1, .bumpChar]
    ∃ c, start? 0 content = some c ∧ ∃ d marks, moves.foldl go (c, []) = (d, marks) ∧
      moves.foldlM WordCursor.go (⟨content, 0⟩, []) = .ok (d.word, marks) ∧
      d.word = ⟨content, 2⟩ ∧ marks = [3, 0] ∧ d.peekTwo = .ok (some (43, 49)) := by
  intro content moves
  have hfits : content.length < UInt32.size := by decide +kernel
  obtain ⟨c, hstart, -⟩ := exists_start 0 hfits
  obtain ⟨d, marks, hrun, hword, -, hbounds, -, htwo⟩ := exists_run_word hstart moves
  have hfinal : moves.foldlM WordCursor.go (⟨content, 0⟩, []) = .ok (⟨content, 2⟩, [3, 0]) := rfl
  obtain ⟨hd, rfl⟩ := Prod.mk.inj (Except.ok.inj (hword.symm.trans hfinal))
  have hahead : content.drop 2 = [43, 49] := by decide +kernel
  have hpair : d.word.peekTwo = .ok (some (43, 49)) :=
    (hbounds.peekTwo_eq_some_iff 43 49).mpr ⟨[], by rw [hd]; exact hahead⟩
  exact ⟨c, hstart, d, _, hrun, hword, hd, rfl, htwo.symm.trans hpair⟩

/-! ### The largest content -/

theorem exists_bumps (c : Cursor) (marks : List UInt32) (n : Nat)
    (h : c.offset.toNat + n ≤ c.content.length) :
    ∃ d, (List.replicate n Move.bump).foldl go (c, marks) = (d, marks) ∧ d.content = c.content ∧
      d.offset.toNat = c.offset.toNat + n := by
  induction n generalizing c with
  | zero => exact ⟨c, rfl, rfl, rfl⟩
  | succ n ih =>
    have hlength := c.length_rest
    have hstep : (c.advance 1).offset.toNat = c.offset.toNat + 1 := by
      rw [toNat_offset_advance, Nat.min_eq_left (by omega)]
    have hroom : (c.advance 1).offset.toNat + n ≤ (c.advance 1).content.length := by
      rw [hstep, content_advance]
      omega
    obtain ⟨d, hrun, hcontent, hoffset⟩ := ih (c.advance 1) hroom
    exact ⟨d, hrun, hcontent, by omega⟩

/-- At the end of a content of the largest possible size, two bytes are looked at that are not
there. -/
theorem peekTwo_fullContent :
    ∃ c, start? 0 (List.replicate (UInt32.size - 1) 0) = some c ∧
      ∃ d, (List.replicate (UInt32.size - 1) Move.bump).foldl go (c, []) = (d, []) ∧
        d.peekTwo = .error .absent ∧ d.word.peekTwo = .error .absent := by
  have hlength : (List.replicate (UInt32.size - 1) (0 : UInt8)).length = UInt32.size - 1 :=
    List.length_replicate
  generalize List.replicate (UInt32.size - 1) (0 : UInt8) = content at hlength ⊢
  have hfits : content.length < UInt32.size := by
    rw [hlength]
    decide
  obtain ⟨c, hstart, hword⟩ := exists_start 0 hfits
  obtain ⟨hsame, hzero⟩ := WordCursor.mk.inj hword
  have hend : c.offset.toNat + (UInt32.size - 1) = c.content.length := by
    rw [hzero, hsame, hlength]
    exact Nat.zero_add _
  obtain ⟨d, hrun, hcontent, hoffset⟩ := exists_bumps c [] _ (Nat.le_of_eq hend)
  have hfull : d.AtFullEnd := by
    rw [AtFullEnd, hcontent, hoffset, hend, hsame]
    exact ⟨hlength, rfl⟩
  have htwo := peekTwo_of_atFullEnd hfull
  exact ⟨c, hstart, d, hrun, htwo, d.peekTwo_word.trans htwo⟩

end Cursor

end ThreeAddress
