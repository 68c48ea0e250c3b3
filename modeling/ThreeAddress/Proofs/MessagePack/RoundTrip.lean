import Mathlib.Data.Nat.Digits.Defs
import ThreeAddress.MessagePack.Read
import ThreeAddress.MessagePack.Write

/-!
# Reading what was written

Every form that the writer picks is read back as the value it was written for, whatever follows it.
Readers are local: an answer stays when more bytes are put behind, and these are left over. The two
together say that nothing but the whole of a written value is enough: on a proper front of it there
is no answer, because that answer would have to stay on the whole.

## Main definitions

* `MessagePack.Reads` : a reader yields a value for some bytes, whatever follows.
* `MessagePack.IsLocal` : more bytes behind change no answer.

## Main results

* `MessagePack.IsLocal.bind` and the lemmas on single readers : all readers are local.
* `MessagePack.reads_writeInt`, `reads_writeText`, `reads_writeTexts` : what was written is read.
* `MessagePack.Reads.eq_none_of_lt` : a proper front has no answer.
-/

namespace ThreeAddress.MessagePack

variable {α β : Type} {x : Reader α} {f : α → Reader β} {a : α} {b : Bytes}

/-- A reader yields a value for some bytes, whatever follows them. -/
def Reads (x : Reader α) (b : Bytes) (a : α) : Prop :=
  ∀ rest, x (b ++ rest) = some (a, rest)

/-- An answer stays when more bytes are put behind, and these are left over. -/
def IsLocal (x : Reader α) : Prop :=
  ∀ ⦃b a rest⦄, x b = some (a, rest) → ∀ more, x (b ++ more) = some (a, rest ++ more)

theorem bind_apply (x : Reader α) (f : α → Reader β) (b : Bytes) :
    (x >>= f) b = (x b).bind fun p => f p.1 p.2 := by
  cases h : x b <;> simp [bind, StateT.bind, h]

/-- If a local reader takes all of some bytes, it has no answer on a proper front of them. -/
theorem Reads.eq_none_of_lt (h : Reads x b a) (hx : IsLocal x) {n : Nat} (hn : n < b.length) :
    x (b.take n) = none := by
  rw [Option.eq_none_iff_forall_ne_some]
  rintro ⟨a', rest⟩ hshort
  -- the answer on the front would leave the back over, but the whole leaves nothing
  have hlong := hx hshort (b.drop n)
  have hwhole := h []
  rw [List.append_nil] at hwhole
  rw [List.take_append_drop, hwhole, Option.some.injEq, Prod.mk.injEq] at hlong
  have hback := (List.append_eq_nil_iff.mp hlong.2.symm).2
  exact absurd (List.drop_eq_nil_iff.mp hback) (Nat.not_le_of_lt hn)

/-! ### Readers are local -/

section Local

theorem IsLocal.pure (a : α) : IsLocal (pure a) := by
  intro b a' rest h more
  cases h
  rfl

theorem IsLocal.failure : IsLocal (failure : Reader α) := by
  intro b a rest h
  cases h

/-- An answer that does not depend on the bytes. -/
theorem IsLocal.lift (o : Option α) : IsLocal (liftM o : Reader α) := by
  intro b a rest h more
  cases o with
  | none => cases h
  | some a' =>
    cases h
    rfl

theorem IsLocal.bind (hx : IsLocal x) (hf : ∀ a, IsLocal (f a)) : IsLocal (x >>= f) := by
  intro b c rest h more
  rw [bind_apply] at h ⊢
  obtain ⟨⟨a, b'⟩, ha, hc⟩ := Option.bind_eq_some_iff.mp h
  rw [hx ha more]
  exact hf a hc more

theorem isLocal_readByte : IsLocal readByte := by
  intro b a rest h more
  cases b with
  | nil => cases h
  | cons x b =>
    cases h
    rfl

theorem isLocal_readBytes (n : Nat) : IsLocal (readBytes n) := by
  intro b a rest h more
  unfold readBytes at h ⊢
  split at h
  · rename_i hle
    cases h
    rw [if_pos (by simp; omega), List.take_append_of_le_length hle,
      List.drop_append_of_le_length hle]
  · cases h

theorem isLocal_readBigEndian (width : Nat) : IsLocal (readBigEndian width) :=
  .bind (isLocal_readBytes width) fun _ => .pure _

theorem isLocal_readSigned (width : Nat) : IsLocal (readSigned width) :=
  .bind (isLocal_readBigEndian width) fun _ => .pure _

theorem isLocal_readNumber : IsLocal readNumber := by
  refine .bind isLocal_readByte fun code => ?_
  split
  · exact .pure _
  · split
    · exact .pure _
    · exact .bind (isLocal_readBigEndian 1) fun _ => .pure _
    · exact .bind (isLocal_readBigEndian 2) fun _ => .pure _
    · exact .bind (isLocal_readBigEndian 4) fun _ => .pure _
    · exact .bind (isLocal_readBigEndian 8) fun _ => .pure _
    · exact isLocal_readSigned 1
    · exact isLocal_readSigned 2
    · exact isLocal_readSigned 4
    · exact isLocal_readSigned 8
    · exact .failure

theorem isLocal_readBool : IsLocal readBool := by
  refine .bind isLocal_readByte fun code => ?_
  split
  · exact .pure _
  · exact .pure _
  · exact .pure _
  · exact .failure

/-- A length of so many bytes. -/
theorem isLocal_sized (width : Nat) :
    IsLocal (do return some (← readBigEndian width) : Reader (Option Nat)) :=
  .bind (isLocal_readBigEndian width) fun _ => .pure _

theorem isLocal_readLengthOf (low high : UInt8) (widths : List (UInt8 × Nat)) (code : UInt8) :
    IsLocal (readLengthOf low high widths code) := by
  unfold readLengthOf
  split
  · exact .pure _
  · split
    · exact .pure _
    · split
      · exact isLocal_sized _
      · exact .failure

theorem isLocal_readBinary? : IsLocal readBinary? := by
  refine .bind isLocal_readByte fun code => .bind (isLocal_readLengthOf _ _ _ code) fun n => ?_
  cases n with
  | none => exact .pure _
  | some n => exact .bind (isLocal_readBytes n) fun _ => .pure _

theorem isLocal_readText : IsLocal readText :=
  .bind isLocal_readBinary? fun _ => .pure _

theorem isLocal_times (hx : IsLocal x) (n : Nat) : IsLocal (times x n) := by
  induction n with
  | zero => exact .pure _
  | succ n ih => exact .bind hx fun _ => .bind ih fun _ => .pure _

theorem isLocal_readTexts? : IsLocal readTexts? := by
  refine .bind isLocal_readByte fun code => .bind (isLocal_readLengthOf _ _ _ code) fun n => ?_
  cases n with
  | none => exact .pure _
  | some n => exact .bind (isLocal_times isLocal_readText n) fun _ => .pure _

/-- What is told by bytes in front stays when more bytes are put behind. -/
theorem ite_take_append {width : Nat} {rest : Bytes} {g : Bytes → α}
    (h : (if width ≤ rest.length then some (g (rest.take width)) else none) = some a)
    (more : Bytes) :
    (if width ≤ (rest ++ more).length then some (g ((rest ++ more).take width)) else none) =
      some a := by
  split at h
  · rename_i hle
    rw [if_pos (by simp; omega), List.take_append_of_le_length hle]
    exact h
  · cases h

theorem layout_append {code : UInt8} {rest : Bytes} {p : Nat × Nat}
    (h : layout code rest = some p) (more : Bytes) : layout code (rest ++ more) = some p := by
  unfold layout at h ⊢
  extract_lets sized counted n at h
  extract_lets sized' counted'
  have hsized (width extra : Nat) (h : sized width extra = some p) :
      sized' width extra = some p :=
    ite_take_append (g := fun b => (width + ofBigEndian b + extra, 0)) h more
  have hcounted (width each : Nat) (h : counted width each = some p) :
      counted' width each = some p :=
    ite_take_append (g := fun b => (width, each * ofBigEndian b)) h more
  clear_value sized sized' counted counted' n
  split_ifs at h ⊢
  · exact h
  · exact h
  · exact h
  · exact h
  · -- the code alone decides the form, so both sides take the same one
    split at h
    case h_32 => cases h
    all_goals first | exact h | exact hsized _ _ h | exact hcounted _ _ h

theorem skipValues_append {pending : Nat} {rest : Bytes} (h : skipValues pending b = some rest)
    (more : Bytes) : skipValues pending (b ++ more) = some (rest ++ more) := by
  induction pending, b using skipValues.induct with
  | case1 b =>
    rw [skipValues] at h ⊢
    rw [Option.some.inj h]
  | case2 pending => simp [skipValues] at h
  | case3 pending code b hlayout =>
    rw [skipValues, hlayout] at h
    cases h
  | case4 pending code b own inner hlayout hown ih =>
    rw [skipValues, hlayout] at h
    simp only [if_pos hown] at h
    have hmore : own ≤ (b ++ more).length := by simp; omega
    rw [List.cons_append, skipValues, layout_append hlayout more]
    simp only [if_pos hmore]
    rw [List.drop_append_of_le_length hown]
    exact ih h
  | case5 pending code b own inner hlayout hown =>
    rw [skipValues, hlayout] at h
    simp only [if_neg hown] at h
    cases h

theorem isLocal_skip : IsLocal skip := by
  intro b u rest h more
  unfold skip at h ⊢
  obtain ⟨rest', hskip, heq⟩ := Option.map_eq_some_iff.mp h
  cases heq
  rw [skipValues_append hskip more]
  rfl

end Local

/-! ### What was written is read -/

theorem Reads.pure (a : α) : Reads (pure a) [] a :=
  fun _ => rfl

theorem Reads.bind {c : Bytes} {d : β} (hx : Reads x b a) (hf : Reads (f a) c d) :
    Reads (x >>= f) (b ++ c) d := by
  intro rest
  rw [bind_apply, List.append_assoc, hx]
  exact hf rest

/-- What is read last may need no bytes. -/
theorem Reads.andThen {d : β} (hx : Reads x b a) (hf : Reads (f a) [] d) :
    Reads (x >>= f) b d :=
  List.append_nil b ▸ hx.bind hf

/-- The value may still be worked on. -/
theorem Reads.map (hx : Reads x b a) (g : α → β) :
    Reads (x >>= fun a => Pure.pure (g a)) b (g a) :=
  hx.andThen (.pure _)

theorem reads_readByte (code : UInt8) : Reads readByte [code] code :=
  fun _ => rfl

theorem reads_readBytes (b : Bytes) : Reads (readBytes b.length) b b := by
  intro rest
  rw [readBytes, if_pos (by simp), List.take_left, List.drop_left]

section Numbers

@[simp] theorem length_bigEndian (width n : Nat) : (bigEndian width n).length = width := by
  induction width generalizing n with
  | zero => rfl
  | succ width ih => simp [bigEndian, ih]

/-- The bytes of a number keep its low bits. -/
theorem ofBigEndian_bigEndian (width n : Nat) :
    ofBigEndian (bigEndian width n) = n % 256 ^ width := by
  induction width generalizing n with
  | zero => simp [bigEndian, ofBigEndian, Nat.mod_one]
  | succ width ih =>
    have hlast : (UInt8.ofNat (n % 256)).toNat = n % 256 := by simp
    have hmod : n % (256 * 256 ^ width) = n % 256 + 256 * (n / 256 % 256 ^ width) := Nat.mod_mul
    rw [bigEndian, ofBigEndian, List.foldl_append, ← ofBigEndian, ih, List.foldl_cons,
      List.foldl_nil, hlast, Nat.pow_succ', hmod]
    omega

theorem reads_readBigEndian (width n : Nat) :
    Reads (readBigEndian width) (bigEndian width n) (n % 256 ^ width) := by
  have h := (reads_readBytes (bigEndian width n)).map ofBigEndian
  rwa [length_bigEndian, ofBigEndian_bigEndian] at h

/-- A negative number that fits is told by the low bits of its word. -/
theorem reads_readSigned {width bits : Nat} {v : Int} (hwidth : 0 < width)
    (hlow : -((256 ^ width : Nat) : Int) ≤ 2 * v)
    (hbits : ((bits % 256 ^ width : Nat) : Int) = v + ((256 ^ width : Nat) : Int)) :
    Reads (readSigned width) (bigEndian width bits) v := by
  have hpower : 256 ^ width = 2 * 2 ^ (8 * width - 1) := by
    rw [← Nat.pow_succ', show (256 : Nat) = 2 ^ 8 from rfl, ← Nat.pow_mul]
    congr 1
    omega
  have hread : Reads (readSigned width) (bigEndian width bits) _ :=
    (reads_readBigEndian width bits).map _
  have hhigh : ¬ bits % 256 ^ width < 1 <<< (8 * width - 1) := by
    rw [Nat.shiftLeft_eq, Nat.one_mul]
    omega
  have hall : 1 <<< (8 * width) = 256 ^ width := by
    rw [Nat.shiftLeft_eq, Nat.one_mul, show (256 : Nat) = 2 ^ 8 from rfl, ← Nat.pow_mul]
  rw [if_neg hhigh, hall, hbits, Int.add_sub_cancel] at hread
  exact hread

/-- A code alone may stand for a number. -/
theorem reads_smallNumber {code : UInt8} {v : Int} (h : smallNumber? code = some v) :
    Reads readNumber [code] v := by
  intro rest
  have hcode : readByte (code :: rest) = some (code, rest) := rfl
  rw [List.singleton_append, readNumber, bind_apply, hcode, Option.bind_some]
  dsimp only
  rw [h]
  rfl

/-- The bytes behind the code of a number tell it. -/
theorem Reads.number {x : Reader Int} {v : Int} (hx : Reads x b v) {code : UInt8}
    (hcode : ∀ rest, readNumber (code :: rest) = x rest) : Reads readNumber (code :: b) v := by
  intro rest
  rw [List.cons_append, hcode]
  exact hx rest

theorem reads_unsigned {width n : Nat} (hn : n < 256 ^ width) :
    Reads (do return ((← readBigEndian width : Nat) : Int)) (bigEndian width n) n := by
  have h := (reads_readBigEndian width n).map fun n => (n : Int)
  rwa [Nat.mod_eq_of_lt hn] at h

theorem reads_writeWord16 (n : UInt16) : Reads readNumber (writeWord16 n) n.toNat :=
  (reads_unsigned n.toNat_lt).number fun _ => rfl

theorem reads_writeWord64 (n : UInt64) : Reads readNumber (writeWord64 n) n.toNat :=
  (reads_unsigned n.toNat_lt).number fun _ => rfl

theorem reads_writeNat {n : Nat} (hn : n < UInt64.size) : Reads readNumber (writeNat n) n := by
  unfold writeNat
  split
  · rename_i hsmall
    refine reads_smallNumber ?_
    have hcode : (UInt8.ofNat n).toNat = n := by simp; omega
    rw [smallNumber?, if_pos (UInt8.lt_iff_toNat_lt.mpr (by rw [hcode]; exact hsmall)), hcode]
  · split
    · exact (reads_unsigned (by simpa using ‹_›)).number fun _ => rfl
    · split
      · exact (reads_unsigned (by simpa using ‹_›)).number fun _ => rfl
      · split
        · exact (reads_unsigned (by simpa using ‹_›)).number fun _ => rfl
        · exact (reads_unsigned (by simpa using hn)).number fun _ => rfl

theorem toNat_toUInt64_of_neg {n : Int64} (h : n.toInt < 0) :
    (n.toUInt64.toNat : Int) = n.toInt + 2 ^ 64 := by
  have hsplit : n.toInt = _ := BitVec.toInt_eq_toNat_cond n.toBitVec
  have hword : n.toUInt64.toNat = n.toBitVec.toNat := rfl
  split at hsplit
  · omega
  · rw [hword, hsplit]
    simp

theorem reads_writeInt (n : Int64) : Reads readNumber (writeInt n) n.toInt := by
  have hlow := n.le_toInt
  have hhigh := n.toInt_lt
  unfold writeInt
  extract_lets v bits
  split
  · rename_i hv
    have h := reads_writeNat (n := v.toNat) (by simp [UInt64.size]; omega)
    rwa [Int.toNat_of_nonneg hv] at h
  · rename_i hv
    have hbits : (bits : Int) = v + 2 ^ 64 := toNat_toUInt64_of_neg (by omega)
    split
    · refine reads_smallNumber ?_
      have hcode : (UInt8.ofNat bits).toNat = bits % 256 := by simp
      rw [smallNumber?, if_neg (by rw [UInt8.lt_iff_toNat_lt, hcode]; simp; omega),
        if_pos (by rw [UInt8.le_iff_toNat_le, hcode]; simp; omega), hcode]
      exact congrArg some (by omega)
    · split
      · exact (reads_readSigned (by decide) (by omega) (by omega)).number fun _ => rfl
      · split
        · exact (reads_readSigned (by decide) (by omega) (by omega)).number fun _ => rfl
        · split
          · exact (reads_readSigned (by decide) (by omega) (by omega)).number fun _ => rfl
          · exact (reads_readSigned (by decide) (by omega) (by omega)).number fun _ => rfl

theorem reads_writeBool (v : Bool) : Reads readBool (writeBool v) v := by
  cases v <;> exact fun _ => rfl

end Numbers

section Texts

variable {code : UInt8} {front : Bytes} {ts : List Bytes}

theorem reads_sized {width n : Nat} (hn : n < 256 ^ width) :
    Reads (do return some (← readBigEndian width) : Reader (Option Nat)) (bigEndian width n)
      (some n) := by
  have h := (reads_readBigEndian width n).map some
  rwa [Nat.mod_eq_of_lt hn] at h

/-- A code that holds a length itself. -/
theorem reads_readLengthOf {low high : UInt8} {widths : List (UInt8 × Nat)} {n : Nat}
    (h : low.toNat + n < high.toNat) :
    Reads (readLengthOf low high widths (UInt8.ofNat (low.toNat + n))) [] (some n) := by
  have hcode : (UInt8.ofNat (low.toNat + n)).toNat = low.toNat + n := by
    rw [UInt8.toNat_ofNat']
    exact Nat.mod_eq_of_lt (h.trans high.toNat_lt)
  have hfix : (low ≤ UInt8.ofNat (low.toNat + n) && UInt8.ofNat (low.toNat + n) < high) = true := by
    rw [Bool.and_eq_true, decide_eq_true_iff, decide_eq_true_iff, UInt8.le_iff_toNat_le,
      UInt8.lt_iff_toNat_lt, hcode]
    exact ⟨Nat.le_add_right _ _, h⟩
  intro rest
  rw [readLengthOf, if_pos hfix, hcode, Nat.add_sub_cancel_left]
  rfl

/-- A code with the length behind it and then so many bytes are a text or a byte string. -/
theorem Reads.binary (h : Reads (readLength code) front (some b.length)) :
    Reads readBinary? (code :: front ++ b) (some b) :=
  (reads_readByte code).bind (h.bind ((reads_readBytes b).map some))

theorem reads_text (h : Reads readBinary? front (some b)) : Reads readText front b :=
  h.map fun t => t.getD []

theorem reads_writeText (h : b.length < UInt32.size) : Reads readText (writeText b) b := by
  refine reads_text ?_
  unfold writeText
  extract_lets n
  split
  · rename_i hn
    have hlength : Reads (readLength (UInt8.ofNat (0xA0 + n))) [] (some n) :=
      reads_readLengthOf (Nat.add_lt_add_left hn _)
    exact hlength.binary
  · split
    · exact .binary (reads_sized (by simpa using ‹_›))
    · split
      · exact .binary (reads_sized (by simpa using ‹_›))
      · exact .binary (reads_sized (by simpa using h))

theorem reads_writeBinary (h : b.length < UInt8.size) :
    Reads readBinary? (writeBinary b) (some b) :=
  .binary (reads_sized (by simpa using h))

theorem reads_times {write : α → Bytes} {as : List α} (h : ∀ a ∈ as, Reads x (write a) a) :
    Reads (times x as.length) (as.flatMap write) as := by
  induction as with
  | nil => exact .pure _
  | cons a as ih =>
    obtain ⟨ha, has⟩ := List.forall_mem_cons.mp h
    exact ha.bind ((ih has).map (a :: ·))

/-- A code with the number of elements behind it and then so many texts are a list of texts. -/
theorem Reads.texts (h : Reads (readArrayLength code) front (some ts.length))
    (hts : ∀ t ∈ ts, t.length < UInt32.size) :
    Reads readTexts? (code :: front ++ ts.flatMap writeText) (some ts) := by
  have htimes : Reads (times readText ts.length) (ts.flatMap writeText) ts :=
    reads_times fun t ht => reads_writeText (hts t ht)
  exact (reads_readByte code).bind (h.bind (htimes.map some))

/-- A list without elements is written as nothing. -/
theorem reads_writeTexts (hlength : ts.length < UInt32.size)
    (hts : ∀ t ∈ ts, t.length < UInt32.size) :
    Reads readTexts? (writeTexts ts) (if ts = [] then none else some ts) := by
  unfold writeTexts
  by_cases hnil : ts = []
  · rw [if_pos hnil, if_pos hnil]
    exact fun _ => rfl
  rw [if_neg hnil, if_neg hnil]
  unfold writeArrayLength
  split
  · rename_i hn
    have hcount : Reads (readArrayLength (UInt8.ofNat (0x90 + ts.length))) [] (some ts.length) :=
      reads_readLengthOf (Nat.add_lt_add_left hn _)
    exact hcount.texts hts
  · split
    · exact .texts (reads_sized (by simpa using ‹_›)) hts
    · exact .texts (reads_sized (by simpa using hlength)) hts

end Texts

end ThreeAddress.MessagePack
