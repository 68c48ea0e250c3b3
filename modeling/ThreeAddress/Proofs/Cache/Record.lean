import ThreeAddress.Cache.Record
import ThreeAddress.Proofs.MessagePack.RoundTrip

/-!
# Records come back as they were written

A record that the format can hold is read back from what was written for it, whatever stands behind,
and from no proper front of that. The fields are written one after another, each behind its name, so
it is enough that reading a field carries it over from the record that was written.

## Main definitions

* `CacheRecord.Fits` : what the format can hold.
* `CacheRecord.Field.copy` : carries one field over.

## Main results

* `CacheRecord.reads_encode` : what was written for a record is read as the record.
* `CacheRecord.isLocal_reader` : reading a record does not depend on what stands behind it.
* `CacheRecord.decode?_encode_append` : a whole record with anything behind it.
* `CacheRecord.decode?_take_encode` : a proper front of a record.
-/

namespace ThreeAddress.CacheRecord

open MessagePack

/-- What the format can hold: a hash of 32 bytes, and texts and a list of lines whose lengths are
32-bit words. -/
structure Fits (r : CacheRecord) : Prop where
  /-- The path has a length. -/
  path : r.path.length < UInt32.size
  /-- The hash is one of 32 bytes. -/
  hash : r.hash.length = 32
  /-- The lines can be counted. -/
  count : r.lines.length < UInt32.size
  /-- Every line has a length. -/
  lines : ∀ l ∈ r.lines, l.length < UInt32.size

variable {r t : CacheRecord}

namespace Field

/-- Carries a field of one record over to another one. -/
def copy (r t : CacheRecord) : Field → CacheRecord
  | schema => { t with schema := r.schema }
  | path => { t with path := r.path }
  | hash => { t with hash := r.hash }
  | lines => { t with lines := r.lines }
  | temps => { t with temps := r.temps }
  | labels => { t with labels := r.labels }
  | declarations => { t with declarations := r.declarations }
  | statements => { t with statements := r.statements }
  | maxFrame => { t with maxFrame := r.maxFrame }
  | broken => { t with broken := r.broken }

/-- A record whose lines and hash are the first ones or were carried over. -/
structure Takes (r t : CacheRecord) : Prop where
  /-- There is a hash to write over. -/
  hash : t.hash.length = 32
  /-- There are no lines that could stay when there are none to carry over. -/
  lines : t.lines = [] ∨ t.lines = r.lines

theorem Takes.copy (h : Takes r t) (hr : r.Fits) (f : Field) : Takes r (f.copy r t) := by
  cases f with
  | hash => exact ⟨hr.hash, h.lines⟩
  | lines => exact ⟨h.hash, .inr rfl⟩
  | _ => exact ⟨h.hash, h.lines⟩

theorem overlay?_of_length_eq {new old : Bytes} (h : new.length = old.length) :
    overlay? new old = some new := by
  rw [overlay?, if_pos h.le, h, List.drop_length, List.append_nil]

/-- Reading what was written for a field carries it over. -/
theorem reads_read (hr : r.Fits) (h : Takes r t) (f : Field) :
    Reads (f.read t) (f.write r) (f.copy r t) := by
  have hword16 (n : UInt16) : UInt16.ofInt n.toNat = n := by
    have hmod : ((n.toNat : Int) % 2 ^ 16).toNat = n.toNat := by
      have := n.toNat_lt
      omega
    rw [UInt16.ofInt, hmod, UInt16.ofNat_toNat]
  have hword64 (n : UInt64) : UInt64.ofInt n.toNat = n := by
    have hmod : ((n.toNat : Int) % 2 ^ 64).toNat = n.toNat := by
      have := n.toNat_lt
      omega
    rw [UInt64.ofInt, hmod, UInt64.ofNat_toNat]
  cases f with
  | schema =>
    have hread := (reads_writeWord16 r.schema).map fun n => { t with schema := UInt16.ofInt n }
    rwa [hword16] at hread
  | path => exact (reads_writeText hr.path).map fun b => { t with path := b }
  | hash =>
    have hbinary : Reads readBinary? (writeBinary r.hash) (some r.hash) :=
      reads_writeBinary (by rw [hr.hash]; decide)
    refine hbinary.andThen fun rest => ?_
    show ((liftM (overlay? r.hash t.hash) : Reader Bytes) >>= fun h =>
      pure { t with hash := h }) rest = _
    rw [overlay?_of_length_eq (hr.hash.trans h.hash.symm)]
    rfl
  | lines =>
    have htexts := reads_writeTexts hr.count hr.lines
    refine htexts.andThen fun rest => ?_
    by_cases hnil : r.lines = []
    · rw [if_pos hnil]
      have hsame : t.lines = r.lines := h.lines.elim (fun heq => heq.trans hnil.symm) id
      show some (t, rest) = some ({ t with lines := r.lines }, rest)
      rw [← hsame]
    · rw [if_neg hnil]
      rfl
  | temps =>
    have hread := (reads_writeWord64 r.temps).map fun n => { t with temps := UInt64.ofInt n }
    rwa [hword64] at hread
  | labels =>
    have hread := (reads_writeWord64 r.labels).map fun n => { t with labels := UInt64.ofInt n }
    rwa [hword64] at hread
  | declarations =>
    have hread := (reads_writeInt r.declarations).map fun n =>
      { t with declarations := Int64.ofInt n }
    rwa [Int64.ofInt_toInt] at hread
  | statements =>
    have hread := (reads_writeInt r.statements).map fun n => { t with statements := Int64.ofInt n }
    rwa [Int64.ofInt_toInt] at hread
  | maxFrame =>
    have hread := (reads_writeWord64 r.maxFrame).map fun n => { t with maxFrame := UInt64.ofInt n }
    rwa [hword64] at hread
  | broken => exact (reads_writeBool r.broken).map fun b => { t with broken := b }

theorem ofName?_name (f : Field) : ofName? f.name = some f := by
  cases f <;> decide

theorem length_name_lt (f : Field) : f.name.length < UInt32.size := by
  cases f <;> decide

theorem isLocal_read (t : CacheRecord) (f : Field) : IsLocal (f.read t) := by
  cases f with
  | schema | temps | labels | declarations | statements | maxFrame =>
    exact .bind isLocal_readNumber fun _ => .pure _
  | path => exact .bind isLocal_readText fun _ => .pure _
  | hash =>
    refine .bind isLocal_readBinary? fun h => ?_
    cases h with
    | none => exact .pure _
    | some h => exact .bind (.lift _) fun _ => .pure _
  | lines =>
    refine .bind isLocal_readTexts? fun ls => ?_
    cases ls with
    | none => exact .pure _
    | some ls => exact .pure _
  | broken => exact .bind isLocal_readBool fun _ => .pure _

end Field

/-! ### Whole records -/

theorem reads_readEntry (hr : r.Fits) (h : Field.Takes r t) (f : Field) :
    Reads (readEntry t) (writeText f.name ++ f.write r) (f.copy r t) := by
  refine (reads_writeText f.length_name_lt).bind ?_
  rw [f.ofName?_name]
  exact Field.reads_read hr h f

/-- Reading what was written for some fields carries them over. -/
theorem reads_readEntries (hr : r.Fits) (h : Field.Takes r t) (fs : List Field) :
    Reads (readEntries fs.length t) (fs.flatMap fun f => writeText f.name ++ f.write r)
      (fs.foldl (fun t f => f.copy r t) t) := by
  induction fs generalizing t with
  | nil => exact .pure _
  | cons f fs ih => exact (reads_readEntry hr h f).bind (ih (h.copy hr f))

/-- All fields together are the record. -/
theorem foldl_copy (r : CacheRecord) : Field.all.foldl (fun t f => f.copy r t) {} = r := by
  simp only [Field.all, List.foldl_cons, List.foldl_nil, Field.copy]

theorem isLocal_readEntry (t : CacheRecord) : IsLocal (readEntry t) := by
  refine .bind isLocal_readText fun name => ?_
  split
  · exact Field.isLocal_read t _
  · exact .bind isLocal_skip fun _ => .pure _

theorem isLocal_readEntries (n : Nat) (t : CacheRecord) : IsLocal (readEntries n t) := by
  induction n generalizing t with
  | zero => exact .pure _
  | succ n ih => exact .bind (isLocal_readEntry t) fun _ => ih _

theorem isLocal_foldlM (fs : List Field) (t : CacheRecord) :
    IsLocal (fs.foldlM (fun t f => f.read t) t) := by
  induction fs generalizing t with
  | nil => exact .pure _
  | cons f fs ih => exact .bind (Field.isLocal_read t f) fun _ => ih _

/-- The record behind the length of a map. -/
def ofMap : Option Nat → Reader CacheRecord
  | none => return {}
  | some n => readEntries n {}

/-- The record behind the length of an array. -/
def ofArray : Option Nat → Reader CacheRecord
  | none | some 0 => return {}
  | some n => if n = Field.all.length then readList {} else failure

/-- A record starts as a map or else as an array. -/
theorem reader_cons (code : UInt8) (rest : Bytes) : reader (code :: rest) =
    (readMapLength code rest).elim ((readArrayLength code >>= ofArray) rest)
      fun p => ofMap p.1 p.2 := by
  have hcode : readByte (code :: rest) = some (code, rest) := rfl
  rw [reader, hcode, Option.bind_eq_bind, Option.bind_some]
  dsimp only
  rcases readMapLength code rest with _ | ⟨_ | n, rest⟩
  · rw [Option.elim_none, bind_apply, Option.bind_eq_bind]
    refine congrArg (readArrayLength code rest).bind (funext fun p => ?_)
    obtain ⟨_ | _ | n, rest⟩ := p
    · rfl
    · rfl
    · show (if n + 1 = Field.all.length then readList {} rest else none) =
        (if n + 1 = Field.all.length then readList {} else failure : Reader CacheRecord) rest
      split <;> rfl
  · rfl
  · rfl

/-- The code of a record decides whether it is a map or an array. -/
theorem reader_of_code (code : UInt8) :
    (∀ rest, reader (code :: rest) = (readMapLength code >>= ofMap) rest) ∨
      ∀ rest, reader (code :: rest) = (readArrayLength code >>= ofArray) rest := by
  have hmap {p : Option Nat} (h : readMapLength code = pure p) (rest : Bytes) :
      reader (code :: rest) = (readMapLength code >>= ofMap) rest := by
    rw [reader_cons, h]
    rfl
  have harray (h : readArrayLength code = failure) (rest : Bytes) :
      reader (code :: rest) = (readMapLength code >>= ofMap) rest := by
    rw [reader_cons, h, bind_apply (readMapLength code)]
    cases readMapLength code rest <;> rfl
  by_cases hfix : (0x80 ≤ code && code < 0x90) = true
  · exact .inl (hmap (by rw [readMapLength, readLengthOf, if_pos hfix]))
  by_cases hnil : code = 0xC0
  · exact .inl (hmap (by rw [hnil]; rfl))
  by_cases h16 : code = 0xDE
  · exact .inl (harray (by rw [h16]; rfl))
  by_cases h32 : code = 0xDF
  · exact .inl (harray (by rw [h32]; rfl))
  have hother : readMapLength code = failure := by
    have hlookup : [((0xDE : UInt8), 2), (0xDF, 4)].lookup code = none := by
      simp [List.lookup_eq_none_iff, h16, h32]
    rw [readMapLength, readLengthOf, if_neg hfix, if_neg hnil, hlookup]
  refine .inr fun rest => ?_
  rw [reader_cons, hother]
  rfl

theorem isLocal_ofMap (n : Option Nat) : IsLocal (ofMap n) := by
  cases n with
  | none => exact .pure _
  | some n => exact isLocal_readEntries n {}

theorem isLocal_ofArray (n : Option Nat) : IsLocal (ofArray n) := by
  unfold ofArray
  split
  · exact .pure _
  · exact .pure _
  · split
    · exact isLocal_foldlM Field.all {}
    · exact .failure

/-- Reading a record does not depend on what stands behind it. -/
theorem isLocal_reader : IsLocal reader := by
  intro b r rest h more
  cases b with
  | nil => cases h
  | cons code b =>
    rw [List.cons_append]
    obtain hmap | harray := reader_of_code code
    · rw [hmap] at h ⊢
      exact (isLocal_readLengthOf _ _ _ code).bind isLocal_ofMap h more
    · rw [harray] at h ⊢
      exact (isLocal_readLengthOf _ _ _ code).bind isLocal_ofArray h more

/-- What was written for a record is read as the record. -/
theorem reads_encode (hr : r.Fits) : Reads reader r.encode r := by
  have hentries := reads_readEntries hr (t := {}) ⟨rfl, .inl rfl⟩ Field.all
  rw [foldl_copy] at hentries
  intro rest
  have hlength : ∀ b, readMapLength 0x8A b = some (some Field.all.length, b) := fun _ => rfl
  have hfront : r.encode ++ rest = 0x8A ::
      ((Field.all.flatMap fun f => writeText f.name ++ f.write r) ++ rest) := rfl
  rw [hfront, reader_cons, hlength, Option.elim_some]
  exact hentries rest

/-- A record is read back, whatever stands behind it. -/
theorem decode?_encode_append (hr : r.Fits) (more : Bytes) :
    decode? (r.encode ++ more) = some r := by
  rw [decode?, reads_encode hr]
  rfl

/-- No proper front of a written record can be read. -/
theorem decode?_take_encode (hr : r.Fits) {n : Nat} (hn : n < r.encode.length) :
    decode? (r.encode.take n) = none := by
  rw [decode?, (reads_encode hr).eq_none_of_lt isLocal_reader hn]
  rfl

end ThreeAddress.CacheRecord
