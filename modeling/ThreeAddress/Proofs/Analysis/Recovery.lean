import ThreeAddress.Proofs.Analysis.Operands
import ThreeAddress.Proofs.Analysis.Places
import ThreeAddress.Proofs.Analysis.Refusal
import ThreeAddress.Proofs.Analysis.SinkFailure
import ThreeAddress.Proofs.Code.Atoms
import ThreeAddress.Proofs.Parse.Recovery

/-!
# A broken statement spoils nothing behind it

A statement ends at its semicolon, whatever is wrong with it. If it declares nothing, then the
environment behind it is that in front of it, and what follows is lowered to the instructions that
it would be lowered to alone; only the temporaries are moved on by those that the statement took.

Which expressions are lowered is read from the environment and the operands alone
(`State.Agrees`), so it does not matter what was emitted, counted or reported before. A sink with a
bound takes the first of the instructions (`Sink.taken`).

## Main definitions

* `State.Between` : a state in front of a statement.
* `EmitsFrom` : what events emit, as far as the sink has room.

## Main results

* `emitsFrom` : events emit the listing of the expressions that they lower.
* `loweredFrom_of_agrees` : what is lowered depends on the environment and the operands.
* `emitsFrom_behind` : a statement, and what is emitted behind it.
-/

namespace ThreeAddress

/-- The part of some instructions that a sink has room for. -/
def Sink.taken (s : Sink) (is : List Instruction) : List Instruction :=
  match s.room with
  | none => is
  | some n => is.take n

namespace Analysis

open Parse (Event Input parseStmt remaining Unbroken)

variable {limits limits' : Limits} {s t : State} {es fs : List Event}

/-! ### What events are read against -/

/-- Two states have the same names in scope and the same operands. -/
structure State.Agrees (s t : State) : Prop where
  /-- The names in scope. -/
  env : t.env = s.env
  /-- The operands. -/
  operands : t.operands = s.operands

theorem coupling_agrees : Coupling limits limits' State.Agrees where
  env h := h.env
  operands h := h.operands
  report h d :=
    ⟨by rw [State.env_report, State.env_report, h.env],
      by rw [State.operands_report, State.operands_report, h.operands]⟩
  withOperands h _ := ⟨h.env, rfl⟩
  withEnv h _ := ⟨rfl, h.operands⟩
  declared h _ := ⟨rfl, h.operands⟩

/-- An event makes the same of the names in scope and of the operands, whatever was emitted, counted
or reported before. -/
theorem agrees_act (h : s.Agrees t) (e : Event) : (act limits s e).Agrees (act limits' t e) := by
  cases e with
  | look l => exact ⟨h.env, h.operands⟩
  | finish =>
    exact ⟨env_finish.trans (h.env.trans env_finish.symm),
      operands_finish.trans operands_finish.symm⟩
  | _ => exact coupling_agrees.act h rfl (by simp)

/-- What is lowered depends on the names in scope and the operands. -/
theorem loweredFrom_of_agrees (h : s.Agrees t) (es : List Event) :
    loweredFrom limits' t es = loweredFrom limits s es := by
  induction es generalizing s t with
  | nil => rfl
  | cons e es ih =>
    have hlowering : t.lowering e = s.lowering e := by
      cases e with
      | finish => simp only [State.lowering, h.operands]
      | _ => rfl
    rw [loweredFrom, loweredFrom, hlowering, ih (agrees_act h e)]

theorem lowering_erase (h : s.erase = t.erase) {e e' : Event} (he : e.erase = e'.erase) :
    (s.lowering e).map Expr.erase = (t.lowering e').map Expr.erase := by
  by_cases hfinish : e = .finish
  · subst hfinish
    obtain rfl : e' = .finish := by
      cases e' with
      | finish => rfl
      | _ => cases he
    have hoperands : s.operands.map Operand.erase = t.operands.map Operand.erase :=
      (congrArg State.operands h :)
    unfold State.lowering
    rcases hs : s.operands with _ | ⟨⟨x, a⟩, below⟩ <;> rw [hs] at hoperands
    · rw [List.map_eq_nil_iff.mp hoperands.symm]
    · obtain ⟨⟨y, b⟩, below', hops, ho, -⟩ := List.map_eq_cons_iff.mp hoperands.symm
      have hexpr : y.map Expr.erase = x.map Expr.erase := (congrArg Operand.expr ho :)
      rw [hops]
      cases x <;> cases y <;> simp_all
  · have hfinish' : e' ≠ .finish := by
      rintro rfl
      cases e with
      | finish => exact hfinish rfl
      | _ => cases he
    rw [State.lowering_of_ne hfinish, State.lowering_of_ne hfinish']

/-- What is lowered depends on places only in the places of its literals. -/
theorem loweredFrom_erase (h : s.erase = t.erase)
    (hevents : es.map Event.erase = fs.map Event.erase) :
    (loweredFrom limits s es).map Expr.erase = (loweredFrom limits' t fs).map Expr.erase := by
  induction es generalizing s t fs with
  | nil =>
    obtain rfl := List.map_eq_nil_iff.mp hevents.symm
    rfl
  | cons e es ih =>
    obtain ⟨e', fs', rfl, he, hfs⟩ := List.map_eq_cons_iff.mp hevents.symm
    have hact : (act limits s e).erase = (act limits' t e').erase := by
      rw [erase_act limits s, erase_act limits' t, h, he]
    have hlowering := lowering_erase h he.symm
    rw [loweredFrom, loweredFrom, List.map_append, List.map_append, hlowering, ih hact hfs.symm]

theorem listing_erase (n : Nat) (xs : List Expr) :
    listing n (xs.map Expr.erase) = listing n xs := by
  induction xs generalizing n with
  | nil => rfl
  | cons x xs ih => rw [List.map_cons, listing, listing, x.code_erase, x.operations_erase, ih]

/-- What is lowered was built by checked construction. -/
theorem built_of_mem_loweredFrom (h : s.Ready) {x : Expr} (hx : x ∈ loweredFrom limits s es) :
    x.Built := by
  induction es generalizing s with
  | nil => cases hx
  | cons e es ih =>
    rcases List.mem_append.mp hx with hx | hx
    · obtain ⟨o, ho, hexpr⟩ := State.exists_operand_of_lowering hx
      exact h.built o ho x hexpr
    · exact ih (ready_act h e) hx

/-! ### What is emitted between statements -/

/-- In front of a statement nothing has failed, and there are no operands. -/
structure State.Between (s : State) : Prop where
  /-- Nothing has failed. -/
  running : s.phase = .running
  /-- The sink has not failed. -/
  working : s.generator.sink.failure = none
  /-- There are no operands. -/
  operands : s.operands = []

/-- Events emit some instructions, as far as the sink has room for them. -/
def EmitsFrom (limits : Limits) (s : State) (es : List Event) (is : List Instruction) : Prop :=
  (es.foldl (step limits) s).generator.sink.chunks =
    ((s.generator.sink.taken is).map Instruction.chunk).reverse ++ s.generator.sink.chunks

/-- A state whose sink takes everything. -/
def State.unlimited (s : State) : State :=
  s.withGenerator { s.generator with sink := { s.generator.sink with room := none } }

theorem State.Between.ready (h : s.Between) : s.unlimited.Ready :=
  ⟨h.running, ⟨h.working, rfl⟩, fun o ho => by
    have hnone : s.unlimited.operands = [] := h.operands
    rw [hnone] at ho
    cases ho⟩

theorem loweredFrom_unlimited (limits : Limits) (s : State) (es : List Event) :
    loweredFrom limits s.unlimited es = loweredFrom limits s es :=
  loweredFrom_of_agrees (s := s) (t := s.unlimited) ⟨rfl, rfl⟩ es

/-- A sink either takes everything, or it has a bound. -/
theorem State.unlimited_cases (s : State) :
    s.generator.sink.room = none ∧ s.unlimited = s ∨
      ∃ n, s.generator.sink.room = some n ∧ s.unlimited.limited n = s := by
  obtain ⟨env, operands, ⟨⟨chunks, room, failure⟩, ids, points⟩, reports, errors, counts,
    phase⟩ := s
  cases room with
  | none => exact .inl ⟨rfl, rfl⟩
  | some n => exact .inr ⟨n, rfl, rfl⟩

/-- Events emit the listing of the expressions that they lower. -/
theorem emitsFrom (limits : Limits) (h : s.Between) (es : List Event) :
    EmitsFrom limits s es (listing s.generator.ids.temps.toNat (loweredFrom limits s es)) := by
  have hready := h.ready
  have htemps : s.unlimited.generator.ids.temps = UInt64.ofNat s.generator.ids.temps.toNat :=
    UInt64.ofNat_toNat.symm
  have hlowered := loweredFrom_unlimited limits s es
  have hchunks := chunks_foldl limits hready htemps es
  rw [hlowered] at hchunks
  unfold EmitsFrom Sink.taken
  rcases s.unlimited_cases with ⟨hroom, hsame⟩ | ⟨n, hroom, hsame⟩ <;> rw [hroom]
  · rw [hsame] at hready hchunks
    rw [foldl_step limits hready, hchunks]
  · dsimp only
    by_cases hfits : totalOperations (loweredFrom limits s es) ≤ n
    · have hfold := foldl_limited limits hready (hlowered ▸ hfits)
      rw [hsame] at hfold
      rw [List.take_of_length_le (by rwa [length_listing]), hfold]
      exact hchunks
    · obtain ⟨-, -, -, -, -, -, -, -, -, hrefused⟩ :=
        foldl_overflow limits hready htemps (hlowered ▸ Nat.lt_of_not_le hfits)
      rw [hsame, hlowered] at hrefused
      exact hrefused.chunks

theorem temps_foldl_act (limits : Limits) (h : s.Ready) {n : Nat}
    (hn : s.generator.ids.temps = UInt64.ofNat n) (es : List Event) :
    (es.foldl (act limits) s).generator.ids.temps =
      UInt64.ofNat (n + totalOperations (loweredFrom limits s es)) := by
  induction es generalizing s n with
  | nil => exact hn
  | cons e es ih =>
    rw [List.foldl_cons, ih (ready_act h e) (temps_act limits h hn e), loweredFrom,
      totalOperations_append, Nat.add_assoc]

/-- Events that the sink has room for take one temporary for each instruction. -/
theorem temps_foldl_step (limits : Limits) (h : s.Between) {es : List Event}
    (hroom : ∀ n ∈ s.generator.sink.room, totalOperations (loweredFrom limits s es) ≤ n) :
    (es.foldl (step limits) s).generator.ids.temps =
      s.generator.ids.temps + UInt64.ofNat (totalOperations (loweredFrom limits s es)) := by
  have hready := h.ready
  have htemps := temps_foldl_act limits hready
    (UInt64.ofNat_toNat (x := s.generator.ids.temps)).symm es
  rw [loweredFrom_unlimited, UInt64.ofNat_add, UInt64.ofNat_toNat] at htemps
  rcases s.unlimited_cases with ⟨-, hsame⟩ | ⟨n, hbound, hsame⟩
  · rw [hsame] at hready htemps
    rw [foldl_step limits hready, htemps]
  · have hfits : totalOperations (loweredFrom limits s.unlimited es) ≤ n :=
      loweredFrom_unlimited limits s es ▸ hroom n hbound
    have hfold := foldl_limited limits hready hfits
    rw [hsame] at hfold
    rw [hfold]
    exact htemps

/-! ### Statements that declare nothing -/

/-- An expression statement changes no scope. -/
theorem changesScopes_parseExprStmt (i : Input) :
    ∀ e ∈ (Parse.parseExprStmt i).events, changesScopes e = false := by
  have hbody : ∀ e ∈ (Parse.parseExprBody i).events, changesScopes e = false :=
    fun e he => changesScopes_of_isInner (Parse.inner_parseExprBody i e he)
  cases hvalue : (Parse.parseExprBody i).value with
  | some t =>
    rw [Parse.parseExprStmt_of_some hvalue]
    exact List.forall_mem_append.mpr ⟨hbody, List.forall_mem_singleton.mpr rfl⟩
  | none =>
    rw [Parse.parseExprStmt_of_none hvalue]
    refine List.forall_mem_append.mpr ⟨hbody, List.forall_mem_cons.mpr ⟨rfl, fun e he => ?_⟩⟩
    exact changesScopes_of_isInner (Parse.inner_skipStatement _ e he)

theorem env_step {e : Event} (he : changesScopes e = false) : (step limits s e).env = s.env := by
  have hact : (act limits s e).env = s.env := by
    by_cases hfinish : e = .finish
    · subst hfinish
      exact env_finish
    · exact (keeps_act he hfinish).env
  unfold step
  split
  · exact hact
  · split
    · split <;> rfl
    · cases he
    · rfl
  · rfl

theorem env_foldl_step (hes : ∀ e ∈ es, changesScopes e = false) :
    (es.foldl (step limits) s).env = s.env := by
  induction es generalizing s with
  | nil => rfl
  | cons e es ih =>
    obtain ⟨he, hes⟩ := List.forall_mem_cons.mp hes
    rw [List.foldl_cons, ih hes, env_step he]

variable {i k : Input} {g cont : List Lexeme} {stop : Lexeme}

theorem loweredFrom_append (limits : Limits) (s : State) (es fs : List Event) :
    loweredFrom limits s (es ++ fs) =
      loweredFrom limits s es ++ loweredFrom limits (es.foldl (act limits) s) fs := by
  induction es generalizing s with
  | nil => rfl
  | cons e es ih => rw [List.cons_append, loweredFrom, loweredFrom, ih, List.append_assoc]; rfl

/-- What is lowered behind a statement that declares nothing is what is lowered alone. -/
theorem loweredFrom_behind (limits limits' : Limits) (hs : s.Between) (ht : t.Between)
    (henv : t.env = s.env) (i : Input)
    (hscopes : ∀ e ∈ (parseStmt i).events, changesScopes e = false)
    (hevents : es.map Event.erase = fs.map Event.erase) :
    (loweredFrom limits s ((parseStmt i).events ++ es)).map Expr.erase =
      (loweredFrom limits s (parseStmt i).events ++ loweredFrom limits' t fs).map Expr.erase := by
  have hready := hs.ready
  have hagrees : State.Agrees ((parseStmt i).events.foldl (act limits) s.unlimited) t := by
    refine ⟨?_, ?_⟩
    · rw [← foldl_step limits hready, env_foldl_step hscopes]
      exact henv
    · have hnone : ((parseStmt i).events.foldl (act limits) s.unlimited).operands.length = 0 :=
        length_operands_foldl (Parse.balanced_statements.1 i) (congrArg List.length hs.operands)
      rw [List.length_eq_zero_iff.mp hnone, ht.operands]
  have hsame : loweredFrom limits' t es = loweredFrom limits
      ((parseStmt i).events.foldl (act limits) s.unlimited) es :=
    loweredFrom_of_agrees hagrees es
  rw [← loweredFrom_unlimited limits s, loweredFrom_append, List.map_append, List.map_append,
    loweredFrom_unlimited limits s, ← hsame, loweredFrom_erase (t := t) rfl hevents]

/-- A statement without a semicolon or a brace among its tokens ends at its semicolon. If it does
not start with `let`, it leaves the environment as it is, and what follows emits the instructions
that it emits alone in that environment, with temporaries that come later by those of the
statement. -/
theorem emitsFrom_behind (limits limits' : Limits) (hahead : i.ahead = g ++ stop :: cont)
    (hg : Unbroken g) (hstop : stop.token.kind = .semicolon) :
    (parseStmt i).EndsAt cont ∧
      ((∀ l ∈ g.head?, l.token.kind ≠ .keywordLet) →
        (∀ s : State, ((parseStmt i).events.foldl (step limits) s).env = s.env) ∧
        ∀ (blocks : List Span) (s t : State) (k : Input), s.Between → t.Between →
          t.env = s.env → t.generator.ids.temps = s.generator.ids.temps →
          k.ahead = cont → k.looked = false →
          ∃ (own : List Instruction) (xs : List Expr), (∀ x ∈ xs, x.Built) ∧
            EmitsFrom limits s (parseStmt i).events own ∧
            ((∀ n ∈ s.generator.sink.room, own.length ≤ n) →
              ((parseStmt i).events.foldl (step limits) s).generator.ids.temps =
                s.generator.ids.temps + UInt64.ofNat own.length) ∧
            EmitsFrom limits s (remaining blocks i)
              (own ++ (nodesFrom s.generator.ids.temps.toNat xs).map fun node =>
                (node.later (UInt64.ofNat own.length)).instruction) ∧
            EmitsFrom limits' t (remaining blocks k)
              ((nodesFrom s.generator.ids.temps.toNat xs).map Node.instruction)) := by
  have hends := Parse.endsAt_parseStmt hahead hg hstop
  refine ⟨hends, fun hlet => ?_⟩
  have hscopes : ∀ e ∈ (parseStmt i).events, changesScopes e = false := by
    rw [Parse.parseStmt_of_not_let hahead hg hstop hlet]
    exact changesScopes_parseExprStmt i
  refine ⟨fun s => env_foldl_step hscopes, fun blocks s t k hs ht henv htemps hk hlooked => ?_⟩
  have halike : (parseStmt i).rest.Alike k :=
    ⟨by rw [hends.ahead, hk], by rw [hends.looked, hlooked]⟩
  have hremaining : remaining blocks i =
      (parseStmt i).events ++ remaining blocks (parseStmt i).rest := by
    refine Parse.remaining_next (by simp [hahead]) (.inr ?_)
    cases g with
    | nil => simp [Input.kind, hahead, hstop]
    | cons l g => simpa [Input.kind, hahead] using (hg l List.mem_cons_self).2.2
  have hbuilt : ∀ x ∈ loweredFrom limits' t (remaining blocks k), x.Built := by
    rw [← loweredFrom_unlimited limits' t]
    exact fun x hx => built_of_mem_loweredFrom ht.ready hx
  have hbehind := loweredFrom_behind limits limits' hs ht henv i hscopes
    (Parse.erase_remaining blocks halike)
  generalize hn : s.generator.ids.temps.toNat = n at *
  refine ⟨listing n (loweredFrom limits s (parseStmt i).events),
    loweredFrom limits' t (remaining blocks k), hbuilt, ?_, ?_, ?_, ?_⟩
  · rw [← hn]
    exact emitsFrom limits hs _
  · rw [length_listing]
    exact temps_foldl_step limits hs
  · have hown := congrArg (listing n) hbehind
    rw [listing_erase, listing_erase, listing_append] at hown
    have hemits := emitsFrom limits hs (remaining blocks i)
    rw [hn, hremaining, hown, ← map_nodesFrom (n + _), nodesFrom_add hbuilt, List.map_map] at hemits
    rwa [hremaining, length_listing]
  · rw [map_nodesFrom, ← hn, ← htemps]
    exact emitsFrom limits' ht _

/-- A parenthesis that is not closed, in front of a product. -/
def brokenSource : SourceFile :=
  .ofContent 0 (utf8 "a.ez") (utf8 "(1 + 2; 3 * 4;") 0

/-- The semicolon behind the parenthesis. -/
def brokenStop : Lexeme :=
  ⟨⟨.semicolon, ⟨0, 6, 7⟩, utf8 ";"⟩, []⟩

/-- The product behind the semicolon is lowered as it is alone. -/
theorem emitsFrom_behind_brokenSource :
    (parseStmt brokenSource.input).EndsAt (brokenSource.input.ahead.drop 5) ∧
      ∃ (own : List Instruction) (xs : List Expr), (∀ x ∈ xs, x.Built) ∧
        EmitsFrom {} (.start {} {}) (remaining [] brokenSource.input)
          (own ++ (nodesFrom 0 xs).map fun node =>
            (node.later (UInt64.ofNat own.length)).instruction) ∧
        EmitsFrom {} (.start {} {}) (remaining [] ⟨brokenSource.input.ahead.drop 5, {}, false, {}⟩)
          ((nodesFrom 0 xs).map Node.instruction) := by
  have hbetween : (State.start {} {}).Between := ⟨rfl, rfl, rfl⟩
  have hahead : brokenSource.input.ahead = brokenSource.input.ahead.take 4 ++
      brokenStop :: brokenSource.input.ahead.drop 5 := by
    decide +kernel
  have hg : Unbroken (brokenSource.input.ahead.take 4) := by
    unfold Unbroken
    decide +kernel
  obtain ⟨hends, hbehind⟩ := emitsFrom_behind {} {} hahead hg rfl
  obtain ⟨-, hemits⟩ := hbehind (by decide +kernel)
  obtain ⟨own, xs, hbuilt, -, -, hall, halone⟩ := hemits [] _ _
    ⟨brokenSource.input.ahead.drop 5, {}, false, {}⟩ hbetween hbetween rfl rfl rfl rfl
  exact ⟨hends, own, xs, hbuilt, hall, halone⟩

end Analysis

end ThreeAddress
