import ThreeAddress.Proofs.Analysis.Refusal
import ThreeAddress.Proofs.Environment.Layout
import ThreeAddress.Proofs.Parse.Nesting

/-!
# The largest frame

What the blocks open at a time have declared is told from the events alone: a block that is closed
takes its declarations along, and a declaration stays out if an array in its type, or all that is
declared together with it, has no size of 64 bits. These sizes are exact; nothing wraps around. An
analysis agrees with that at every time: its frame is as large as what is declared then, and the
largest frame that it counts is the largest of all times.

## Main definitions

* `Ledger.HasRoom` : a type fits into 64 bits with all that is declared.
* `declaredBehind` : what is declared in the open blocks behind the first events of a source.
* `Ledger.acceptedAmong` : the declarations among events that have room.
* `State.Accounts` : an analysis agrees with what is declared.
* `RefusesFrame` : a declaration is refused for the size of the frame.

## Main results

* `accounts_act`, `accounts_reached` : an analysis agrees with what is declared as long as nothing
  has failed.
* `isGreatest_maxFrame_run` : the counts of an analysis, and the declarations that it refuses.
-/

namespace ThreeAddress

open Parse (Event Input IsType Nested Reaches TypeTree parseProgram parseStmt)

/-! ### What is declared -/

namespace Environment

variable {l : Ledger} {e : Event} {es : List Event} {m n : Nat}

namespace Ledger

/-- The number of bytes that the declarations take together. -/
def bytes (l : Ledger) : Nat :=
  (l.flatten.map DataType.bytes).sum

/-- A type can be declared as well: no array in it outgrows 64 bits, and neither do all
declarations with it. -/
def HasRoom (l : Ledger) (type : DataType) : Prop :=
  (∀ a ∈ type.arrays, a.bytes < UInt64.size) ∧ l.bytes + type.bytes < UInt64.size

instance {l : Ledger} {type : DataType} : Decidable (l.HasRoom type) :=
  inferInstanceAs (Decidable (_ ∧ _))

/-- What is declared in the open blocks behind an event. -/
def behind (l : Ledger) : Event → Ledger
  | .openBlock => [] :: l
  | .closeBlock => l.tail
  | .declare _ type => if l.HasRoom type then l.modifyHead (type :: ·) else l
  | _ => l

/-- The declaration that an event makes, if there is room for it. -/
def accepts (l : Ledger) : Event → List (Token × DataType)
  | .declare name type => if l.HasRoom type then [(name, type)] else []
  | _ => []

/-- The declarations that events make, in order. -/
def acceptedAmong (l : Ledger) : List Event → List (Token × DataType)
  | [] => []
  | e :: es => l.accepts e ++ (l.behind e).acceptedAmong es

theorem bytes_tail_le (l : Ledger) : bytes l.tail ≤ bytes l := by
  cases l with
  | nil => exact Nat.le_refl _
  | cons types outer =>
    simp only [bytes, List.tail_cons, List.flatten_cons, List.map_append, List.sum_append]
    exact Nat.le_add_left _ _

theorem acceptedAmong_concat (l : Ledger) (es : List Event) (e : Event) :
    l.acceptedAmong (es ++ [e]) = l.acceptedAmong es ++ Ledger.accepts (es.foldl behind l) e := by
  induction es generalizing l with
  | nil => exact List.append_nil _
  | cons e' es ih =>
    rw [List.cons_append, acceptedAmong, acceptedAmong, ih, List.append_assoc, List.foldl_cons]

/-- Other events declare nothing. -/
theorem behind_of_not_changesScopes (h : Analysis.changesScopes e = false) :
    l.behind e = l ∧ l.accepts e = [] := by
  cases e with
  | openBlock | closeBlock | declare => cases h
  | _ => exact ⟨rfl, rfl⟩

/-- There is a list of declarations for every open block. -/
theorem length_behind (he : e.Nests m n) {c : Nat} (hl : l.length = m + c) :
    (l.behind e).length = n + c := by
  cases he with
  | openBlock n => rw [behind, List.length_cons, hl, Nat.add_right_comm]
  | closeBlock n => rw [behind, List.length_tail, hl, Nat.add_right_comm, Nat.add_sub_cancel]
  | other hbrace n =>
    cases e with
    | openBlock | closeBlock => cases hbrace
    | declare name type =>
      show (if l.HasRoom type then l.modifyHead (type :: ·) else l).length = _
      split
      · rwa [List.length_modifyHead]
      · exact hl
    | _ => exact hl

theorem length_foldl_behind (hes : Nested es m n) {c : Nat} (hl : l.length = m + c) :
    (es.foldl behind l).length = n + c :=
  hes.foldl behind (P := fun n l => l.length = n + c) (fun _ _ _ _ he => length_behind he) hl

end Ledger

/-- What is declared in the open blocks of a source behind its first events. One block is open from
the start. -/
def declaredBehind (es : List Event) : Ledger :=
  es.foldl Ledger.behind [[]]

theorem declaredBehind_concat (es : List Event) (e : Event) :
    declaredBehind (es ++ [e]) = (declaredBehind es).behind e := by
  rw [declaredBehind, List.foldl_concat]
  rfl

theorem declaredBehind_append_of_inner {fs : List Event} (hfs : ∀ e ∈ fs, e.isInner = true) :
    declaredBehind (es ++ fs) = declaredBehind es := by
  induction fs generalizing es with
  | nil => rw [List.append_nil]
  | cons e fs ih =>
    obtain ⟨he, hfs⟩ := List.forall_mem_cons.mp hfs
    rw [List.append_cons, ih hfs, declaredBehind_concat]
    exact (Ledger.behind_of_not_changesScopes (Analysis.changesScopes_of_isInner he)).1

/-- A block is open at every time. -/
theorem declaredBehind_ne_nil (h : Nested es 0 n) : declaredBehind es ≠ [] :=
  List.ne_nil_of_length_eq_add_one (Ledger.length_foldl_behind h rfl)

/-- The sizes that all declarations of the open blocks have had together, at any time. -/
def sizes (es : List Event) : Set Nat :=
  {n | ∃ p, p <+: es ∧ n = (declaredBehind p).bytes}

theorem sizes_concat (es : List Event) (e : Event) :
    sizes (es ++ [e]) = insert (declaredBehind (es ++ [e])).bytes (sizes es) := by
  ext n
  constructor
  · rintro ⟨p, hp, hn⟩
    rcases List.prefix_concat_iff.mp hp with rfl | hp
    · exact .inl hn
    · exact .inr ⟨p, hp, hn⟩
  · rintro (hn | ⟨p, hp, hn⟩)
    · exact ⟨_, List.prefix_refl _, hn⟩
    · exact ⟨p, hp.trans (List.prefix_append _ _), hn⟩

theorem bytes_mem_sizes (es : List Event) : (declaredBehind es).bytes ∈ sizes es :=
  ⟨es, List.prefix_refl es, rfl⟩

/-- A declaration is refused if and only if there is no room for it. -/
theorem declare_eq_error_iff_not_hasRoom {env : Environment}
    (h : Stacked l env.scopes env.frame.toNat) (hl : l ≠ []) (name : Bytes) {type : DataType} :
    (∃ err, env.declare name type = .error err) ↔ ¬ l.HasRoom type := by
  have hscopes : env.scopes ≠ [] := by
    rintro hnil
    rw [hnil] at h
    generalize env.frame.toNat = top at h
    cases h
    exact hl rfl
  have hframe : env.frame.toNat = l.bytes := h.sum_eq
  rw [declare_eq_error_iff, or_iff_right hscopes, Ledger.HasRoom, not_and_or, not_lt, hframe,
    ← DataType.checkedWidth_eq_true_iff, Bool.not_eq_true]

/-- An accepted declaration is one more in the innermost block. -/
theorem stacked_declare {env env' : Environment} (h : Stacked l env.scopes env.frame.toNat)
    (hl : l ≠ []) {name : Bytes} {type : DataType} {id : Identifier}
    (hdeclare : env.declare name type = .ok (id, env')) :
    Stacked (l.modifyHead (type :: ·)) env'.scopes env'.frame.toNat := by
  obtain ⟨types, outer, rfl⟩ := List.exists_cons_of_ne_nil hl
  have happly := stacked_apply h (.declare name type)
  simpa only [apply, note, hdeclare, List.modifyHead_cons] using happly

end Environment

namespace Analysis

open Environment (Ledger Stacked declaredBehind sizes)

variable {limits : Limits} {g : Generator} {s t : State} {e : Event} {es : List Event}

/-! ### An analysis agrees with what is declared -/

/-- An analysis agrees with what is declared behind some events. -/
structure State.Accounts (s : State) (es : List Event) : Prop where
  /-- The open scopes have the storage of what is declared, and no more. -/
  stacked : Stacked (declaredBehind es) s.env.scopes s.env.frame.toNat
  /-- All accepted declarations are counted. -/
  declarations : s.counts.declarations = (Ledger.acceptedAmong [[]] es).length
  /-- The largest frame is the largest of all times. -/
  largest : IsGreatest (sizes es) s.counts.maxFrame.toNat

namespace State.Accounts

theorem start (limits : Limits) (g : Generator) : (State.start limits g).Accounts [] where
  stacked := Environment.stacked_run [.push]
  declarations := rfl
  largest := by
    refine ⟨⟨[], List.prefix_refl _, rfl⟩, ?_⟩
    rintro n ⟨p, hp, rfl⟩
    rw [List.prefix_nil.mp hp]
    exact Nat.le_refl _

/-- One event more. -/
theorem concat (h : s.Accounts es)
    (hstacked : Stacked ((declaredBehind es).behind e) t.env.scopes t.env.frame.toNat)
    (hdeclarations : t.counts.declarations =
      s.counts.declarations + ((declaredBehind es).accepts e).length)
    (hmax : t.counts.maxFrame.toNat =
      max ((declaredBehind es).behind e).bytes s.counts.maxFrame.toNat) :
    t.Accounts (es ++ [e]) where
  stacked := by rwa [Environment.declaredBehind_concat]
  declarations := by
    rw [hdeclarations, h.declarations, Ledger.acceptedAmong_concat, List.length_append]
    rfl
  largest := by
    rw [Environment.sizes_concat, Environment.declaredBehind_concat, hmax]
    exact h.largest.insert _

/-- An event that declares nothing. -/
theorem concat_of_counts (h : s.Accounts es)
    (hstacked : Stacked ((declaredBehind es).behind e) t.env.scopes t.env.frame.toNat)
    (hcounts : t.counts.declarations = s.counts.declarations ∧
      t.counts.maxFrame = s.counts.maxFrame)
    (haccepts : (declaredBehind es).accepts e = [])
    (hbytes : ((declaredBehind es).behind e).bytes ≤ (declaredBehind es).bytes) :
    t.Accounts (es ++ [e]) := by
  refine h.concat hstacked (by rw [hcounts.1, haccepts]; rfl) ?_
  rw [hcounts.2, max_eq_right]
  exact hbytes.trans (h.largest.2 (Environment.bytes_mem_sizes es))

end State.Accounts

theorem counts_finish : s.finish.counts.declarations = s.counts.declarations ∧
    s.finish.counts.maxFrame = s.counts.maxFrame := by
  unfold State.finish
  split
  · unfold State.lower
    dsimp only
    split <;> exact ⟨rfl, rfl⟩
  · exact ⟨rfl, rfl⟩

/-- A declaration for which there is no room leaves an error, and nothing else. -/
theorem declare_of_not_hasRoom (limits : Limits) (h : s.Accounts es)
    (hopen : declaredBehind es ≠ []) (name : Token) {type : DataType}
    (hroom : ¬ (declaredBehind es).HasRoom type) :
    ∃ err : DeclareError, s.declare limits name type =
      (s.warned limits name).report limits (.ofError .frameTooLarge name.span err.message) := by
  obtain ⟨err, herr⟩ :=
    (Environment.declare_eq_error_iff_not_hasRoom h.stacked hopen name.text).mpr hroom
  refine ⟨err, ?_⟩
  rw [State.declare_eq]
  unfold State.reserved
  rw [State.env_warned, herr]

theorem declare_of_hasRoom (limits : Limits) (h : s.Accounts es)
    (hopen : declaredBehind es ≠ []) (name : Token) {type : DataType}
    (hroom : (declaredBehind es).HasRoom type) :
    ∃ id env, s.env.declare name.text type = .ok (id, env) ∧
      (s.declare limits name type).env = env ∧
      (s.declare limits name type).counts.declarations = s.counts.declarations + 1 ∧
      (s.declare limits name type).counts.maxFrame =
        if s.counts.maxFrame ≤ env.frame then env.frame else s.counts.maxFrame := by
  cases hdeclare : s.env.declare name.text type with
  | error err =>
    refine absurd hroom ?_
    exact (Environment.declare_eq_error_iff_not_hasRoom h.stacked hopen _).mp ⟨err, hdeclare⟩
  | ok p =>
    obtain ⟨id, env⟩ := p
    refine ⟨id, env, rfl, ?_⟩
    rw [State.declare_eq]
    unfold State.reserved
    rw [State.env_warned, hdeclare, State.counts_warned]
    exact ⟨rfl, rfl, rfl⟩

/-- A declaration agrees with what is declared. -/
theorem accounts_declare (limits : Limits) (h : s.Accounts es) (hopen : declaredBehind es ≠ [])
    (name : Token) (type : DataType) :
    (s.declare limits name type).Accounts (es ++ [Event.declare name type]) := by
  by_cases hroom : (declaredBehind es).HasRoom type
  · have hbehind : (declaredBehind es).behind (.declare name type) =
        (declaredBehind es).modifyHead (type :: ·) := if_pos hroom
    have haccepts : (declaredBehind es).accepts (.declare name type) = [(name, type)] :=
      if_pos hroom
    obtain ⟨id, env, hdeclare, henv, hdeclarations, hmax⟩ :=
      declare_of_hasRoom limits h hopen name hroom
    have hstacked := Environment.stacked_declare h.stacked hopen hdeclare
    refine h.concat (by rwa [hbehind, henv]) (by rw [hdeclarations, haccepts]; rfl) ?_
    have hframe : env.frame.toNat = Ledger.bytes ((declaredBehind es).modifyHead (type :: ·)) :=
      hstacked.sum_eq
    rw [hmax, hbehind, ← hframe]
    split
    · rename_i hle
      exact (max_eq_left (UInt64.le_iff_toNat_le.mp hle)).symm
    · rename_i hlt
      exact (max_eq_right (Nat.le_of_lt (UInt64.lt_iff_toNat_lt.mp (UInt64.not_le.mp hlt)))).symm
  · have hbehind : (declaredBehind es).behind (.declare name type) = declaredBehind es :=
      if_neg hroom
    obtain ⟨err, hrefused⟩ := declare_of_not_hasRoom limits h hopen name hroom
    rw [hrefused]
    refine h.concat_of_counts ?_ (by simp) (if_neg hroom) (by rw [hbehind])
    rw [hbehind, State.env_report, State.env_warned]
    exact h.stacked

/-- An event agrees with what is declared. -/
theorem accounts_act (limits : Limits) (h : s.Accounts es) (hopen : declaredBehind es ≠ [])
    (e : Event) : (act limits s e).Accounts (es ++ [e]) := by
  cases hscopes : changesScopes e with
  | false =>
    obtain ⟨hbehind, haccepts⟩ :=
      Ledger.behind_of_not_changesScopes (l := declaredBehind es) hscopes
    have hsame : (act limits s e).env = s.env ∧
        (act limits s e).counts.declarations = s.counts.declarations ∧
        (act limits s e).counts.maxFrame = s.counts.maxFrame := by
      by_cases hfinish : e = .finish
      · subst hfinish
        exact ⟨env_finish, counts_finish⟩
      · have hkeeps : s.Keeps (act limits s e) := keeps_act hscopes hfinish
        exact ⟨hkeeps.env, by rw [hkeeps.counts], by rw [hkeeps.counts]⟩
    refine h.concat_of_counts ?_ hsame.2 haccepts (by rw [hbehind])
    rw [hbehind, hsame.1]
    exact h.stacked
  | true =>
    cases e with
    | openBlock =>
      exact h.concat_of_counts (Environment.stacked_apply h.stacked .push) ⟨rfl, rfl⟩ rfl
        (Nat.le_refl _)
    | closeBlock =>
      exact h.concat_of_counts (Environment.stacked_apply h.stacked .pop) ⟨rfl, rfl⟩ rfl
        (Ledger.bytes_tail_le _)
    | declare name type => exact accounts_declare limits h hopen name type
    | _ => cases hscopes

/-! ### A whole run -/

/-- Some events are run while nothing has failed. If any are left, then because something has. -/
structure RunsUpTo (limits : Limits) (g : Generator) (done ahead : List Event) : Prop where
  /-- Nothing has failed in front of an event that is run. -/
  running : ∀ p, p <+: done → p ≠ done → (reached limits g p).phase = .running
  /-- Something has failed if events are left. -/
  failed : ahead ≠ [] → (reached limits g done).phase ≠ .running

theorem reached_append (limits : Limits) (g : Generator) (es fs : List Event) :
    reached limits g (es ++ fs) = fs.foldl (step limits) (reached limits g es) :=
  List.foldl_append

theorem phase_reached_append {es fs : List Event} (h : (reached limits g es).phase = .running)
    (hfs : .finish ∉ fs) : (reached limits g (es ++ fs)).phase = .running := by
  rw [reached_append, foldl_step_of_unfinished h hfs]
  exact (phase_foldl hfs).trans h

/-- Nothing fails as long as no expression statement ends. -/
theorem phase_reached (h : .finish ∉ es) : (reached limits g es).phase = .running := by
  have hstart : (reached limits g []).phase = .running := rfl
  exact phase_reached_append hstart h

theorem exists_runsUpTo (limits : Limits) (g : Generator) (es : List Event) :
    ∃ done ahead, es = done ++ ahead ∧ RunsUpTo limits g done ahead := by
  induction es using List.reverseRecOn with
  | nil => exact ⟨[], [], rfl, fun p hp hne => absurd (List.prefix_nil.mp hp) hne,
      fun h => absurd rfl h⟩
  | append_singleton es e ih =>
    obtain ⟨done, ahead, rfl, hrun⟩ := ih
    by_cases hphase : ahead = [] ∧ (reached limits g done).phase = .running
    · obtain ⟨rfl, hrunning⟩ := hphase
      refine ⟨done ++ [e], [], by simp, fun p hp hne => ?_, fun h => absurd rfl h⟩
      rcases List.prefix_concat_iff.mp hp with rfl | hp
      · exact absurd rfl hne
      · by_cases hdone : p = done
        · rwa [hdone]
        · exact hrun.running p hp hdone
    · refine ⟨done, ahead ++ [e], List.append_assoc _ _ _, hrun.running, fun _ hrunning => ?_⟩
      exact hphase ⟨by_contra fun hne => hrun.failed hne hrunning, hrunning⟩

/-- Nothing has failed before if nothing has failed now. -/
theorem running_of_earlier {p q : List Event} (hp : p <+: q)
    (hq : (reached limits g q).phase = .running) : (reached limits g p).phase = .running := by
  obtain ⟨back, rfl⟩ := hp
  by_contra hphase
  rw [reached_append] at hq
  exact (rests_foldl limits hphase back).1 hq

/-- Behind an event in front of which nothing has failed. -/
theorem RunsUpTo.prefix_of_running {done ahead p : List Event} {e : Event}
    (hrun : RunsUpTo limits g done ahead) (hp : p ++ [e] <+: done ++ ahead)
    (hrunning : (reached limits g p).phase = .running) : p ++ [e] <+: done := by
  rcases List.prefix_or_prefix_of_prefix hp (List.prefix_append done ahead) with h | h
  · exact h
  · rcases List.prefix_concat_iff.mp h with rfl | h
    · exact List.prefix_refl _
    · -- something has failed behind what is run, and so it has behind the rest
      have hnil : ahead = [] := by_contra fun hne => hrun.failed hne (running_of_earlier h hrunning)
      rwa [hnil, List.append_nil] at hp

/-- All events are run if nothing fails. -/
theorem RunsUpTo.ahead_eq_nil {f : SourceFile} {done ahead : List Event}
    (hrun : RunsUpTo limits g done ahead) (hsplit : parseProgram f.input = done ++ ahead)
    (hfailure : (run limits g f.lexemes).failure = none) : ahead = [] := by
  by_contra hahead
  have hphase : (reached limits g (parseProgram f.input)).phase ≠ .running := by
    rw [hsplit, reached_append]
    exact (rests_foldl limits (hrun.failed hahead) ahead).1
  change (reached limits g (parseProgram f.input)).outcome.failure = none at hfailure
  unfold State.outcome at hfailure
  split at hfailure
  · rename_i hrunning
    exact hphase hrunning
  · cases hfailure
  · cases hfailure

/-- What is run agrees with what is declared at every time. -/
theorem accounts_reached {done ahead : List Event} (hrun : RunsUpTo limits g done ahead) {n : Nat}
    (hnested : Nested done 0 n) {p : List Event} (hp : p <+: done) :
    (reached limits g p).Accounts p ∧ declaredBehind p ≠ [] := by
  have hopen {p : List Event} (hp : p <+: done) : declaredBehind p ≠ [] := by
    obtain ⟨back, rfl⟩ := hp
    obtain ⟨k, hk, -⟩ := hnested.exists_of_append
    exact Environment.declaredBehind_ne_nil hk
  refine ⟨?_, hopen hp⟩
  induction p using List.reverseRecOn with
  | nil => exact .start limits g
  | append_singleton es e ih =>
    have hes : es <+: done := (List.prefix_append es [e]).trans hp
    have hne : es ≠ done := by
      rintro rfl
      exact absurd hp.length_le (by simp)
    have hstep : step limits (reached limits g es) e = act limits (reached limits g es) e := by
      simp only [step, hrun.running es hes hne]
    rw [reached_append, List.foldl_cons, List.foldl_nil, hstep]
    exact accounts_act limits (ih hes) (hopen hes) e

/-- Reading has come to `let`, a name, a colon and a derived type. -/
structure ReachesLet (i : Input) (es : List Event) (j : Input) (name : Token) (type : TypeTree) :
    Prop where
  /-- Reading has come to a statement. -/
  reaches : ∃ block, Reaches i block es j
  /-- It starts in this way. -/
  tokens : ∃ key colon ts us, j.tokens = key :: name :: colon :: ts ++ us ∧
    key.kind = .keywordLet ∧ colon.kind = .colon ∧ IsType ts type
  /-- The name is one. -/
  name : name.kind = .identifier

/-- Such a declaration is declared, and in front of that nothing comes up but what belongs to the
type. -/
theorem ReachesLet.exists_declare {i j : Input} {name : Token} {type : TypeTree}
    (h : ReachesLet i es j name type) :
    ∃ front back after : List Event,
      (parseStmt j).events = front ++ .declare name type.denote :: back ∧
      (∀ e ∈ front, e.isInner = true) ∧
      parseProgram i = es ++ front ++ [.declare name type.denote] ++ after := by
  obtain ⟨⟨block, hreach⟩, ⟨key, colon, ts, us, htokens, hkey, hcolon, htype⟩, hname⟩ := h
  obtain ⟨l, rest, hahead, rfl, htail⟩ := Input.exists_of_tokens htokens
  obtain ⟨front, back, hlet, hfront⟩ := Parse.declares_parseLet hname hcolon htype htail
  have hstmt : (parseStmt j).toStep.events =
      (j.lookEvents ++ front) ++ .declare name type.denote :: back := by
    rw [Parse.parseStmt_let hahead hkey]
    simp [Parse.Step.behind, Parse.Step.after, hlet]
  obtain ⟨after, hafter⟩ := hreach.exists_after
  rw [Parse.eventsAhead_eq (by simp [hahead])
    (.inr (by simp [Input.kind_of_ahead hahead, hkey])), hstmt] at hafter
  refine ⟨j.lookEvents ++ front, back,
    back ++ (Parse.eventsAhead block (parseStmt j).rest ++ after), hstmt, ?_, ?_⟩
  · exact List.forall_mem_append.mpr ⟨Parse.isInner_lookEvents j, hfront⟩
  · rw [hafter]
    simp

/-- A declaration is refused for the size of the frame. Nothing changes but that there is an error,
behind a warning if the name is declared already. -/
def RefusesFrame (limits : Limits) (s t : State) (name : Token) : Prop :=
  ∃ err : DeclareError, t =
    (s.warned limits name).report limits (.ofError .frameTooLarge name.span err.message)

/-- A declaration is refused if and only if there is no room for it. -/
theorem refusesFrame_declare_iff (limits : Limits) (h : s.Accounts es)
    (hopen : declaredBehind es ≠ []) (name : Token) (type : DataType) :
    RefusesFrame limits s (s.declare limits name type) name ↔
      (∃ a ∈ type.arrays, UInt64.size ≤ a.bytes) ∨
        UInt64.size ≤ (declaredBehind es).bytes + type.bytes := by
  have hno : (∃ a ∈ type.arrays, UInt64.size ≤ a.bytes) ∨
      UInt64.size ≤ (declaredBehind es).bytes + type.bytes ↔
        ¬ (declaredBehind es).HasRoom type := by
    simp only [Ledger.HasRoom, not_and_or, not_forall, not_lt, exists_prop]
  rw [hno]
  refine ⟨?_, declare_of_not_hasRoom limits h hopen name⟩
  rintro ⟨err, hrefused⟩ hroom
  obtain ⟨id, env, -, -, hdeclarations, -⟩ := declare_of_hasRoom limits h hopen name hroom
  rw [hrefused, State.counts_report, State.counts_warned] at hdeclarations
  exact absurd hdeclarations (Nat.ne_of_lt (Nat.lt_succ_self _))

/-- The largest frame that an analysis counts is the largest exact size that the declarations of the
open blocks have had together at any time, and the declarations that it counts are those that have
been accepted. A declaration of a derived type is refused if and only if an array in its type, or
all that is declared in the open blocks together with it, does not fit into 64 bits. That is so for
every source, whatever the bound on errors is and wherever the code goes; if emission fails, then up
to there. -/
theorem isGreatest_maxFrame_run (f : SourceFile) (limits : Limits) (g : Generator) :
    ∃ done ahead, parseProgram f.input = done ++ ahead ∧ RunsUpTo limits g done ahead ∧
      ((run limits g f.lexemes).failure = none → ahead = []) ∧
      IsGreatest (sizes done) (run limits g f.lexemes).counts.maxFrame.toNat ∧
      (run limits g f.lexemes).counts.declarations = (Ledger.acceptedAmong [[]] done).length ∧
      ∀ (es : List Event) (j : Input) (name : Token) (type : TypeTree),
        ReachesLet f.input es j name type → (reached limits g es).phase = .running →
        ∃ front back, (parseStmt j).events = front ++ .declare name type.denote :: back ∧
          es ++ front ++ [.declare name type.denote] <+: done ∧
          (RefusesFrame limits (reached limits g (es ++ front))
              (reached limits g (es ++ front ++ [.declare name type.denote])) name ↔
            (∃ a ∈ type.denote.arrays, UInt64.size ≤ a.bytes) ∨
              UInt64.size ≤ (declaredBehind es).bytes + type.denote.bytes) := by
  obtain ⟨done, ahead, hsplit, hrun⟩ := exists_runsUpTo limits g (parseProgram f.input)
  have hnested : Nested (done ++ ahead) 0 0 := hsplit ▸ Parse.nested_parseProgram f.input 0
  obtain ⟨n, hn, -⟩ := hnested.exists_of_append
  have hrest : reached limits g (parseProgram f.input) =
      ahead.foldl (step limits) (reached limits g done) := by
    rw [hsplit]
    exact List.foldl_append
  have hcounts : (run limits g f.lexemes).counts = (reached limits g done).counts := by
    show (reached limits g (parseProgram f.input)).counts = _
    rw [hrest]
    by_cases hahead : ahead = []
    · rw [hahead, List.foldl_nil]
    · exact (rests_foldl limits (hrun.failed hahead) ahead).2.2.2
  obtain ⟨haccounts, -⟩ := accounts_reached hrun hn (List.prefix_refl done)
  refine ⟨done, ahead, hsplit, hrun, fun hfailure => ?_, hcounts ▸ haccounts.largest,
    hcounts ▸ haccounts.declarations, ?_⟩
  · exact hrun.ahead_eq_nil hsplit hfailure
  · intro es j name type hlet hrunning
    obtain ⟨front, back, after, hstmt, hinner, hafter⟩ := hlet.exists_declare
    refine ⟨front, back, hstmt, ?_⟩
    -- in front of the declaration nothing can fail
    have hunfinished : .finish ∉ front := fun hmem => by cases hinner _ hmem
    have hbefore : (reached limits g (es ++ front)).phase = .running :=
      phase_reached_append hrunning hunfinished
    have hprefix : es ++ front ++ [.declare name type.denote] <+: done ++ ahead :=
      ⟨after, by rw [← hsplit, hafter]⟩
    have hdone := hrun.prefix_of_running hprefix hbefore
    refine ⟨hdone, ?_⟩
    obtain ⟨haccounts, hopen⟩ := accounts_reached hrun hn ((List.prefix_append _ _).trans hdone)
    have hact : reached limits g (es ++ front ++ [.declare name type.denote]) =
        (reached limits g (es ++ front)).declare limits name type.denote := by
      rw [reached_append]
      simp only [List.foldl_cons, List.foldl_nil, step, hbefore, act]
    rw [hact, refusesFrame_declare_iff limits haccounts hopen,
      Environment.declaredBehind_append_of_inner hinner]

/-- A source with two blocks and a declaration between them. The array in each block has all but
2^32 of the 2^64 bytes of a frame that is too large, and the declaration has all of these but
eight. -/
def blockSource : SourceFile :=
  .ofContent 0 (utf8 "blocks.ez")
    (utf8 "\x7blet a: [4294967295][536870912]i64;\x7d let a: [536870911]i64; " ++
      utf8 "\x7blet a: [4294967295][536870912]i64; let a: i64;\x7d") 0

/-- The type of the array in the second block. -/
def wideType : TypeTree :=
  .array (sampleToken .integer 69 "4294967295")
    (.array (sampleToken .integer 81 "536870912") (.scalar .int64))

/-- The events in front of the statements of the second block. -/
def outerEvents : List Event :=
  let i := blockSource.input
  let j := (parseStmt i).rest
  (parseStmt i).events ++ (parseStmt j).events ++ ((parseStmt j).rest.lookEvents ++ [.openBlock])

/-- Reading has come to the statements of the second block. -/
def innerInput : Input :=
  (parseStmt (parseStmt blockSource.input).rest).rest.tail

theorem exists_reaches_innerInput :
    ∃ block, Reaches blockSource.input block outerEvents innerInput := by
  have hahead : blockSource.input.ahead ≠ [] ∧ (parseStmt blockSource.input).rest.ahead ≠ [] ∧
      (parseStmt (parseStmt blockSource.input).rest).rest.tokens =
        sampleToken .leftBrace 60 "\x7b" :: innerInput.tokens := by
    decide +kernel
  obtain ⟨hfirst, hsecond, hbrace⟩ := hahead
  obtain ⟨l, rest, hl, hbrace, -⟩ := Input.exists_of_tokens hbrace
  have hreaches := (Reaches.start.next hfirst (.inl rfl)).next hsecond (.inl rfl)
  exact ⟨_, hreaches.enter hl (by rw [hbrace]; rfl)⟩

theorem reachesLet_innerInput : ReachesLet blockSource.input outerEvents innerInput
    (sampleToken .identifier 65 "a") wideType where
  reaches := exists_reaches_innerInput
  tokens := by
    have htype : IsType
        [sampleToken .leftBracket 68 "[", sampleToken .integer 69 "4294967295",
          sampleToken .rightBracket 79 "]", sampleToken .leftBracket 80 "[",
          sampleToken .integer 81 "536870912", sampleToken .rightBracket 90 "]",
          sampleToken .identifier 91 "i64"] wideType :=
      .array rfl rfl rfl (.array rfl rfl rfl (.scalar rfl rfl))
    exact ⟨sampleToken .keywordLet 61 "let", sampleToken .colon 66 ":", _,
      sampleToken .semicolon 94 ";" :: (parseStmt innerInput).rest.tokens, by decide +kernel, rfl,
      rfl, htype⟩
  name := rfl

theorem reachesLet_last : ReachesLet blockSource.input
    (outerEvents ++ (parseStmt innerInput).events) (parseStmt innerInput).rest
    (sampleToken .identifier 100 "a") (.scalar .int64) where
  reaches := by
    obtain ⟨block, hreaches⟩ := exists_reaches_innerInput
    have hinner : innerInput.ahead ≠ [] ∧ innerInput.kind ≠ .rightBrace := by decide +kernel
    exact ⟨block, hreaches.next hinner.1 (.inr hinner.2)⟩
  tokens := by
    have htype : IsType [sampleToken .identifier 103 "i64"] (.scalar .int64) := .scalar rfl rfl
    exact ⟨sampleToken .keywordLet 96 "let", sampleToken .colon 101 ":", _,
      [sampleToken .semicolon 106 ";", sampleToken .rightBrace 107 "\x7d"], by decide +kernel, rfl,
      rfl, htype⟩
  name := rfl

/-- The closed block has given its room back, so the array of the second block is accepted. The
frame is as large then as 64 bits can tell, but for less than the eight bytes that the declaration
behind it asks for, of the same name in the same block. -/
theorem refusesFrame_blockSource :
    (run {} {} blockSource.lexemes).counts.declarations = 3 ∧
      2 ^ 64 - 8 ≤ (run {} {} blockSource.lexemes).counts.maxFrame.toNat ∧
      (∃ front, ¬ RefusesFrame {} (reached {} {} (outerEvents ++ front))
        (reached {} {} (outerEvents ++ front ++
          [.declare (sampleToken .identifier 65 "a") wideType.denote]))
        (sampleToken .identifier 65 "a")) ∧
      ∃ front, RefusesFrame {}
        (reached {} {} (outerEvents ++ (parseStmt innerInput).events ++ front))
        (reached {} {} (outerEvents ++ (parseStmt innerInput).events ++ front ++
          [.declare (sampleToken .identifier 100 "a") .int64]))
        (sampleToken .identifier 100 "a") := by
  obtain ⟨done, ahead, hsplit, -, hahead, ⟨-, hlargest⟩, hdeclarations, hlet⟩ :=
    isGreatest_maxFrame_run blockSource {} {}
  obtain rfl : ahead = [] := hahead (failure_run .recorder)
  rw [List.append_nil] at hsplit
  obtain rfl : done = parseProgram blockSource.input := hsplit.symm
  obtain ⟨hfinish, hfinish', hcount, houter, hinner⟩ : .finish ∉ outerEvents ∧
      .finish ∉ outerEvents ++ (parseStmt innerInput).events ∧
      (Ledger.acceptedAmong [[]] (parseProgram blockSource.input)).length = 3 ∧
      (declaredBehind outerEvents).bytes = 2 ^ 32 - 8 ∧
      (declaredBehind (outerEvents ++ (parseStmt innerInput).events)).bytes = 2 ^ 64 - 8 := by
    decide +kernel
  have hroom : ∀ a ∈ wideType.denote.arrays, a.bytes < UInt64.size := by decide +kernel
  have hwide : wideType.denote.bytes = 2 ^ 64 - 2 ^ 32 := by decide +kernel
  obtain ⟨front, -, -, -, haccepted⟩ :=
    hlet _ _ _ _ reachesLet_innerInput (phase_reached hfinish)
  obtain ⟨front', -, -, hdone, hrefused⟩ :=
    hlet _ _ _ _ reachesLet_last (phase_reached hfinish')
  refine ⟨hdeclarations.trans hcount, ?_, ⟨front, ?_⟩, front', hrefused.mpr (.inr ?_)⟩
  · rw [← hinner]
    exact hlargest ⟨_, ((List.prefix_append _ _).trans (List.prefix_append _ _)).trans hdone, rfl⟩
  · rw [haccepted, houter, hwide]
    rintro (⟨a, ha, hbytes⟩ | hbytes)
    · exact absurd (hroom a ha) (Nat.not_lt.mpr hbytes)
    · exact absurd hbytes (by decide)
  · rw [hinner]
    decide

end Analysis

end ThreeAddress
