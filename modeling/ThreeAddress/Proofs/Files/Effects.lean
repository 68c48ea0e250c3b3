import Mathlib.Order.Defs.Unbundled
import ThreeAddress.Proofs.Files.Places
import ThreeAddress.Proofs.Text.Decimal

/-!
# What file operations leave alone

An operation on a file system may add, change or take away files at the places that its paths lead
to, and nowhere else, whether it succeeds or fails half way. What matters for places that somebody
relies on is that no file turns up there and none changes.

## Main definitions

* `IsNumbered` : a place with a number at the end of its name.
* `FileSystem.Spares` : no file is added or changed at some places.
* `Disk.left`, `Disk.succeeds` : what an operation leaves behind, and whether it succeeds.
* `Disk.Leads` : an operation leads from a file system to a related one.

## Main results

* `Disk.spares_makeDirectories`, `Disk.spares_create`, `Disk.spares_rename`,
  `Disk.spares_removeAll` : what the operations spare.
* `Disk.replace_spec` : a replacement changes its target alone.
-/

namespace ThreeAddress

namespace FileTree

variable {t : FileTree}

theorem lookup_filter_key (keep : Place → Bool) (p : Place) (es : List (Place × Entry)) :
    (es.filter fun x => keep x.1).lookup p = if keep p then es.lookup p else none := by
  induction es with
  | nil => simp
  | cons x es ih =>
    obtain ⟨k, e⟩ := x
    by_cases hpk : p = k
    · subst hpk
      cases hkeep : keep p with
      | true => simp [hkeep]
      | false => simpa [hkeep] using ih
    · have hbeq : (p == k) = false := by simpa using hpk
      cases hkeep : keep k with
      | true => simp only [List.filter_cons, hkeep, if_true, List.lookup_cons, hbeq, ih]
      | false =>
        simp only [List.filter_cons, hkeep, Bool.false_eq_true, if_false, List.lookup_cons, hbeq,
          ih]

/-- Taking a place away adds no entry anywhere. -/
theorem get?_of_get?_erase {p q : Place} {content : Bytes}
    (h : (t.erase q).get? p = some (.file content)) : t.get? p = some (.file content) := by
  by_cases hp : p = []
  · simp [get?, hp] at h
  · by_cases hpq : p = q
    · subst hpq
      rw [get?_erase_self hp] at h
      cases h
    · rwa [get?_erase_ne hpq] at h

/-- Taking a place away with everything below it adds no entry anywhere. -/
theorem get?_of_get?_eraseBelow {p q : Place} {content : Bytes}
    (h : (t.eraseBelow q).get? p = some (.file content)) : t.get? p = some (.file content) := by
  by_cases hp : p = []
  · simp [get?, hp] at h
  · rw [get?, if_neg hp, eraseBelow,
      lookup_filter_key (fun k => !q.isPrefixOf k) p t.entries] at h
    split at h
    · rwa [get?, if_neg hp]
    · cases h

/-- The entries that a move brings to its target. -/
theorem lookup_moved (source target p : Place) (es : List (Place × Entry)) :
    (es.filterMap fun x => if source.isPrefixOf x.1 then
        some (target ++ x.1.drop source.length, x.2) else none).lookup (target ++ p) =
      es.lookup (source ++ p) := by
  induction es with
  | nil => rfl
  | cons x es ih =>
    obtain ⟨k, e⟩ := x
    by_cases hk : source <+: k
    · obtain ⟨rest, rfl⟩ := hk
      have hstarts : source.isPrefixOf (source ++ rest) = true := by simp
      rw [List.filterMap_cons]
      simp only [hstarts, if_true, List.drop_left, List.lookup_cons]
      by_cases hp : p = rest
      · subst hp
        simp
      · have hl : (target ++ p == target ++ rest) = false := by simpa using hp
        have hr : (source ++ p == source ++ rest) = false := by simpa using hp
        rw [hl, hr, ih]
    · have hstarts : source.isPrefixOf k = false := by
        rw [Bool.eq_false_iff, ne_eq, List.isPrefixOf_iff_prefix]
        exact hk
      have hne : (source ++ p == k) = false := by
        rw [beq_eq_false_iff_ne]
        rintro rfl
        exact hk (List.prefix_append _ _)
      rw [List.filterMap_cons]
      simp only [hstarts, Bool.false_eq_true, if_false, List.lookup_cons, hne]
      exact ih

theorem lookup_moved_of_outside {source target p : Place} (h : ¬ target <+: p)
    (es : List (Place × Entry)) :
    (es.filterMap fun x => if source.isPrefixOf x.1 then
        some (target ++ x.1.drop source.length, x.2) else none).lookup p = none := by
  rw [List.lookup_eq_none_iff]
  intro x hx
  obtain ⟨y, -, hy⟩ := List.mem_filterMap.mp hx
  split at hy
  · cases hy
    rw [bne_iff_ne]
    rintro rfl
    exact h (List.prefix_append _ _)
  · cases hy

/-- The target of a move holds what stood at its source. -/
theorem get?_move_target {source target : Place} (hsource : source ≠ []) (htarget : target ≠ [])
    {e : Entry} (h : t.get? source = some e) : (t.move source target).get? target = some e := by
  rw [get?, if_neg hsource] at h
  have hmoved := lookup_moved source target [] t.entries
  rw [List.append_nil, List.append_nil, h] at hmoved
  rw [get?, if_neg htarget, move, List.lookup_append, hmoved, Option.some_or]

/-- Places that are not below the target of a move get nothing. -/
theorem get?_of_get?_move {source target p : Place} (hp : ¬ target <+: p) {content : Bytes}
    (h : (t.move source target).get? p = some (.file content)) :
    t.get? p = some (.file content) := by
  have hne : p ≠ [] := by
    rintro rfl
    simp [get?] at h
  rw [get?, if_neg hne, move, List.lookup_append, lookup_moved_of_outside hp,
    Option.none_or] at h
  have hrest : ((t.eraseBelow source).eraseBelow target).get? p = some (.file content) := by
    rwa [get?, if_neg hne]
  exact get?_of_get?_eraseBelow (get?_of_get?_eraseBelow hrest)

end FileTree

/-! ### Numbered names -/

section Numbered

open ThreeAddress.Path (slash IsName)

/-- A place with a number at the end of its name. -/
def IsNumbered (p : Place) : Prop :=
  ∃ dir stem n, p = dir ++ [stem ++ decimal n]

theorem getLast?_append_decimal (stem : Bytes) (n : Nat) :
    ∃ b, (stem ++ decimal n).getLast? = some b ∧ 48 ≤ b.toNat ∧ b.toNat ≤ 57 := by
  refine ⟨(decimal n).getLast (decimal_ne_nil n), ?_, mem_decimal (List.getLast_mem _)⟩
  rw [List.getLast?_append, List.getLast?_eq_some_getLast (decimal_ne_nil n), Option.some_or]

theorem isName_append_decimal {stem : Bytes} (h : slash ∉ stem) (n : Nat) :
    IsName (stem ++ decimal n) := by
  obtain ⟨b, hlast, hlow, hhigh⟩ := getLast?_append_decimal stem n
  refine ⟨fun heq => ?_, fun hmem => ?_, fun heq => ?_, fun heq => ?_⟩
  · rw [heq] at hlast
    cases hlast
  · rcases List.mem_append.mp hmem with hmem | hmem
    · exact h hmem
    · exact notMem_decimal (by decide) n hmem
  · rw [heq] at hlast
    obtain rfl : 46 = b := Option.some.inj hlast
    exact absurd hlow (by decide)
  · rw [heq] at hlast
    obtain rfl : 46 = b := Option.some.inj hlast
    exact absurd hlow (by decide)

/-- A name that ends with something other than a digit is not numbered. -/
theorem not_isNumbered {name : Bytes} {b : UInt8} (hlast : name.getLast? = some b)
    (hb : 57 < b.toNat) (front : Place) : ¬ IsNumbered (front ++ [name]) := by
  rintro ⟨dir, stem, n, h⟩
  obtain ⟨b', hlast', -, hhigh⟩ := getLast?_append_decimal stem n
  have hname : name = stem ++ decimal n := by simpa using (List.append_inj' h rfl).2
  rw [hname, hlast'] at hlast
  obtain rfl := Option.some.inj hlast
  omega

theorem isNumbered_below (workDir : Place) {dir stem : Bytes} (hdir : dir ≠ [])
    (hstem : slash ∉ stem) (n : Nat) :
    IsNumbered (FileSystem.placeOf workDir (Disk.below dir (stem ++ decimal n))) :=
  ⟨_, stem, n, FileSystem.placeOf_below workDir hdir (isName_append_decimal hstem n)⟩

end Numbered

/-- The second file system has no file at the given places that the first one has not. -/
structure FileSystem.Spares (places : Place → Prop) (fs fs' : FileSystem) : Prop where
  /-- The working directory is the same. -/
  workDir : fs'.workDir = fs.workDir
  /-- The files were there before. -/
  files : ∀ p, places p → ∀ content, fs'.tree.get? p = some (.file content) →
    fs.tree.get? p = some (.file content)

namespace FileSystem.Spares

variable {places : Place → Prop} {fs fs' fs'' : FileSystem}

theorem refl : fs.Spares places fs :=
  ⟨rfl, fun _ _ _ h => h⟩

theorem mono {few : Place → Prop} (h : fs.Spares places fs') (hfew : ∀ p, few p → places p) :
    fs.Spares few fs' :=
  ⟨h.workDir, fun p hp => h.files p (hfew p hp)⟩

theorem trans (h : fs.Spares places fs') (h' : fs'.Spares places fs'') : fs.Spares places fs'' :=
  ⟨h'.workDir.trans h.workDir, fun p hp c hc => h.files p hp c (h'.files p hp c hc)⟩

instance : IsPreorder FileSystem (FileSystem.Spares places) where
  refl _ := .refl
  trans _ _ _ := .trans

end FileSystem.Spares

namespace Disk

open FileSystem (placeOf)

variable {α β : Type} {places : Place → Prop} {fs : FileSystem} {x : Disk α} {f : α → Disk β}

/-- The file system that an operation leaves behind, whether it fails or not. -/
def left (x : Disk α) (fs : FileSystem) : FileSystem :=
  match x.run fs with
  | .ok _ fs' => fs'
  | .error _ fs' => fs'

theorem left_of_ok {a : α} {fs' : FileSystem} (h : x.run fs = .ok a fs') : x.left fs = fs' := by
  rw [left, h]

theorem left_of_error {e : FileError} {fs' : FileSystem} (h : x.run fs = .error e fs') :
    x.left fs = fs' := by
  rw [left, h]

/-- Whether an operation succeeds. -/
def succeeds (x : Disk α) (fs : FileSystem) : Bool :=
  match x.run fs with
  | .ok _ _ => true
  | .error _ _ => false

theorem run_of_succeeds (h : x.succeeds fs = true) : ∃ a, x.run fs = .ok a (x.left fs) := by
  unfold succeeds at h
  unfold left
  split at h
  · exact ⟨_, by assumption⟩
  · cases h

theorem run_of_fails (h : x.succeeds fs = false) : ∃ e, x.run fs = .error e (x.left fs) := by
  unfold succeeds at h
  unfold left
  split at h
  · cases h
  · exact ⟨_, by assumption⟩

theorem bind_eq_ok {b : β} {fs'' : FileSystem} (h : (x >>= f).run fs = .ok b fs'') :
    ∃ a fs', x.run fs = .ok a fs' ∧ (f a).run fs' = .ok b fs'' := by
  change EStateM.bind x f fs = _ at h
  unfold EStateM.bind at h
  split at h
  · rename_i a fs' hrun
    exact ⟨a, fs', hrun, h⟩
  · cases h

theorem bind_eq_error {e : FileError} {fs'' : FileSystem}
    (h : (x >>= f).run fs = .error e fs'') :
    x.run fs = .error e fs'' ∨ ∃ a fs', x.run fs = .ok a fs' ∧ (f a).run fs' = .error e fs'' := by
  change EStateM.bind x f fs = _ at h
  unfold EStateM.bind at h
  split at h
  · rename_i a fs' hrun
    exact .inr ⟨a, fs', hrun, h⟩
  · rename_i e' fs' hrun
    cases h
    exact .inl hrun

theorem tryCatch_eq_ok {handler : FileError → Disk α} {a : α} {fs'' : FileSystem}
    (h : (tryCatch x handler : Disk α).run fs = .ok a fs'') :
    x.run fs = .ok a fs'' ∨
      ∃ e fs', x.run fs = .error e fs' ∧ (handler e).run fs' = .ok a fs'' := by
  change EStateM.tryCatch x handler fs = _ at h
  unfold EStateM.tryCatch at h
  dsimp only at h
  split at h
  · rename_i e fs' hrun
    exact .inr ⟨e, fs', hrun, h⟩
  · exact .inl h

theorem tryCatch_eq_error {handler : FileError → Disk α} {e : FileError} {fs'' : FileSystem}
    (h : (tryCatch x handler : Disk α).run fs = .error e fs'') :
    ∃ e' fs', x.run fs = .error e' fs' ∧ (handler e').run fs' = .error e fs'' := by
  change EStateM.tryCatch x handler fs = _ at h
  unfold EStateM.tryCatch at h
  dsimp only at h
  split at h
  · rename_i e' fs' hrun
    exact ⟨e', fs', hrun, h⟩
  · rename_i hrun
    exact absurd h (hrun e fs'')

theorem run_bind_of_ok {a : α} {fs' : FileSystem} (h : x.run fs = .ok a fs') :
    (x >>= f).run fs = (f a).run fs' := by
  change EStateM.bind x f fs = _
  have hrun : x fs = .ok a fs' := h
  unfold EStateM.bind
  rw [hrun]
  rfl

theorem run_tryCatch_of_ok {handler : FileError → Disk α} {a : α} {fs' : FileSystem}
    (h : x.run fs = .ok a fs') : (tryCatch x handler : Disk α).run fs = .ok a fs' := by
  change EStateM.tryCatch x handler fs = _
  have hrun : x fs = .ok a fs' := h
  unfold EStateM.tryCatch
  simp [hrun]

theorem run_tryCatch_of_error {handler : FileError → Disk α} {e : FileError} {fs' : FileSystem}
    (h : x.run fs = .error e fs') :
    (tryCatch x handler : Disk α).run fs = (handler e).run fs' := by
  change EStateM.tryCatch x handler fs = _
  have hrun : x fs = .error e fs' := h
  unfold EStateM.tryCatch
  simp only [hrun]
  rfl

/-- Whether it succeeds or not, an operation leads from a file system to a related one. -/
def Leads (R : FileSystem → FileSystem → Prop) (x : Disk α) (fs : FileSystem) : Prop :=
  R fs (x.left fs)

namespace Leads

variable {R : FileSystem → FileSystem → Prop}

theorem ok (h : Leads R x fs) {a : α} {fs' : FileSystem} (hrun : x.run fs = .ok a fs') : R fs fs' :=
  left_of_ok hrun ▸ h

theorem error (h : Leads R x fs) {e : FileError} {fs' : FileSystem}
    (hrun : x.run fs = .error e fs') : R fs fs' :=
  left_of_error hrun ▸ h

/-- Where an operation leads may be told for each of its outcomes. -/
theorem ofOutcome (hok : ∀ a fs', x.run fs = .ok a fs' → R fs fs')
    (herror : ∀ e fs', x.run fs = .error e fs' → R fs fs') : Leads R x fs := by
  cases hrun : x.run fs with
  | ok a fs' =>
    rw [Leads, left_of_ok hrun]
    exact hok a fs' hrun
  | error e fs' =>
    rw [Leads, left_of_error hrun]
    exact herror e fs' hrun

theorem ofGet {k : FileSystem → Disk α} (h : Leads R (k fs) fs) : Leads R (get >>= k) fs := h

theorem ofChange {change : FileTree → FileTree} (h : R fs { fs with tree := change fs.tree }) :
    Leads R (Disk.change change) fs := h

variable [IsPreorder FileSystem R]

theorem ofSame (h : x.left fs = fs) : Leads R x fs := by
  rw [Leads, h]
  exact refl_of R fs

theorem ofPure (a : α) : Leads R (pure a) fs := ofSame rfl

theorem ofThrow (e : FileError) : Leads R (throw e : Disk α) fs := ofSame rfl

theorem bind (hx : Leads R x fs)
    (hf : ∀ a fs', x.run fs = .ok a fs' → Leads R (f a) fs') : Leads R (x >>= f) fs := by
  refine .ofOutcome (fun b fs'' h => ?_) fun e fs'' h => ?_
  · obtain ⟨a, fs', hrun, hnext⟩ := bind_eq_ok h
    exact trans_of R (hx.ok hrun) ((hf a fs' hrun).ok hnext)
  · rcases bind_eq_error h with hrun | ⟨a, fs', hrun, hnext⟩
    · exact hx.error hrun
    · exact trans_of R (hx.ok hrun) ((hf a fs' hrun).error hnext)

theorem ofCatch {handler : FileError → Disk α} (hx : Leads R x fs)
    (hf : ∀ e fs', x.run fs = .error e fs' → Leads R (handler e) fs') :
    Leads R (tryCatch x handler) fs := by
  refine .ofOutcome (fun b fs'' h => ?_) fun e fs'' h => ?_
  · rcases tryCatch_eq_ok h with hrun | ⟨e, fs', hrun, hnext⟩
    · exact hx.ok hrun
    · exact trans_of R (hx.error hrun) ((hf e fs' hrun).ok hnext)
  · obtain ⟨e', fs', hrun, hnext⟩ := tryCatch_eq_error h
    exact trans_of R (hx.error hrun) ((hf e' fs' hrun).error hnext)

theorem ofAttempt {m : Medium} {step : WriteStep} {failure : FileCause → FileError}
    (hx : Leads R x fs) : Leads R (attempt m step failure x) fs := by
  unfold attempt
  split
  · exact .ofThrow _
  · exact hx

end Leads

/-- An operation adds or changes no file at the given places. -/
abbrev SparesAt (places : Place → Prop) (x : Disk α) (fs : FileSystem) : Prop :=
  Leads (FileSystem.Spares places) x fs

/-- Making a directory touches no file. -/
theorem spares_makeDirectory (path : Bytes) : SparesAt places (makeDirectory path) fs := by
  unfold makeDirectory
  refine .ofGet ?_
  split
  · exact .ofThrow _
  · rename_i p _
    split
    · exact .ofThrow _
    · rename_i hfree
      refine .ofChange ⟨rfl, fun q _ content hq => ?_⟩
      have hp : p ≠ [] := by
        rintro rfl
        simp [FileTree.get?] at hfree
      by_cases hqp : q = p
      · subst hqp
        rw [FileTree.get?_put_self hp] at hq
        cases hq
      · rwa [FileTree.get?_put_ne hqp] at hq

/-- What making one directory leads to, making all directories above it leads to as well. It is
enough to know it for paths that are kept by going up. -/
theorem leads_makeDirectories_of {R : FileSystem → FileSystem → Prop} [IsPreorder FileSystem R]
    {paths : Bytes → Prop} (habove : ∀ path, paths path → above path ≠ [] → paths (above path))
    (hone : ∀ path fs, paths path → Leads R (makeDirectory path) fs) {path : Bytes}
    (hpath : paths path) : Leads R (makeDirectories path) fs := by
  induction path using makeDirectories.induct generalizing fs with
  | case1 path ih =>
    have hlast (fs : FileSystem) : Leads R (tryCatch (makeDirectory path) fun e => do
        if !(← get).isDirectory path then throw e) fs := by
      refine .ofCatch (hone path fs hpath) fun e fs' _ => .ofGet ?_
      split
      · exact .ofThrow _
      · exact .ofPure _
    rw [makeDirectories]
    refine .ofGet ?_
    split
    · exact .ofPure _
    · exact .ofThrow _
    · extract_lets
      split
      · rename_i hne
        split
        · rename_i hshort
          exact .bind (ih hshort (habove path hpath hne)) fun _ fs' _ => hlast fs'
        · exact hlast fs
      · exact hlast fs

/-- The same for all paths. -/
theorem leads_makeDirectories {R : FileSystem → FileSystem → Prop} [IsPreorder FileSystem R]
    (hone : ∀ path fs, Leads R (makeDirectory path) fs) (path : Bytes) :
    Leads R (makeDirectories path) fs :=
  have habove (path : Bytes) (_ : True) (_ : above path ≠ []) : True := trivial
  leads_makeDirectories_of habove (fun path fs _ => hone path fs) trivial

/-- Making directories touches no file. -/
theorem spares_makeDirectories (path : Bytes) : SparesAt places (makeDirectories path) fs :=
  leads_makeDirectories (fun path _ => spares_makeDirectory path) path

/-- Writing a file touches its place alone. -/
theorem spares_create {path : Bytes} (h : ¬ places (placeOf fs.workDir path)) (content : Bytes) :
    SparesAt places (create path content) fs := by
  unfold create
  refine .ofGet ?_
  split
  · exact .ofThrow _
  · rename_i p hreach
    obtain rfl := FileSystem.eq_placeOf hreach
    split
    · exact .ofThrow _
    · split
      · exact .ofThrow _
      · refine .ofChange ⟨rfl, fun q hq content hfile => ?_⟩
        have hne : q ≠ placeOf fs.workDir path := fun heq => h (heq ▸ hq)
        rwa [FileTree.get?_put_ne hne] at hfile

/-- Taking a file away adds none. -/
theorem spares_remove (path : Bytes) : SparesAt places (remove path) fs := by
  unfold remove
  refine .ofGet ?_
  split
  · exact .ofThrow _
  · exact .ofChange ⟨rfl, fun q _ content hq => FileTree.get?_of_get?_erase hq⟩

theorem spares_discard (path : Bytes) : SparesAt places (discard path) fs :=
  .ofCatch (spares_remove path) fun _ _ _ => .ofPure _

theorem spares_removeAll (path : Bytes) : SparesAt places (removeAll path) fs := by
  unfold removeAll
  refine .ofGet ?_
  split
  · exact .ofPure _
  · exact .ofThrow _
  · exact .ofChange ⟨rfl, fun q _ content hq => FileTree.get?_of_get?_eraseBelow hq⟩

/-- Moving something touches the places below its target alone. -/
theorem spares_rename {source target : Bytes}
    (h : ∀ p, places p → ¬ placeOf fs.workDir target <+: p) :
    SparesAt places (rename source target) fs := by
  unfold rename
  refine .ofGet ?_
  dsimp only
  split
  · exact .ofThrow _
  · split
    · exact .ofThrow _
    · rename_i q hreach
      obtain rfl := FileSystem.eq_placeOf hreach
      split
      · split
        · exact .ofThrow _
        · split
          · exact .ofPure _
          · exact .ofThrow _
      · split
        · exact .ofThrow _
        · split
          · exact .ofPure _
          · refine .ofChange ⟨rfl, fun r hr content hfile => ?_⟩
            exact FileTree.get?_of_get?_move (h r hr) hfile

/-! ### Replacing a file -/

/-- A fresh file has one of the numbered names. -/
theorem exists_freshPath (fs : FileSystem) (dir stem : Bytes) :
    ∃ n, freshPath fs dir stem = below dir (stem ++ decimal n) :=
  ⟨_, rfl⟩

theorem spares_createFresh {dir stem : Bytes}
    (h : ∀ n, ¬ places (placeOf fs.workDir (below dir (stem ++ decimal n)))) :
    SparesAt places (createFresh dir stem) fs := by
  unfold createFresh
  refine .ofGet (.bind ?_ fun _ _ _ => .ofPure _)
  obtain ⟨n, hn⟩ := exists_freshPath fs dir stem
  rw [hn]
  exact spares_create (h n) []

theorem createFresh_eq_ok {dir stem fresh : Bytes} {fs' : FileSystem}
    (h : (createFresh dir stem).run fs = .ok fresh fs') :
    fresh = freshPath fs dir stem ∧ (create fresh []).run fs = .ok () fs' := by
  obtain ⟨_, _, hget, h₁⟩ := bind_eq_ok h
  cases hget
  obtain ⟨_, _, hcreate, hpure⟩ := bind_eq_ok h₁
  cases hpure
  exact ⟨rfl, hcreate⟩

theorem run_get_bind {k : FileSystem → Disk α} : (get >>= k : Disk α).run fs = (k fs).run fs := rfl

/-- A file that is created has a place that can be reached, and its path does not end in a slash. -/
theorem create_eq_ok {path content : Bytes} {fs' : FileSystem}
    (h : (create path content).run fs = .ok () fs') :
    fs.reach path = .ok (placeOf fs.workDir path) ∧ FileSystem.endsInSlash path = false ∧
      placeOf fs.workDir path ≠ [] ∧
      fs' = { fs with tree := fs.tree.put (placeOf fs.workDir path) (.file content) } := by
  unfold create at h
  rw [run_get_bind] at h
  split at h
  · cases h
  · rename_i p hreach
    obtain rfl := FileSystem.eq_placeOf hreach
    split at h
    · cases h
    · rename_i hends
      split at h
      · cases h
      · rename_i hfree
        refine ⟨hreach, Bool.eq_false_iff.mpr hends, fun hnil => hfree (by rw [hnil]; rfl), ?_⟩
        cases h
        rfl

theorem create_eq_error {path content : Bytes} {e : FileError} {fs' : FileSystem}
    (h : (create path content).run fs = .error e fs') : fs' = fs := by
  unfold create at h
  rw [run_get_bind] at h
  split at h
  · cases h
    rfl
  · split at h
    · cases h
      rfl
    · split at h
      · cases h
        rfl
      · cases h

theorem rename_eq_error {source target : Bytes} {e : FileError} {fs' : FileSystem}
    (h : (rename source target).run fs = .error e fs') : fs' = fs := by
  unfold rename at h
  rw [run_get_bind] at h
  dsimp only at h
  split at h
  · cases h
    rfl
  · split at h
    · cases h
      rfl
    · split at h
      · split at h
        · cases h
          rfl
        · split at h
          · cases h
          · cases h
            rfl
      · split at h
        · cases h
          rfl
        · split at h <;> cases h

/-- What a move has done if it succeeds, and what stood in its way if it had to do something. -/
theorem rename_eq_ok {source target : Bytes} {fs' : FileSystem}
    (h : (rename source target).run fs = .ok () fs') :
    fs.reach target = .ok (placeOf fs.workDir target) ∧
      (fs.isDirectory target = false →
        obstacle? fs.tree (placeOf fs.workDir source) (placeOf fs.workDir target) target = none) ∧
      (placeOf fs.workDir source = placeOf fs.workDir target ∧ fs' = fs ∨
        placeOf fs.workDir source ≠ placeOf fs.workDir target ∧ fs.isDirectory target = false ∧
          fs' = { fs with
            tree := fs.tree.move (placeOf fs.workDir source) (placeOf fs.workDir target) }) := by
  unfold rename at h
  rw [run_get_bind] at h
  dsimp only at h
  split at h
  · cases h
  · rename_i p hlocate
    obtain rfl := FileSystem.eq_placeOf_of_locate hlocate
    split at h
    · cases h
    · rename_i q hreach
      obtain rfl := FileSystem.eq_placeOf hreach
      split at h
      · rename_i hdirectory
        split at h
        · cases h
        · split at h
          · rename_i hsame
            cases h
            exact ⟨hreach, by simp [hdirectory], .inl ⟨hsame.1, rfl⟩⟩
          · cases h
      · rename_i hdirectory
        split at h
        · cases h
        · rename_i hfree
          refine ⟨hreach, fun _ => hfree, ?_⟩
          split at h
          · rename_i hsame
            cases h
            exact .inl ⟨hsame, rfl⟩
          · rename_i hne
            cases h
            exact .inr ⟨hne, Bool.eq_false_iff.mpr hdirectory, rfl⟩

theorem attempt_eq_ok {m : Medium} {step : WriteStep} {failure : FileCause → FileError} {a : α}
    {fs' : FileSystem} (h : (attempt m step failure x).run fs = .ok a fs') :
    x.run fs = .ok a fs' := by
  unfold attempt at h
  split at h
  · cases h
  · exact h

theorem writePieces_eq_ok {m : Medium} {failure : FileCause → FileError} {path : Bytes}
    {pieces : List Bytes} {fs' : FileSystem}
    (h : (writePieces m failure path pieces).run fs = .ok () fs') :
    (create path pieces.flatten).run fs = .ok () fs' := by
  unfold writePieces at h
  split at h
  · cases h
  · exact h

theorem spares_writePieces {m : Medium} {failure : FileCause → FileError} {path : Bytes}
    (h : ¬ places (placeOf fs.workDir path)) (pieces : List Bytes) :
    SparesAt places (writePieces m failure path pieces) fs := by
  unfold writePieces
  split
  · exact .ofThrow _
  · exact spares_create h _

section Replacing

variable {m : Medium} {target : Bytes} {pieces : List Bytes}

/-- If a fresh file is not moved it has at most been written. -/
theorem fillAndMove_eq_error {failure : FileCause → FileError} {fresh : Bytes} {e : FileError}
    {fs' : FileSystem}
    (h : (fillAndMove m failure fresh target pieces).run fs = .error e fs') :
    fs' = fs ∨ (create fresh pieces.flatten).run fs = .ok () fs' := by
  rcases bind_eq_error h with hwritten | ⟨_, fs₁, hwritten, h₁⟩
  · unfold writePieces at hwritten
    split at hwritten
    · cases hwritten
      exact .inl rfl
    · exact .inl (create_eq_error hwritten)
  · have hsame : fs' = fs₁ := by
      rcases bind_eq_error h₁ with hclosed | ⟨_, fs₂, hclosed, h₂⟩
      · unfold attempt at hclosed
        split at hclosed <;> cases hclosed
        rfl
      · obtain rfl : fs₂ = fs₁ := by
          cases attempt_eq_ok hclosed
          rfl
        unfold attempt at h₂
        split at h₂
        · cases h₂
          rfl
        · exact rename_eq_error h₂
    exact .inr (hsame ▸ writePieces_eq_ok hwritten)

/-- Filling a fresh file and moving it over the target touches nothing else if it fails. -/
theorem fillAndMove_error {failure : FileCause → FileError} {fresh : Bytes}
    (hfresh : ¬ places (placeOf fs.workDir fresh)) {e : FileError} {fs' : FileSystem}
    (h : (fillAndMove m failure fresh target pieces).run fs = .error e fs') :
    fs.Spares places fs' := by
  rcases fillAndMove_eq_error h with rfl | hwritten
  · exact .refl
  · exact (spares_create hfresh _).ok hwritten

/-- Filling a fresh file and moving it over the target changes the target alone if it succeeds. -/
theorem fillAndMove_ok {failure : FileCause → FileError} {fresh : Bytes}
    (hfresh : ¬ places (placeOf fs.workDir fresh)) (hroot : placeOf fs.workDir target ≠ [])
    (htarget : places (placeOf fs.workDir target))
    (hbelow : ∀ p, places p → placeOf fs.workDir target <+: p → p = placeOf fs.workDir target)
    {fs' : FileSystem} (h : (fillAndMove m failure fresh target pieces).run fs = .ok () fs') :
    fs.Spares (fun p => places p ∧ p ≠ placeOf fs.workDir target) fs' ∧
      fs'.tree.get? (placeOf fs.workDir target) = some (.file pieces.flatten) := by
  have hne : placeOf fs.workDir fresh ≠ placeOf fs.workDir target :=
    fun heq => hfresh (heq ▸ htarget)
  obtain ⟨_, fs₁, hwritten, h₁⟩ := bind_eq_ok h
  obtain ⟨_, fs₂, hclosed, h₂⟩ := bind_eq_ok h₁
  obtain rfl : fs₂ = fs₁ := by
    cases attempt_eq_ok hclosed
    rfl
  have hspared : fs.Spares places fs₂ := (spares_writePieces hfresh pieces).ok hwritten
  obtain ⟨-, -, hplace, rfl⟩ := create_eq_ok (writePieces_eq_ok hwritten)
  obtain ⟨-, -, ⟨hsame, -⟩ | ⟨-, -, rfl⟩⟩ := rename_eq_ok (attempt_eq_ok h₂)
  · exact absurd hsame hne
  refine ⟨⟨rfl, fun p hp content hfile => ?_⟩, ?_⟩
  · have hapart : ¬ placeOf fs.workDir target <+: p := fun hstarts => hp.2 (hbelow p hp.1 hstarts)
    exact hspared.files p hp.1 content (FileTree.get?_of_get?_move hapart hfile)
  · exact FileTree.get?_move_target hplace hroot (FileTree.get?_put_self hplace _ _)

/-- Replacing a file touches its target alone, and only if it succeeds. -/
theorem replace_spec {stem : Bytes} {failure : Bytes → FileCause → FileError}
    (hroot : placeOf fs.workDir target ≠ []) (htarget : places (placeOf fs.workDir target))
    (hbelow : ∀ p, places p → placeOf fs.workDir target <+: p → p = placeOf fs.workDir target)
    (hfresh : ∀ n,
      ¬ places (placeOf fs.workDir (below (Path.directory target) (stem ++ decimal n)))) :
    (∀ e fs', (replace m stem failure target pieces).run fs = .error e fs' →
      fs.Spares places fs') ∧
    ∀ fs', (replace m stem failure target pieces).run fs = .ok () fs' →
      fs.Spares (fun p => places p ∧ p ≠ placeOf fs.workDir target) fs' ∧
        fs'.tree.get? (placeOf fs.workDir target) = some (.file pieces.flatten) := by
  have hmake : SparesAt places (attempt m .makeDirectory
      (.single .makeDirectory (Path.directory target)) (makeDirectories (Path.directory target)))
      fs := .ofAttempt (spares_makeDirectories _)
  have hcreate {fs₁ : FileSystem} (hdir : fs₁.workDir = fs.workDir) : SparesAt places
      (attempt m .createFresh (.single .open (below (Path.directory target) stem))
        (createFresh (Path.directory target) stem)) fs₁ :=
    .ofAttempt (spares_createFresh (by rw [hdir]; exact hfresh))
  refine ⟨fun e fs' h => ?_, fun fs' h => ?_⟩
  · rcases bind_eq_error h with hmade | ⟨_, fs₁, hmade, h₁⟩
    · exact hmake.error hmade
    have hspared₁ := hmake.ok hmade
    refine hspared₁.trans ?_
    rcases bind_eq_error h₁ with hcreated | ⟨fresh, fs₂, hcreated, h₂⟩
    · exact (hcreate hspared₁.workDir).error hcreated
    have hspared₂ := (hcreate hspared₁.workDir).ok hcreated
    refine hspared₂.trans ?_
    obtain ⟨rfl, -⟩ := createFresh_eq_ok (attempt_eq_ok hcreated)
    obtain ⟨n, hn⟩ := exists_freshPath fs₁ (Path.directory target) stem
    rw [hn] at h₂
    obtain ⟨e', fs₃, hfill, hlast⟩ := tryCatch_eq_error h₂
    have hapart := hfresh n
    rw [← hspared₁.workDir, ← hspared₂.workDir] at hapart
    refine (fillAndMove_error hapart hfill).trans ?_
    exact Leads.error (.bind (spares_discard _) fun _ _ _ => .ofThrow _) hlast
  · obtain ⟨_, fs₁, hmade, h₁⟩ := bind_eq_ok h
    have hspared₁ := hmake.ok hmade
    obtain ⟨fresh, fs₂, hcreated, h₂⟩ := bind_eq_ok h₁
    have hspared₂ := hspared₁.trans ((hcreate hspared₁.workDir).ok hcreated)
    obtain ⟨rfl, -⟩ := createFresh_eq_ok (attempt_eq_ok hcreated)
    obtain ⟨n, hn⟩ := exists_freshPath fs₁ (Path.directory target) stem
    rw [hn] at h₂
    rcases tryCatch_eq_ok h₂ with hfill | ⟨e', fs₃, -, hlast⟩
    · have hapart := hfresh n
      rw [← hspared₂.workDir] at hapart hroot htarget hbelow ⊢
      obtain ⟨hspared, hfile⟩ := fillAndMove_ok hapart hroot htarget hbelow hfill
      exact ⟨(hspared₂.mono fun p hp => hp.1).trans hspared, hfile⟩
    · obtain ⟨_, _, -, hthrow⟩ := bind_eq_ok hlast
      cases hthrow

end Replacing

end Disk

end ThreeAddress
