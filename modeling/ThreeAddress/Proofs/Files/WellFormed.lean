import Mathlib.Data.List.Induction
import ThreeAddress.Proofs.Files.Effects
import ThreeAddress.Proofs.Files.Relative

/-!
# Well-formed file systems

In a well-formed file system everything stands in a directory. Replacing a file keeps that, and it
keeps all directories and all files but its target and fresh ones, which have a number at the end of
their names. So what can be read elsewhere stays what it was, and nothing new turns up there.

## Main definitions

* `FileSystem.WellFormed` : everything stands in a directory.
* `FileSystem.Changes` : files at some places change, but nothing else goes or turns up.

## Main results

* `Disk.changes_replace` : what replacing a file does.
* `FileSystem.Changes.read`, `FileSystem.Changes.read_clean` : what can be read elsewhere.
-/

namespace ThreeAddress

open ThreeAddress.Path (slash IsName IsElement IsSettled)

/-- Everything stands in a directory, and the working directory is one. -/
structure FileSystem.WellFormed (fs : FileSystem) : Prop where
  /-- Above everything there is a directory. -/
  above : ∀ p e, fs.tree.get? p = some e → fs.tree.get? p.dropLast = some .directory
  /-- The working directory is there. -/
  workDir : fs.tree.get? fs.workDir = some .directory

namespace FileSystem

variable {places : Place → Prop} {fs fs' fs'' : FileSystem} {path : Bytes} {p q : Place}

/-- All places on the way to something are directories. -/
theorem WellFormed.get?_above (h : fs.WellFormed) {e : Entry} (hq : fs.tree.get? q = some e)
    (hfront : p <+: q) (hne : p ≠ q) : fs.tree.get? p = some .directory := by
  obtain ⟨r, rfl⟩ := hfront
  induction r using List.reverseRecOn generalizing e with
  | nil => exact absurd (List.append_nil p).symm hne
  | append_singleton r n ih =>
    have habove := h.above _ _ hq
    rw [← List.append_assoc, List.dropLast_concat] at habove
    by_cases hr : r = []
    · rwa [hr, List.append_nil] at habove
    · exact ih habove fun heq => hr (List.append_right_eq_self.mp heq.symm)

/-- Nothing stands below a place that is no directory. -/
theorem WellFormed.get?_below (h : fs.WellFormed) (hp : fs.tree.get? p ≠ some .directory)
    (hfront : p <+: q) (hne : p ≠ q) : fs.tree.get? q = none := by
  cases hq : fs.tree.get? q with
  | none => rfl
  | some e => exact absurd (h.get?_above hq hfront hne) hp

theorem wellFormed_empty : ({} : FileSystem).WellFormed := by
  refine ⟨fun p e hp => ?_, rfl⟩
  cases p with
  | nil => rfl
  | cons n p => cases hp

/-! ### Changes -/

/-- The second file system is well-formed. It has all directories of the first one and, apart from
some places, the same files. -/
structure Changes (places : Place → Prop) (fs fs' : FileSystem) : Prop where
  /-- Everything stands in a directory. -/
  wellFormed : fs'.WellFormed
  /-- The working directory is the same. -/
  workDir : fs'.workDir = fs.workDir
  /-- No directory is gone. -/
  directories : ∀ p, fs.tree.get? p = some .directory → fs'.tree.get? p = some .directory
  /-- Elsewhere the files are the same. -/
  files : ∀ p, ¬ places p → ∀ content,
    fs'.tree.get? p = some (.file content) ↔ fs.tree.get? p = some (.file content)

namespace Changes

theorem refl (h : fs.WellFormed) : fs.Changes places fs :=
  ⟨h, rfl, fun _ hp => hp, fun _ _ _ => .rfl⟩

theorem trans (h : fs.Changes places fs') (h' : fs'.Changes places fs'') :
    fs.Changes places fs'' where
  wellFormed := h'.wellFormed
  workDir := h'.workDir.trans h.workDir
  directories p hp := h'.directories p (h.directories p hp)
  files p hp c := (h'.files p hp c).trans (h.files p hp c)

theorem mono {many : Place → Prop} (h : fs.Changes places fs') (hmany : ∀ p, places p → many p) :
    fs.Changes many fs' where
  wellFormed := h.wellFormed
  workDir := h.workDir
  directories := h.directories
  files p hp := h.files p fun hfew => hp (hmany p hfew)

/-- Something comes, changes or goes at a single place that is no directory. -/
theorem ofSingle (h : fs.WellFormed) {t : FileTree} (hp : fs.tree.get? p ≠ some .directory)
    (habove : fs.tree.get? p.dropLast = some .directory)
    (helse : ∀ q, q ≠ p → t.get? q = fs.tree.get? q)
    (hplace : places p ∨ fs.tree.get? p = none ∧ t.get? p = some .directory) :
    fs.Changes places { fs with tree := t } := by
  have hdirectories (q : Place) (hq : fs.tree.get? q = some .directory) :
      t.get? q = some .directory := by
    rw [helse q fun heq => hp (heq ▸ hq), hq]
  refine ⟨⟨fun q e hq => ?_, hdirectories _ h.workDir⟩, rfl, hdirectories, fun q hq c => ?_⟩
  · by_cases hqp : q = p
    · subst hqp
      exact hdirectories _ habove
    · exact hdirectories _ (h.above q e (helse q hqp ▸ hq))
  · by_cases hqp : q = p
    · subst hqp
      obtain hplace | ⟨hnone, hdirectory⟩ := hplace
      · exact absurd hplace hq
      · simp [hnone, hdirectory]
    · simp only [helse q hqp]

end Changes

/-! ### Following paths -/

theorem exists_of_bind {α β : Type} {x : Except FileCause α} {f : α → Except FileCause β} {b : β}
    (h : x >>= f = .ok b) : ∃ a, x = .ok a ∧ f a = .ok b := by
  cases x with
  | error c => cases h
  | ok a => exact ⟨a, rfl, h⟩

theorem enter_eq_ok {t : FileTree} {name : Bytes} (h : enter t p name = .ok q) :
    t.get? p = some .directory := by
  unfold enter at h
  split at h
  · cases h
  · cases h
  · assumption

/-- A name leads on from a directory in every tree where it is one. -/
theorem enter_of_enter {t t' : FileTree} {name : Bytes} (h : enter t p name = .ok q)
    (hp : t'.get? p = some .directory) : enter t' p name = .ok q := by
  have hp' := enter_eq_ok h
  unfold enter at h ⊢
  rw [hp'] at h
  rw [hp]
  exact h

theorem WellFormed.get?_origin (h : fs.WellFormed) (path : Bytes) :
    fs.tree.get? (origin fs.workDir path) = some .directory := by
  unfold origin
  split
  · rfl
  · exact h.workDir

/-- A path leads to a place in a directory. -/
theorem WellFormed.above_of_reach (h : fs.WellFormed) (hreach : fs.reach path = .ok p) :
    fs.tree.get? p.dropLast = some .directory := by
  have hfold {ns : List Bytes} {start : Place}
      (hstart : fs.tree.get? start.dropLast = some .directory)
      (hns : ns.foldlM (enter fs.tree) start = .ok p) :
      fs.tree.get? p.dropLast = some .directory := by
    induction ns generalizing start with
    | nil =>
      cases hns
      exact hstart
    | cons n ns ih =>
      rw [List.foldlM_cons] at hns
      obtain ⟨q, hq, hrest⟩ := exists_of_bind hns
      refine ih ?_ hrest
      have hdirectory := enter_eq_ok hq
      rw [eq_follow_of_enter hq, follow]
      split
      · exact hstart
      · split
        · exact h.above _ _ hstart
        · rwa [List.dropLast_concat]
  unfold reach at hreach
  split at hreach
  · cases hreach
  · split at hreach
    · cases hreach
    · split at hreach
      · cases hreach
      · exact hfold (h.above _ _ (h.get?_origin path)) hreach

/-- What a path leads to is decided by following its names, apart from its spelling. -/
theorem reach_eq_ok (h : fs.reach path = .ok p) :
    (names path).foldlM (enter fs.tree) (origin fs.workDir path) = .ok p ∧
      ∀ fs' : FileSystem, fs'.workDir = fs.workDir →
        fs'.reach path = (names path).foldlM (enter fs'.tree) (origin fs.workDir path) := by
  unfold reach at h
  split at h
  · cases h
  · rename_i hzero
    split at h
    · cases h
    · rename_i hnil
      split at h
      · cases h
      · rename_i hlong
        refine ⟨h, fun fs' hdir => ?_⟩
        rw [reach, if_neg hzero, if_neg hnil, if_neg hlong, hdir]
        rfl

/-- A path that can be followed can be followed wherever no directory is gone. -/
theorem reach_of_directories (hdir : fs'.workDir = fs.workDir)
    (hdirectories : ∀ p, fs.tree.get? p = some .directory → fs'.tree.get? p = some .directory)
    (hreach : fs.reach path = .ok p) : fs'.reach path = .ok p := by
  obtain ⟨hfold, hsame⟩ := reach_eq_ok hreach
  rw [hsame fs' hdir]
  clear hsame
  generalize origin fs.workDir path = start at hfold ⊢
  generalize names path = ns at hfold ⊢
  induction ns generalizing start with
  | nil => exact hfold
  | cons n ns ih =>
    rw [List.foldlM_cons] at hfold ⊢
    obtain ⟨q, hq, hrest⟩ := exists_of_bind hfold
    rw [enter_of_enter hq (hdirectories _ (enter_eq_ok hq))]
    exact ih q hrest

theorem Changes.reach (h : fs.Changes places fs') (hreach : fs.reach path = .ok p) :
    fs'.reach path = .ok p :=
  reach_of_directories h.workDir h.directories hreach

/-- Climbing from a directory leads to directories. -/
theorem WellFormed.get?_climb (h : fs.WellFormed) {start : Place}
    (hstart : fs.tree.get? start = some .directory) {ns : List Bytes}
    (hns : ∀ n ∈ ns, n = utf8 "..") :
    fs.tree.get? (ns.foldl follow start) = some .directory := by
  induction ns generalizing start with
  | nil => exact hstart
  | cons n ns ih =>
    obtain ⟨rfl, hrest⟩ := List.forall_mem_cons.mp hns
    rw [List.foldl_cons, follow, if_neg (by decide), if_pos rfl]
    exact ih (h.above _ _ hstart) hrest

/-- Settled names climb from the start first, so all that is passed on the way to something is a
directory. -/
theorem WellFormed.foldlM_enter (h : fs.WellFormed) {t : FileTree} {start : Place}
    (hstart : fs.tree.get? start = some .directory) {rooted : Bool} {done : List Bytes}
    (hdone : ∀ e ∈ done, IsElement e) (hsettled : IsSettled rooted done)
    (hreach : done.reverse.foldlM (enter t) start = .ok p) {e : Entry}
    (hp : fs.tree.get? p = some e) : done.reverse.foldlM (enter fs.tree) start = .ok p := by
  induction done generalizing p e with
  | nil => exact hreach
  | cons n done ih =>
    obtain ⟨hn, hdone⟩ := List.forall_mem_cons.mp hdone
    rw [List.reverse_cons, List.foldlM_append] at hreach ⊢
    obtain ⟨q, hq, hlast⟩ := exists_of_bind hreach
    obtain ⟨q', hn', hpure⟩ := exists_of_bind hlast
    obtain rfl := Except.ok.inj hpure
    have hdirectory : fs.tree.get? q = some .directory := by
      by_cases hdots : n = utf8 ".."
      · rw [eq_foldl_of_foldlM hq]
        exact h.get?_climb hstart fun d hd => (hsettled.1 hdots).2 d (List.mem_reverse.mp hd)
      · have hplace := eq_follow_of_enter hn'
        rw [follow, if_neg hn.ne_dot, if_neg hdots] at hplace
        rw [hplace] at hp
        simpa using h.above _ _ hp
    rw [ih hdone hsettled.2 hq hdirectory]
    exact congrArg (· >>= pure) (enter_of_enter hn' hdirectory)

/-- A cleaned path to something can be followed if it can be followed in any tree. -/
theorem WellFormed.reach_clean (h : fs.WellFormed) (hdir : fs'.workDir = fs.workDir)
    (hreach : fs'.reach (Path.clean path) = .ok p) {e : Entry} (hp : fs.tree.get? p = some e) :
    fs.reach (Path.clean path) = .ok p := by
  obtain ⟨hfold, hsame⟩ := reach_eq_ok hreach
  rw [hsame fs hdir.symm]
  rw [hdir] at hfold ⊢
  have hstart := h.get?_origin (Path.clean path)
  obtain hnames | ⟨hdot, -⟩ := names_clean path
  · rw [hnames, ← List.reverse_reverse (Path.cleanElements path)] at hfold ⊢
    refine h.foldlM_enter hstart (fun e he => ?_) (Path.isSettled_cleanElements path) hfold hp
    exact Path.isElement_of_mem_cleanElements (List.mem_reverse.mp he)
  · have hname : names (Path.clean path) = [utf8 "."] := by
      rw [hdot]
      decide
    rw [hname] at hfold ⊢
    obtain ⟨q, hq, hpure⟩ := exists_of_bind hfold
    rw [List.foldlM_cons, enter_of_enter hq hstart]
    exact hpure

/-! ### Reading -/

theorem read_eq_ok {content : Bytes} : fs.read path = .ok content ↔
    ∃ p, fs.reach path = .ok p ∧ fs.tree.get? p = some (.file content) ∧
      endsInSlash path = false := by
  unfold read find locate
  cases fs.reach path with
  | error c => simp [bind, Except.bind]
  | ok p =>
    simp only [bind, Except.bind, Except.ok.injEq, exists_eq_left']
    rcases hget : fs.tree.get? p with _ | ⟨c⟩ | _
    · simp [hget]
    · cases endsInSlash path <;> simp [hget]
    · simp [hget]

/-- A file elsewhere is read as before. -/
theorem Changes.read (h : fs.Changes places fs') (hplace : ¬ places (placeOf fs.workDir path))
    {content : Bytes} (hread : fs.read path = .ok content) : fs'.read path = .ok content := by
  obtain ⟨p, hreach, hget, hends⟩ := read_eq_ok.mp hread
  rw [← eq_placeOf hreach] at hplace
  exact read_eq_ok.mpr ⟨p, h.reach hreach, (h.files p hplace content).mpr hget, hends⟩

/-- Elsewhere nothing new can be read either, if the path is a cleaned one. -/
theorem Changes.read_clean (h : fs.Changes places fs') (hfs : fs.WellFormed)
    (hplace : ¬ places (placeOf fs.workDir (Path.clean path))) {content : Bytes} :
    fs'.read (Path.clean path) = .ok content ↔ fs.read (Path.clean path) = .ok content := by
  refine ⟨fun hread => ?_, h.read hplace⟩
  obtain ⟨p, hreach, hget, hends⟩ := read_eq_ok.mp hread
  have hp := eq_placeOf hreach
  rw [h.workDir] at hp
  rw [← hp] at hplace
  have hget := (h.files p hplace content).mp hget
  exact read_eq_ok.mpr ⟨p, hfs.reach_clean h.workDir hreach hget, hget, hends⟩

/-- From a well-formed file system it leads to one with the same files elsewhere. -/
def Alters (places : Place → Prop) (fs fs' : FileSystem) : Prop :=
  fs.WellFormed → fs.Changes places fs'

instance : IsPreorder FileSystem (Alters places) where
  refl _ h := .refl h
  trans _ _ _ h h' hfs := (h hfs).trans (h' (h hfs).wellFormed)

end FileSystem

/-! ### Moving a file -/

namespace FileTree

variable {t : FileTree} {source target p : Place}

theorem get?_eraseBelow (hp : p ≠ []) (q : Place) :
    (t.eraseBelow q).get? p = if q.isPrefixOf p then none else t.get? p := by
  rw [get?, if_neg hp, get?, if_neg hp, eraseBelow,
    lookup_filter_key (fun k => !q.isPrefixOf k) p t.entries]
  cases q.isPrefixOf p <;> rfl

/-- A file is moved without anything below it. -/
theorem get?_move_file (hsource : t.get? source ≠ some .directory)
    (habove : ∀ p q, t.get? p ≠ some .directory → p <+: q → p ≠ q → t.get? q = none)
    (htarget : t.get? target ≠ some .directory) (hp : p ≠ target) :
    (t.move source target).get? p = (t.erase source).get? p := by
  by_cases hnil : p = []
  · simp [get?, hnil]
  · have hrest : ((t.eraseBelow source).eraseBelow target).get? p = (t.erase source).get? p := by
      rw [get?_eraseBelow hnil, get?_eraseBelow hnil]
      by_cases hps : p = source
      · subst hps
        simp [get?_erase_self hnil]
      · rw [get?_erase_ne hps]
        split
        · rename_i hbelow
          exact (habove _ _ htarget (List.isPrefixOf_iff_prefix.mp hbelow) (Ne.symm hp)).symm
        · split
          · rename_i hbelow
            exact (habove _ _ hsource (List.isPrefixOf_iff_prefix.mp hbelow) (Ne.symm hps)).symm
          · rfl
    rw [get?, if_neg hnil] at hrest
    rw [get?, if_neg hnil, move, List.lookup_append, hrest]
    by_cases hbelow : target <+: p
    · obtain ⟨r, rfl⟩ := hbelow
      have hr : r ≠ [] := fun heq => hp (by rw [heq, List.append_nil])
      have hnone := habove _ (source ++ r) hsource (List.prefix_append _ _)
        fun heq => hr (List.append_right_eq_self.mp heq.symm)
      rw [get?, if_neg (by simp [hr])] at hnone
      rw [lookup_moved, hnone, Option.none_or]
    · rw [lookup_moved_of_outside hbelow, Option.none_or]

end FileTree

namespace Disk

open FileSystem (placeOf)

variable {α β : Type} {places : Place → Prop} {fs fs' : FileSystem} {path : Bytes}

/-- In a well-formed file system an operation changes files at the given places alone. -/
abbrev ChangesAt (places : Place → Prop) (x : Disk α) (fs : FileSystem) : Prop :=
  Leads (FileSystem.Alters places) x fs

theorem changes_makeDirectory (path : Bytes) (fs : FileSystem) :
    ChangesAt places (makeDirectory path) fs := by
  unfold makeDirectory
  refine .ofGet ?_
  split
  · exact .ofThrow _
  · rename_i p hreach
    split
    · exact .ofThrow _
    · rename_i hfree
      refine .ofChange fun hfs => ?_
      have hp : p ≠ [] := by
        rintro rfl
        cases hfree
      refine .ofSingle hfs (by simp [hfree]) (hfs.above_of_reach hreach)
        (fun q hq => FileTree.get?_put_ne hq _ _) (.inr ⟨hfree, FileTree.get?_put_self hp _ _⟩)

theorem changes_create (h : places (placeOf fs.workDir path)) (content : Bytes) :
    ChangesAt places (create path content) fs := by
  unfold create
  refine .ofGet ?_
  split
  · exact .ofThrow _
  · rename_i p hreach
    obtain rfl := FileSystem.eq_placeOf hreach
    split
    · exact .ofThrow _
    · split
      · exact .ofThrow _
      · rename_i hfree
        refine .ofChange fun hfs => ?_
        exact .ofSingle hfs hfree (hfs.above_of_reach hreach)
          (fun q hq => FileTree.get?_put_ne hq _ _) (.inl h)

theorem changes_discard (h : places (placeOf fs.workDir path))
    (hfile : fs.tree.get? (placeOf fs.workDir path) ≠ some .directory) :
    ChangesAt places (discard path) fs := by
  refine .ofCatch ?_ fun _ _ _ => .ofPure _
  unfold remove
  refine .ofGet ?_
  split
  · exact .ofThrow _
  · rename_i p hlocate
    obtain rfl := FileSystem.eq_placeOf_of_locate hlocate
    refine .ofChange fun hfs => ?_
    exact .ofSingle hfs hfile (hfs.above_of_reach (FileSystem.reach_of_locate hlocate))
      (fun q hq => FileTree.get?_erase_ne hq _) (.inl h)

theorem get?_ne_of_isDirectory {p : Place} (hreach : fs.reach path = .ok p)
    (h : fs.isDirectory path = false) : fs.tree.get? p ≠ some .directory := by
  intro hget
  have hfind : fs.find path = .ok .directory := by
    simp only [FileSystem.find, FileSystem.locate, hreach, bind, Except.bind, hget]
  simp [FileSystem.isDirectory, hfind] at h

theorem changes_rename {source target : Bytes} (hsource : places (placeOf fs.workDir source))
    (htarget : places (placeOf fs.workDir target)) {content : Bytes}
    (hfile : fs.tree.get? (placeOf fs.workDir source) = some (.file content)) :
    ChangesAt places (rename source target) fs := by
  have hsourceFree : fs.tree.get? (placeOf fs.workDir source) ≠ some .directory := by simp [hfile]
  refine .ofOutcome (fun _ fs' h => ?_) fun e fs' h => ?_
  · obtain ⟨hreach, -, ⟨-, rfl⟩ | ⟨hne, hdirectory, rfl⟩⟩ := rename_eq_ok h
    · exact refl_of _ fs'
    · intro hfs
      have hfree := get?_ne_of_isDirectory hreach hdirectory
      -- the file goes from its old place and turns up at the new one
      have hgone : fs.Changes places
          { fs with tree := fs.tree.erase (placeOf fs.workDir source) } :=
        .ofSingle hfs hsourceFree (hfs.above _ _ hfile) (fun q hq => FileTree.get?_erase_ne hq _)
          (.inl hsource)
      refine hgone.trans (.ofSingle hgone.wellFormed ?_ ?_ (fun q hq => ?_) (.inl htarget))
      · rwa [FileTree.get?_erase_ne hne.symm]
      · exact hgone.directories _ (hfs.above_of_reach hreach)
      · exact FileTree.get?_move_file hsourceFree (fun _ _ => hfs.get?_below) hfree hq
  · rw [rename_eq_error h]
    exact refl_of _ fs

/-! ### Replacing a file -/

section Replacing

variable {m : Medium} {failure : FileCause → FileError} {fresh target : Bytes}
  {pieces : List Bytes}

theorem file_of_create {content : Bytes} (h : (create path content).run fs = .ok () fs') :
    fs'.workDir = fs.workDir ∧
      fs'.tree.get? (placeOf fs.workDir path) = some (.file content) := by
  obtain ⟨-, -, hplace, rfl⟩ := create_eq_ok h
  exact ⟨rfl, FileTree.get?_put_self hplace _ _⟩

theorem changes_fillAndMove (hfresh : places (placeOf fs.workDir fresh))
    (htarget : places (placeOf fs.workDir target)) :
    ChangesAt places (fillAndMove m failure fresh target pieces) fs := by
  have hwrite : ChangesAt places (writePieces m failure fresh pieces) fs := by
    unfold writePieces
    split
    · exact .ofThrow _
    · exact changes_create hfresh _
  refine .bind hwrite fun _ fs₁ hwritten => .bind (.ofAttempt (.ofPure _)) fun _ fs₂ hclosed => ?_
  obtain rfl : fs₂ = fs₁ := by
    cases attempt_eq_ok hclosed
    rfl
  obtain ⟨hdir, hfile⟩ := file_of_create (writePieces_eq_ok hwritten)
  rw [← hdir] at hfresh htarget hfile
  exact .ofAttempt (changes_rename hfresh htarget hfile)

/-- If a fresh file is not moved it is still there. -/
theorem file_of_fillAndMove {content : Bytes}
    (hfile : fs.tree.get? (placeOf fs.workDir fresh) = some (.file content)) {e : FileError}
    (h : (fillAndMove m failure fresh target pieces).run fs = .error e fs') :
    fs'.workDir = fs.workDir ∧
      ∃ content, fs'.tree.get? (placeOf fs.workDir fresh) = some (.file content) := by
  rcases fillAndMove_eq_error h with rfl | hwritten
  · exact ⟨rfl, content, hfile⟩
  · obtain ⟨hdir, hwritten⟩ := file_of_create hwritten
    exact ⟨hdir, _, hwritten⟩

theorem changes_createFresh {dir stem : Bytes} (hdir : dir ≠ []) (hstem : slash ∉ stem)
    (hplaces : ∀ p, IsNumbered p → places p) : ChangesAt places (createFresh dir stem) fs := by
  obtain ⟨n, hn⟩ := exists_freshPath fs dir stem
  refine .ofGet (.bind (changes_create (hplaces _ ?_) _) fun _ _ _ => .ofPure _)
  rw [hn]
  exact isNumbered_below _ hdir hstem n

theorem file_of_createFresh {dir stem : Bytes} (hdir : dir ≠ []) (hstem : slash ∉ stem)
    (h : (createFresh dir stem).run fs = .ok fresh fs') :
    fs'.workDir = fs.workDir ∧ IsNumbered (placeOf fs.workDir fresh) ∧
      fs'.tree.get? (placeOf fs.workDir fresh) = some (.file []) := by
  obtain ⟨rfl, hcreate⟩ := createFresh_eq_ok h
  obtain ⟨hwork, hfile⟩ := file_of_create hcreate
  obtain ⟨n, hn⟩ := exists_freshPath fs dir stem
  exact ⟨hwork, hn ▸ isNumbered_below _ hdir hstem n, hfile⟩

section Replace

variable {stem : Bytes} {failure : Bytes → FileCause → FileError}

/-- The fresh file and the target are all that replacing a file changes. -/
theorem changes_replace (hfs : fs.WellFormed) (hstem : slash ∉ stem) :
    fs.Changes (fun p => p = placeOf fs.workDir target ∨ IsNumbered p)
      ((replace m stem failure target pieces).left fs) := by
  suffices h : ChangesAt (fun p => p = placeOf fs.workDir target ∨ IsNumbered p)
      (replace m stem failure target pieces) fs from h hfs
  have hdir : Path.directory target ≠ [] := Path.clean_ne_nil _
  have hmake : ChangesAt (fun p => p = placeOf fs.workDir target ∨ IsNumbered p)
      (makeDirectories (Path.directory target)) fs :=
    leads_makeDirectories changes_makeDirectory _
  refine .bind (.ofAttempt hmake) fun _ fs₁ hmade => ?_
  have hwork₁ := (hmake.ok (attempt_eq_ok hmade) hfs).workDir
  have hcreate : ChangesAt (fun p => p = placeOf fs.workDir target ∨ IsNumbered p)
      (createFresh (Path.directory target) stem) fs₁ :=
    changes_createFresh hdir hstem fun _ => .inr
  refine .bind (.ofAttempt hcreate) fun fresh fs₂ hcreated => ?_
  obtain ⟨hwork₂, hnumbered, hfile⟩ := file_of_createFresh hdir hstem (attempt_eq_ok hcreated)
  rw [hwork₁] at hwork₂
  rw [hwork₁, ← hwork₂] at hnumbered hfile
  rw [← hwork₂]
  refine .ofCatch (changes_fillAndMove (.inr hnumbered) (.inl rfl)) fun e fs₃ hfill => ?_
  obtain ⟨hwork₃, content, hfile₃⟩ := file_of_fillAndMove hfile hfill
  rw [← hwork₃] at hnumbered hfile₃
  exact .bind (changes_discard (.inr hnumbered) (by simp [hfile₃])) fun _ _ _ => .ofThrow _

end Replace

end Replacing

end Disk

end ThreeAddress
