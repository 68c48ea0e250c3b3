import Mathlib.Data.List.Nodup
import Mathlib.Data.List.Perm.Subperm
import ThreeAddress.Proofs.Files.WellFormed

/-!
# Replacements as a whole

Replacing a file does all of its work or nothing. If it succeeds, the target holds the new content;
if it fails at whatever step, every file is what it was and the fresh one is gone. In both cases all
that may remain besides are directories that were missing on the way to the target.

## Main definitions

* `FileSystem.Paves` : directories on the way to a place are made, and nothing else happens.
* `FileSystem.Gains` : a file comes to stand at a place, and nothing else happens.
* `Disk.AllOrNothing` : an operation that replaces a file does so as a whole.
* `Disk.CanReplace` : nothing stands in the way of replacing a file.

## Main results

* `Disk.paving_makeDirectories` : what making directories does.
* `Disk.find_freshPath` : a fresh path is free.
* `Disk.allOrNothing_replace` : a replacement does all of its work or nothing.
* `Disk.read_of_replace` : a file that was replaced can be read.
* `Disk.replace_eq_error_of_write` : the failure of a write is the failure of the replacement.
* `Disk.exists_replace_eq_ok` : a replacement with nothing in its way succeeds.
-/

namespace ThreeAddress

open ThreeAddress.Path (slash IsName IsElement IsSettled ofElements cleanElements)

/-! ### Directories on the way to a path -/

namespace Path

/-- A path of the first elements of a cleaned path. -/
def IsOnWay (dir path : Bytes) : Prop :=
  ∃ es rest, cleanElements dir = es ++ rest ∧ path = ofElements (isAbsolute dir) es

theorem isOnWay_clean (p : Bytes) : IsOnWay p (clean p) :=
  ⟨cleanElements p, [], (List.append_nil _).symm, rfl⟩

theorem above_append {front n : Bytes} (hfront : FileSystem.IsFront front) (hne : n ≠ [])
    (hslash : slash ∉ n) : Disk.above (front ++ n) = front.dropLast := by
  rw [Disk.above, trim_append front hne hslash, FileSystem.splitLast_append hfront hslash]

theorem above_ofElements_nil (rooted : Bool) : Disk.above (ofElements rooted []) = [] := by
  cases rooted <;> decide

theorem ofElements_concat (rooted : Bool) {es : List Bytes} (hes : es ≠ []) (e : Bytes) :
    ofElements rooted (es ++ [e]) = ofElements rooted es ++ slash :: e := by
  simp only [ofElements, Bytes.joinWith_concat _ hes, List.append_assoc, List.append_eq_nil_iff,
    hes, false_and, if_false]
  cases rooted <;> rfl

/-- Going up takes the last element away, unless it is the only one. -/
theorem above_ofElements_concat {rooted : Bool} {es : List Bytes} {e : Bytes} (he : IsElement e) :
    Disk.above (ofElements rooted (es ++ [e])) = if es = [] then [] else ofElements rooted es := by
  by_cases hes : es = []
  · subst hes
    have hfront : FileSystem.IsFront (if rooted then [slash] else []) := by
      cases rooted
      · exact .inl rfl
      · exact .inr ⟨[], rfl⟩
    have hpath : ofElements rooted ([] ++ [e]) = (if rooted then [slash] else []) ++ e := by
      cases rooted <;> rfl
    rw [hpath, above_append hfront he.ne_nil he.noSlash, if_pos rfl]
    cases rooted <;> rfl
  · rw [ofElements_concat rooted hes, List.append_cons,
      above_append (.inr ⟨_, rfl⟩) he.ne_nil he.noSlash, if_neg hes, List.dropLast_concat]

theorem IsOnWay.above {dir path : Bytes} (h : IsOnWay dir path) (hne : Disk.above path ≠ []) :
    IsOnWay dir (Disk.above path) := by
  obtain ⟨es, rest, hclean, rfl⟩ := h
  rcases List.eq_nil_or_concat es with rfl | ⟨es, e, rfl⟩
  · exact absurd (above_ofElements_nil _) hne
  · rw [List.concat_eq_append] at hclean hne ⊢
    have he : IsElement e := isElement_of_mem_cleanElements (by rw [hclean]; simp)
    rw [above_ofElements_concat he] at hne ⊢
    split at hne
    · exact absurd rfl hne
    · rename_i hes
      rw [if_neg hes]
      exact ⟨es, e :: rest, by rw [hclean, List.append_assoc]; rfl, rfl⟩

/-- Behind an element that does not climb no element climbs. -/
theorem IsSettled.ne_dots {rooted : Bool} {es done : List Bytes} (h : IsSettled rooted (es ++ done))
    {d : Bytes} (hd : d ∈ done) (hne : d ≠ utf8 "..") : ∀ e ∈ es, e ≠ utf8 ".." := by
  induction es with
  | nil => simp
  | cons e es ih =>
    refine List.forall_mem_cons.mpr ⟨fun he => ?_, ih h.2⟩
    exact hne ((h.1 he).2 d (List.mem_append_right _ hd))

theorem placeOf_ofElements (workDir : Place) {p : Bytes} {es : List Bytes}
    (hes : ∀ e ∈ es, IsElement e) :
    FileSystem.placeOf workDir (ofElements (isAbsolute p) es) =
      es.foldl FileSystem.follow (FileSystem.origin workDir p) := by
  rw [FileSystem.placeOf, ← foldl_follow_elements, elements_ofElements hes, FileSystem.origin,
    isAbsolute_ofElements hes]
  rfl

end Path

namespace FileSystem

variable {fs fs' fs'' : FileSystem} {dir path : Bytes} {p q : Place}

/-- What is missing on the way to a directory stands above it: the way climbs through directories
that are there, and goes down from the last of them. -/
theorem WellFormed.prefix_of_isOnWay (hfs : fs.WellFormed) (h : Path.IsOnWay dir path)
    (hnone : fs.tree.get? (placeOf fs.workDir path) = none) :
    placeOf fs.workDir path <+: placeOf fs.workDir dir := by
  obtain ⟨es, rest, hclean, rfl⟩ := h
  have helement : ∀ e ∈ es ++ rest, IsElement e := fun e he =>
    Path.isElement_of_mem_cleanElements (hclean ▸ he)
  have hes : ∀ e ∈ es, IsElement e := fun e he => helement e (List.mem_append_left _ he)
  have hdir : placeOf fs.workDir dir =
      rest.foldl follow (es.foldl follow (origin fs.workDir dir)) := by
    rw [← placeOf_clean, Path.clean, Path.placeOf_ofElements fs.workDir fun e he =>
      Path.isElement_of_mem_cleanElements he, hclean, List.foldl_append]
  rw [Path.placeOf_ofElements fs.workDir hes] at hnone ⊢
  have hdown : ∃ d ∈ es, d ≠ utf8 ".." := by
    by_contra hclimb
    push Not at hclimb
    rw [hfs.get?_climb (hfs.get?_origin dir) hclimb] at hnone
    cases hnone
  obtain ⟨d, hd, hne⟩ := hdown
  have hsettled := Path.isSettled_cleanElements dir
  rw [hclean, List.reverse_append] at hsettled
  have hrest : ∀ n ∈ rest, IsName n := fun n hn =>
    have he := helement n (List.mem_append_right _ hn)
    ⟨he.ne_nil, he.noSlash, he.ne_dot,
      hsettled.ne_dots (List.mem_reverse.mpr hd) hne n (List.mem_reverse.mpr hn)⟩
  rw [hdir, Path.foldl_follow_of_isName hrest]
  exact List.prefix_append _ _

/-- Directories that were missing on the way to a place are made, and nothing else happens. -/
structure Paves (dest : Place) (fs fs' : FileSystem) : Prop where
  /-- The working directory is the same. -/
  workDir : fs'.workDir = fs.workDir
  /-- Every place is as it was, or it is a new directory on the way. -/
  places : ∀ p, fs'.tree.get? p = fs.tree.get? p ∨
    fs.tree.get? p = none ∧ fs'.tree.get? p = some .directory ∧ p <+: dest

theorem Paves.refl (dest : Place) (fs : FileSystem) : fs.Paves dest fs :=
  ⟨rfl, fun _ => .inl rfl⟩

theorem Paves.trans {dest : Place} (h : fs.Paves dest fs') (h' : fs'.Paves dest fs'') :
    fs.Paves dest fs'' := by
  refine ⟨h'.workDir.trans h.workDir, fun p => ?_⟩
  rcases h.places p with heq | ⟨hnone, hdirectory, hfront⟩
  · rcases h'.places p with heq' | ⟨hnone, hrest⟩
    · exact .inl (heq'.trans heq)
    · exact .inr ⟨heq ▸ hnone, hrest⟩
  · rcases h'.places p with heq' | ⟨hnone', -⟩
    · exact .inr ⟨hnone, heq'.trans hdirectory, hfront⟩
    · rw [hdirectory] at hnone'
      cases hnone'

/-- From a well-formed file system it leads to one with directories on the way to a path. -/
def Paving (dir : Bytes) (fs fs' : FileSystem) : Prop :=
  fs.WellFormed → fs'.WellFormed ∧ fs.Paves (placeOf fs.workDir dir) fs'

instance (dir : Bytes) : IsPreorder FileSystem (Paving dir) where
  refl fs h := ⟨h, .refl _ fs⟩
  trans a b c hab hbc ha := by
    obtain ⟨hb, hpaves⟩ := hab ha
    obtain ⟨hc, hpaves'⟩ := hbc hb
    rw [hpaves.workDir] at hpaves'
    exact ⟨hc, hpaves.trans hpaves'⟩

/-- A file comes to stand at a place, and nothing else happens. -/
structure Gains (p : Place) (content : Bytes) (fs fs' : FileSystem) : Prop where
  /-- The working directory is the same. -/
  workDir : fs'.workDir = fs.workDir
  /-- The file is there. -/
  file : fs'.tree.get? p = some (.file content)
  /-- Every other place is as it was. -/
  others : ∀ q, q ≠ p → fs'.tree.get? q = fs.tree.get? q

theorem Gains.trans {content content' : Bytes} (h : fs.Gains p content fs')
    (h' : fs'.Gains p content' fs'') : fs.Gains p content' fs'' :=
  ⟨h'.workDir.trans h.workDir, h'.file, fun q hq => (h'.others q hq).trans (h.others q hq)⟩

/-- A file that takes no directory's place leaves all directories there. -/
theorem Gains.directories {content : Bytes} (h : fs.Gains p content fs')
    (hfree : fs.tree.get? p ≠ some .directory) (q : Place)
    (hq : fs.tree.get? q = some .directory) : fs'.tree.get? q = some .directory := by
  have hne : q ≠ p := fun heq => hfree (heq ▸ hq)
  rw [h.others q hne, hq]

theorem Gains.reach {content : Bytes} (h : fs.Gains p content fs')
    (hfree : fs.tree.get? p ≠ some .directory) (hreach : fs.reach path = .ok q) :
    fs'.reach path = .ok q :=
  reach_of_directories h.workDir (h.directories hfree) hreach

/-! ### What stands at a path -/

/-- What stands at the end of a path, if anything does. -/
def standing (fs : FileSystem) (path : Bytes) : Option Entry :=
  (fs.find path).toOption

theorem get?_of_find {e : Entry} (h : fs.find path = .ok e) :
    fs.tree.get? (placeOf fs.workDir path) = some e := by
  obtain ⟨p, hlocate, hget⟩ := exists_of_bind h
  rw [← eq_placeOf_of_locate hlocate]
  split at hget
  · rename_i heq
    rw [heq, Except.ok.inj hget]
  · cases hget

/-- What a path finds depends on what stands at its place, and a file is not found by a path that
ends with a slash. -/
theorem find_of_reach (hreach : fs.reach path = .ok p) :
    fs.find path = match fs.tree.get? p with
      | none => .error .notFound
      | some (.file content) =>
        if endsInSlash path then .error .notDirectory else .ok (.file content)
      | some .directory => .ok .directory := by
  simp only [find, locate, hreach, bind, Except.bind]
  rcases hget : fs.tree.get? p with _ | _ | _
  · simp [hget]
  · cases endsInSlash path <;> simp [hget]
  · simp [hget]

theorem find_congr (hdir : fs'.workDir = fs.workDir)
    (hall : ∀ p, fs'.tree.get? p = fs.tree.get? p) : fs'.find path = fs.find path := by
  have henter : enter fs'.tree = enter fs.tree := by
    funext p name
    rw [enter, enter, hall]
  have hreach : fs'.reach path = fs.reach path := by
    rw [reach, reach, henter, hdir]
  simp only [find, locate, hreach, hall]

theorem standing_eq_none (h : fs.tree.get? (placeOf fs.workDir path) = none) :
    fs.standing path = none := by
  rw [standing]
  cases hfind : fs.find path with
  | error c => rfl
  | ok e =>
    rw [get?_of_find hfind] at h
    cases h

/-- The place of a path with a name is that of its directory with the name behind it. -/
theorem placeOf_directory (workDir : Place) (hname : IsName (Path.splitLast path).2) :
    placeOf workDir path = placeOf workDir (Path.directory path) ++ [(Path.splitLast path).2] := by
  obtain ⟨front, name, rfl, hfront, hslash⟩ := exists_front path
  rw [splitLast_append hfront hslash] at hname ⊢
  rw [Path.directory, splitLast_append hfront hslash, placeOf_clean]
  exact placeOf_append_of_isName workDir hfront hname

/-- A path with a name finds what it found if only directories on the way have been made. Where one
is new, nothing stood below. -/
theorem Paves.standing (h : fs.Paves (placeOf fs.workDir (Path.directory path)) fs')
    (hfs : fs.WellFormed) (hname : IsName (Path.splitLast path).2) :
    fs'.standing path = fs.standing path := by
  have hplace := placeOf_directory fs.workDir hname
  have hbelow (p : Place) (hp : p <+: placeOf fs.workDir (Path.directory path)) :
      p ≠ placeOf fs.workDir path := by
    rintro rfl
    have hlength := hp.length_le
    rw [hplace, List.length_append, List.length_singleton] at hlength
    omega
  by_cases hall : ∀ p, fs'.tree.get? p = fs.tree.get? p
  · rw [FileSystem.standing, FileSystem.standing, find_congr h.workDir hall]
  · push Not at hall
    obtain ⟨p, hp⟩ := hall
    obtain ⟨hnone, -, hfront⟩ := (h.places p).resolve_left hp
    have hfree : fs.tree.get? (placeOf fs.workDir path) = none := by
      refine hfs.get?_below (by simp [hnone]) ?_ (hbelow p hfront)
      rw [hplace]
      exact hfront.trans (List.prefix_append _ _)
    have hfree' : fs'.tree.get? (placeOf fs.workDir path) = none := by
      rcases h.places (placeOf fs.workDir path) with heq | ⟨-, -, hprefix⟩
      · rw [heq, hfree]
      · exact absurd rfl (hbelow _ hprefix)
    rw [standing_eq_none hfree, standing_eq_none (h.workDir ▸ hfree')]

/-! ### Following paths -/

/-- A name leads on from a directory if it is not too long. -/
theorem enter_eq_ok_iff {t : FileTree} {name : Bytes} (hname : IsName name) :
    enter t q name = .ok p ↔
      t.get? q = some .directory ∧ name.length ≤ maxName ∧ p = q ++ [name] := by
  rw [enter, if_neg hname.ne_dot, if_neg hname.ne_dots]
  rcases t.get? q with _ | _ | _
  · simp
  · simp
  · by_cases hlong : maxName < name.length
    · simp [hlong, Nat.not_le.mpr hlong]
    · simp [hlong, Nat.not_lt.mp hlong, eq_comm]

/-- What a path leads to is decided by following its names, if its spelling can be used at all. -/
theorem reach_eq_ok_iff (hne : path ≠ []) :
    fs.reach path = .ok p ↔ 0 ∉ path ∧ path.length < pathBound ∧
      (names path).foldlM (enter fs.tree) (origin fs.workDir path) = .ok p := by
  rw [reach, if_neg hne, origin]
  by_cases hzero : 0 ∈ path
  · simp [hzero]
  · rw [if_neg (by simpa using hzero)]
    by_cases hlong : pathBound ≤ path.length
    · rw [if_pos hlong]
      simp only [Nat.not_lt.mpr hlong, false_and, and_false, reduceCtorEq]
    · rw [if_neg hlong]
      simp only [hzero, Nat.not_le.mp hlong, not_false_eq_true, true_and]

/-- A path with a name can be followed if its directory can be followed to a directory and the
spelling can be used. -/
theorem reach_append {front name : Bytes} (hfront : IsFront front) (hname : IsName name) :
    fs.reach (front ++ name) = .ok p ↔
      (0 ∉ front ++ name ∧ (front ++ name).length < pathBound ∧ name.length ≤ maxName) ∧
        ∃ q, (names front).foldlM (enter fs.tree) (origin fs.workDir front) = .ok q ∧
          fs.tree.get? q = some .directory ∧ p = q ++ [name] := by
  have hfold : (names (front ++ name)).foldlM (enter fs.tree) (origin fs.workDir front) = .ok p ↔
      ∃ q, (names front).foldlM (enter fs.tree) (origin fs.workDir front) = .ok q ∧
        enter fs.tree q name = .ok p := by
    rw [names_append hfront, names_of_isName hname, List.foldlM_append]
    cases (names front).foldlM (enter fs.tree) (origin fs.workDir front) with
    | error c => simp [bind, Except.bind]
    | ok q =>
      simp only [bind, Except.bind, List.foldlM_cons, List.foldlM_nil, Except.ok.injEq,
        exists_eq_left']
      cases enter fs.tree q name <;> rfl
  rw [reach_eq_ok_iff (by simp [hname.ne_nil]), origin_append fs.workDir hfront hname.noSlash,
    hfold]
  simp only [enter_eq_ok_iff hname]
  constructor
  · rintro ⟨hzero, hlong, q, hq, hdirectory, hmax, rfl⟩
    exact ⟨⟨hzero, hlong, hmax⟩, q, hq, hdirectory, rfl⟩
  · rintro ⟨⟨hzero, hlong, hmax⟩, q, hq, hdirectory, rfl⟩
    exact ⟨hzero, hlong, q, hq, hdirectory, hmax, rfl⟩

/-- A path that can be followed now either could be followed before, or something on it was missing,
if no directory of now was a file before. -/
theorem reach_or_notFound (hdir : fs'.workDir = fs.workDir)
    (hdirectories : ∀ p, fs'.tree.get? p = some .directory →
      fs.tree.get? p = some .directory ∨ fs.tree.get? p = none)
    (hreach : fs'.reach path = .ok p) :
    fs.reach path = .ok p ∨ fs.reach path = .error .notFound := by
  obtain ⟨hfold, hsame⟩ := reach_eq_ok hreach
  rw [hsame fs hdir.symm]
  clear hsame
  generalize origin fs'.workDir path = start at hfold ⊢
  generalize names path = ns at hfold ⊢
  induction ns generalizing start with
  | nil => exact .inl hfold
  | cons n ns ih =>
    rw [List.foldlM_cons] at hfold ⊢
    obtain ⟨q, hq, hrest⟩ := exists_of_bind hfold
    rcases hdirectories _ (enter_eq_ok hq) with hthere | hnone
    · rw [enter_of_enter hq hthere]
      exact ih q hrest
    · rw [enter, hnone]
      exact .inr rfl

/-- What a cleaned path finds elsewhere does not change when a file is put, as long as the path can
be followed afterwards: what is missing on it before is not found either. -/
theorem find_of_gains (hfs : fs.WellFormed) {dest : Place} {made : FileSystem} {content : Bytes}
    (hpaves : fs.Paves dest made) (hgains : made.Gains q content fs')
    (hclean : Path.clean path = path) (hreach : fs'.reach path = .ok p) (hne : p ≠ q)
    (hdest : ¬ p <+: dest) : fs'.find path = fs.find path := by
  have hwork : fs'.workDir = fs.workDir := hgains.workDir.trans hpaves.workDir
  have hget : fs'.tree.get? p = fs.tree.get? p := by
    rw [hgains.others p hne]
    rcases hpaves.places p with heq | ⟨-, -, hfront⟩
    · exact heq
    · exact absurd hfront hdest
  have hdirectories (r : Place) (hr : fs'.tree.get? r = some .directory) :
      fs.tree.get? r = some .directory ∨ fs.tree.get? r = none := by
    have hother : r ≠ q := by
      rintro rfl
      rw [hgains.file] at hr
      cases hr
    rw [hgains.others r hother] at hr
    rcases hpaves.places r with heq | ⟨hnone, -⟩
    · exact .inl (heq ▸ hr)
    · exact .inr hnone
  rcases reach_or_notFound hwork hdirectories hreach with hbefore | hbefore
  · rw [find_of_reach hreach, find_of_reach hbefore, hget]
  · have hnone : fs.tree.get? p = none := by
      cases hthere : fs.tree.get? p with
      | none => rfl
      | some e =>
        have hfound := hfs.reach_clean hwork (hclean.symm ▸ hreach) hthere
        rw [hclean, hbefore] at hfound
        cases hfound
    rw [find_of_reach hreach, hget, hnone, find, locate, hbefore]
    rfl

end FileSystem

namespace Disk

open FileSystem (placeOf)

variable {fs fs' fs₁ fs₂ : FileSystem} {dir stem fresh path target : Bytes}

/-! ### Making directories -/

theorem makeDirectory_eq_ok (h : (makeDirectory path).run fs = .ok () fs') :
    fs.tree.get? (placeOf fs.workDir path) = none ∧
      fs' = { fs with tree := fs.tree.put (placeOf fs.workDir path) .directory } := by
  unfold makeDirectory at h
  rw [run_get_bind] at h
  split at h
  · cases h
  · rename_i p hreach
    obtain rfl := FileSystem.eq_placeOf hreach
    split at h
    · cases h
    · rename_i hfree
      cases h
      exact ⟨hfree, rfl⟩

theorem makeDirectory_eq_error {e : FileError} (h : (makeDirectory path).run fs = .error e fs') :
    fs' = fs := by
  unfold makeDirectory at h
  rw [run_get_bind] at h
  split at h
  · cases h
    rfl
  · split at h
    · cases h
      rfl
    · cases h

/-- A directory that is made on the way to a path was missing there. -/
theorem paving_makeDirectory (hpath : Path.IsOnWay dir path) (fs : FileSystem) :
    Leads (FileSystem.Paving dir) (makeDirectory path) fs := by
  refine .ofOutcome (fun _ fs' h hfs => ?_) fun e fs' h => ?_
  · have hchanges : ChangesAt (fun _ => False) (makeDirectory path) fs :=
      changes_makeDirectory path fs
    refine ⟨(hchanges.ok h hfs).wellFormed, ?_⟩
    obtain ⟨hfree, rfl⟩ := makeDirectory_eq_ok h
    have hroot : placeOf fs.workDir path ≠ [] := fun hnil => by
      rw [hnil] at hfree
      cases hfree
    refine ⟨rfl, fun q => ?_⟩
    by_cases hq : q = placeOf fs.workDir path
    · rw [hq]
      exact .inr ⟨hfree, FileTree.get?_put_self hroot _ _, hfs.prefix_of_isOnWay hpath hfree⟩
    · exact .inl (FileTree.get?_put_ne hq _ _)
  · rw [makeDirectory_eq_error h]
    exact refl_of _ fs

/-- Making directories makes those that are missing, and does nothing else. -/
theorem paving_makeDirectories (dir : Bytes) (fs : FileSystem) :
    Leads (FileSystem.Paving dir) (makeDirectories (Path.clean dir)) fs :=
  leads_makeDirectories_of (fun _ => Path.IsOnWay.above)
    (fun _ fs hpath => paving_makeDirectory hpath fs) (Path.isOnWay_clean dir)

/-! ### Fresh files -/

theorem gains_create {content : Bytes} (h : (create path content).run fs = .ok () fs') :
    fs.Gains (placeOf fs.workDir path) content fs' := by
  obtain ⟨-, -, hplace, rfl⟩ := create_eq_ok h
  exact ⟨rfl, FileTree.get?_put_self hplace _ _, fun q hq => FileTree.get?_put_ne hq _ _⟩

/-- A fresh path is free: there are more numbered names than entries. -/
theorem find_freshPath (fs : FileSystem) (hdir : dir ≠ []) (hstem : slash ∉ stem) :
    ∃ c, fs.find (freshPath fs dir stem) = .error c := by
  have hplace (n : Nat) : placeOf fs.workDir (below dir (stem ++ decimal n)) =
      placeOf fs.workDir dir ++ [stem ++ decimal n] :=
    FileSystem.placeOf_below _ hdir (isName_append_decimal hstem n)
  have hinjective : Function.Injective fun n =>
      placeOf fs.workDir dir ++ [stem ++ decimal n] := fun m n h =>
    decimal_injective (by simpa using h)
  have hfree : ∃ n ∈ List.range (fs.tree.entries.length + 1), ∃ c,
      fs.find (below dir (stem ++ decimal n)) = .error c := by
    by_contra htaken
    push Not at htaken
    have hkeys : ((List.range (fs.tree.entries.length + 1)).map fun n =>
        placeOf fs.workDir dir ++ [stem ++ decimal n]) ⊆ fs.tree.entries.map Prod.fst := by
      intro p hp
      obtain ⟨n, hn, rfl⟩ := List.mem_map.mp hp
      cases hfind : fs.find (below dir (stem ++ decimal n)) with
      | error c => exact absurd hfind (htaken n hn c)
      | ok e =>
        have hget := FileSystem.get?_of_find hfind
        rw [hplace, FileTree.get?, if_neg (by simp)] at hget
        obtain ⟨l₁, l₂, hentries, -⟩ := List.lookup_eq_some_iff.mp hget
        rw [hentries]
        simp
    have hlength := (List.subperm_of_subset (List.nodup_range.map hinjective) hkeys).length_le
    rw [List.length_map, List.length_map, List.length_range] at hlength
    omega
  obtain ⟨n, hn, c, hc⟩ := hfree
  rw [freshPath]
  dsimp only
  generalize hfind : List.find? _ (List.range (fs.tree.entries.length + 1)) = found
  cases found with
  | none =>
    have hnone := List.find?_eq_none.mp hfind n hn
    rw [hc] at hnone
    simp at hnone
  | some k =>
    have hk := List.find?_some hfind
    rw [Option.getD_some]
    cases hfound : fs.find (below dir (stem ++ decimal k)) with
    | error c => exact ⟨c, rfl⟩
    | ok e => simp [hfound] at hk

/-- A fresh file is made where nothing stood, and nothing else happens. -/
theorem gains_createFresh (hdir : dir ≠ []) (hstem : slash ∉ stem)
    (h : (createFresh dir stem).run fs = .ok fresh fs') :
    fs.tree.get? (placeOf fs.workDir fresh) = none ∧
      fs.Gains (placeOf fs.workDir fresh) [] fs' := by
  obtain ⟨rfl, hcreate⟩ := createFresh_eq_ok h
  obtain ⟨hreach, hends, -, -⟩ := create_eq_ok hcreate
  obtain ⟨c, hfind⟩ := find_freshPath fs hdir hstem
  refine ⟨?_, gains_create hcreate⟩
  cases hget : fs.tree.get? (placeOf fs.workDir (freshPath fs dir stem)) with
  | none => rfl
  | some e =>
    rw [FileSystem.find_of_reach hreach, hget, hends] at hfind
    cases e <;> cases hfind

/-- Taking a fresh file away undoes what making and filling it did. -/
theorem get?_discard {content : Bytes}
    (hnone : fs.tree.get? (placeOf fs.workDir fresh) = none)
    (hreach : fs.reach fresh = .ok (placeOf fs.workDir fresh))
    (hends : FileSystem.endsInSlash fresh = false)
    (hgains : fs.Gains (placeOf fs.workDir fresh) content fs') :
    ((discard fresh).left fs').workDir = fs.workDir ∧
      ∀ p, ((discard fresh).left fs').tree.get? p = fs.tree.get? p := by
  have hreach' := hgains.reach (by simp [hnone]) hreach
  have hlocate : fs'.locate fresh = .ok (placeOf fs.workDir fresh) := by
    simp [FileSystem.locate, hreach', hgains.file, hends, bind, Except.bind]
  have hrun : (discard fresh).run fs' =
      .ok () { fs' with tree := fs'.tree.erase (placeOf fs.workDir fresh) } := by
    have hremove : (remove fresh).run fs' =
        .ok () { fs' with tree := fs'.tree.erase (placeOf fs.workDir fresh) } := by
      rw [remove, run_get_bind, hlocate]
      rfl
    exact run_tryCatch_of_ok hremove
  have hplace : placeOf fs.workDir fresh ≠ [] := fun hnil => by
    rw [hnil] at hnone
    cases hnone
  rw [left_of_ok hrun]
  refine ⟨hgains.workDir, fun p => ?_⟩
  by_cases hp : p = placeOf fs.workDir fresh
  · rw [hp, FileTree.get?_erase_self hplace, hnone]
  · rw [FileTree.get?_erase_ne hp, hgains.others p hp]

/-! ### Moving a fresh file -/

theorem get?_of_isDirectory (h : fs.isDirectory path = true) :
    fs.tree.get? (placeOf fs.workDir path) = some .directory := by
  unfold FileSystem.isDirectory at h
  split at h
  · rename_i hfind
    exact FileSystem.get?_of_find hfind
  · cases h

/-- Moving a fresh file over the target is all the same as writing the target. -/
theorem gains_rename {content : Bytes} (hfs' : fs'.WellFormed)
    (hnone : fs.tree.get? (placeOf fs.workDir fresh) = none)
    (hgains : fs.Gains (placeOf fs.workDir fresh) content fs')
    (h : (rename fresh target).run fs' = .ok () fs₂) :
    fs.Gains (placeOf fs.workDir target) content fs₂ ∧ fs₂.read target = .ok content := by
  obtain ⟨hreach, hfree, hmoved⟩ := rename_eq_ok h
  have hdirectory : fs'.isDirectory target = false := by
    rcases hmoved with ⟨hsame, -⟩ | ⟨-, hdirectory, -⟩
    · by_contra hdirectory
      have htarget := get?_of_isDirectory (Bool.of_not_eq_false hdirectory)
      rw [← hsame, hgains.workDir, hgains.file] at htarget
      cases htarget
    · exact hdirectory
  have htarget := get?_ne_of_isDirectory hreach hdirectory
  have hobstacle := hfree hdirectory
  rw [hgains.workDir] at hreach hmoved htarget hobstacle
  have hends : FileSystem.endsInSlash target = false := by
    rw [obstacle?, hgains.file] at hobstacle
    cases hends : FileSystem.endsInSlash target with
    | false => rfl
    | true => simp [hends] at hobstacle
  rcases hmoved with ⟨hsame, rfl⟩ | ⟨hne, -, rfl⟩
  · rw [hsame] at hgains
    exact ⟨hgains, FileSystem.read_eq_ok.mpr ⟨_, hreach, hgains.file, hends⟩⟩
  · have hsource : fs'.tree.get? (placeOf fs.workDir fresh) ≠ some .directory := by
      simp [hgains.file]
    have hplace : placeOf fs.workDir fresh ≠ [] := fun hnil => by
      rw [hnil] at hnone
      cases hnone
    have hroot : placeOf fs.workDir target ≠ [] := fun hnil => by
      rw [hnil] at htarget
      exact htarget rfl
    have hmove (q : Place) (hq : q ≠ placeOf fs.workDir target) :
        (fs'.tree.move (placeOf fs.workDir fresh) (placeOf fs.workDir target)).get? q =
          (fs'.tree.erase (placeOf fs.workDir fresh)).get? q :=
      FileTree.get?_move_file hsource (fun _ _ => hfs'.get?_below) htarget hq
    have hmoved := FileTree.get?_move_target hplace hroot hgains.file
    have hkept (q : Place) (hq : fs'.tree.get? q = some .directory) :
        (fs'.tree.move (placeOf fs.workDir fresh) (placeOf fs.workDir target)).get? q =
          some .directory := by
      have hother : q ≠ placeOf fs.workDir target := fun heq => htarget (heq ▸ hq)
      have hfresh : q ≠ placeOf fs.workDir fresh := fun heq => hsource (heq ▸ hq)
      rw [hmove q hother, FileTree.get?_erase_ne hfresh, hq]
    refine ⟨⟨rfl, hmoved, fun q hq => ?_⟩, FileSystem.read_eq_ok.mpr ⟨_,
      FileSystem.reach_of_directories hgains.workDir.symm hkept hreach, hmoved, hends⟩⟩
    rw [hmove q hq]
    by_cases hfresh : q = placeOf fs.workDir fresh
    · rw [hfresh, FileTree.get?_erase_self hplace, hnone]
    · rw [FileTree.get?_erase_ne hfresh, hgains.others q hfresh]

/-! ### Replacing a file -/

/-- Replacing a file with a content does all of its work or nothing. -/
structure AllOrNothing (x : Disk Unit) (target content : Bytes) (fs : FileSystem) : Prop where
  /-- If it succeeds, the target holds the content and nothing else has happened, but for
  directories on the way. -/
  all : ∀ fs', x.run fs = .ok () fs' → fs'.read target = .ok content ∧
    ∃ made, fs.Paves (placeOf fs.workDir (Path.directory target)) made ∧
      made.Gains (placeOf fs.workDir target) content fs'
  /-- If it fails, nothing has happened, but for directories on the way. If the target has a name,
  it is what it was. -/
  nothing : ∀ e fs', x.run fs = .error e fs' →
    fs.Paves (placeOf fs.workDir (Path.directory target)) fs' ∧
      (IsName (Path.splitLast target).2 → fs'.standing target = fs.standing target)

section Replace

variable {m : Medium} {failure : Bytes → FileCause → FileError} {pieces : List Bytes}

theorem wellFormed_createFresh (hfs : fs.WellFormed) (hdir : dir ≠ []) (hstem : slash ∉ stem)
    (h : (createFresh dir stem).run fs = .ok fresh fs') : fs'.WellFormed := by
  have hcreate : ChangesAt IsNumbered (createFresh dir stem) fs :=
    changes_createFresh hdir hstem fun _ => id
  exact (hcreate.ok h hfs).wellFormed

theorem wellFormed_create {content : Bytes} (hfs : fs.WellFormed)
    (h : (create path content).run fs = .ok () fs') : fs'.WellFormed := by
  have hcreate : ChangesAt (fun _ => True) (create path content) fs := changes_create trivial _
  exact (hcreate.ok h hfs).wellFormed

theorem gains_fillAndMove {failure : FileCause → FileError} {content : Bytes}
    (hfs' : fs'.WellFormed) (hnone : fs.tree.get? (placeOf fs.workDir fresh) = none)
    (hgains : fs.Gains (placeOf fs.workDir fresh) content fs')
    (h : (fillAndMove m failure fresh target pieces).run fs' = .ok () fs₂) :
    fs.Gains (placeOf fs.workDir target) pieces.flatten fs₂ ∧
      fs₂.read target = .ok pieces.flatten := by
  obtain ⟨_, fs₁, hwritten, h₁⟩ := bind_eq_ok h
  obtain ⟨_, _, hclosed, h₂⟩ := bind_eq_ok h₁
  cases attempt_eq_ok hclosed
  have hcreated := writePieces_eq_ok hwritten
  have hfilled := gains_create hcreated
  rw [hgains.workDir] at hfilled
  exact gains_rename (wellFormed_create hfs' hcreated) hnone (hgains.trans hfilled)
    (attempt_eq_ok h₂)

theorem attempt_eq_error {α : Type} {x : Disk α} {step : WriteStep}
    {failure : FileCause → FileError} {e : FileError}
    (h : (attempt m step failure x).run fs = .error e fs') :
    fs' = fs ∨ x.run fs = .error e fs' := by
  unfold attempt at h
  split at h
  · cases h
    exact .inl rfl
  · exact .inr h

theorem createFresh_eq_error {e : FileError}
    (h : (createFresh dir stem).run fs = .error e fs') : fs' = fs := by
  unfold createFresh at h
  rw [run_get_bind] at h
  rcases bind_eq_error h with hcreate | ⟨_, _, -, hpure⟩
  · exact create_eq_error hcreate
  · cases hpure

/-- If a replacement fails once its fresh file is there, that file is taken away again. -/
theorem get?_of_fillAndMove {content : Bytes} {failure : FileCause → FileError}
    (hnone : fs.tree.get? (placeOf fs.workDir fresh) = none)
    (hreach : fs.reach fresh = .ok (placeOf fs.workDir fresh))
    (hends : FileSystem.endsInSlash fresh = false)
    (hgains : fs.Gains (placeOf fs.workDir fresh) content fs₁) {e : FileError}
    (h : (try fillAndMove m failure fresh target pieces
      catch e => do
        discard fresh
        throw e : Disk Unit).run fs₁ = .error e fs') :
    fs'.workDir = fs.workDir ∧ ∀ p, fs'.tree.get? p = fs.tree.get? p := by
  obtain ⟨e', fs₂, hfill, hlast⟩ := tryCatch_eq_error h
  have hgains₂ : ∃ content, fs.Gains (placeOf fs.workDir fresh) content fs₂ := by
    rcases fillAndMove_eq_error hfill with rfl | hwritten
    · exact ⟨content, hgains⟩
    · have hfilled := gains_create hwritten
      rw [hgains.workDir] at hfilled
      exact ⟨_, hgains.trans hfilled⟩
  have hleft : (discard fresh).left fs₂ = fs' := by
    rcases bind_eq_error hlast with hrun | ⟨_, fs₃, hrun, hthrow⟩
    · exact left_of_error hrun
    · cases hthrow
      exact left_of_ok hrun
  obtain ⟨content₂, hgains₂⟩ := hgains₂
  exact hleft ▸ get?_discard hnone hreach hends hgains₂

/-- A replacement does all of its work or nothing. -/
theorem allOrNothing_replace (hfs : fs.WellFormed) (hstem : slash ∉ stem) :
    AllOrNothing (replace m stem failure target pieces) target pieces.flatten fs := by
  have hdir : Path.directory target ≠ [] := Path.clean_ne_nil _
  have hmake := paving_makeDirectories (Path.directory target) fs
  rw [Path.clean_directory] at hmake
  suffices hnothing : ∀ e fs', (replace m stem failure target pieces).run fs = .error e fs' →
      fs.Paves (placeOf fs.workDir (Path.directory target)) fs' by
    refine ⟨fun fs' h => ?_, fun e fs' h => ⟨hnothing e fs' h, (hnothing e fs' h).standing hfs⟩⟩
    obtain ⟨_, fs₁, hmade, h₁⟩ := bind_eq_ok h
    obtain ⟨hfs₁, hpaves⟩ := hmake.ok (attempt_eq_ok hmade) hfs
    obtain ⟨fresh, fs₂, hcreated, h₂⟩ := bind_eq_ok h₁
    have hfs₂ := wellFormed_createFresh hfs₁ hdir hstem (attempt_eq_ok hcreated)
    obtain ⟨hnone, hgains⟩ := gains_createFresh hdir hstem (attempt_eq_ok hcreated)
    rcases tryCatch_eq_ok h₂ with hfill | ⟨e', fs₃, -, hlast⟩
    · obtain ⟨hfilled, hread⟩ := gains_fillAndMove hfs₂ hnone hgains hfill
      rw [hpaves.workDir] at hfilled
      exact ⟨hread, fs₁, hpaves, hfilled⟩
    · obtain ⟨_, _, -, hthrow⟩ := bind_eq_ok hlast
      cases hthrow
  intro e fs' h
  rcases bind_eq_error h with hmade | ⟨_, fs₁, hmade, h₁⟩
  · exact ((Leads.ofAttempt hmake).error hmade hfs).2
  obtain ⟨hfs₁, hpaves⟩ := hmake.ok (attempt_eq_ok hmade) hfs
  rcases bind_eq_error h₁ with hcreated | ⟨fresh, fs₂, hcreated, h₂⟩
  · rcases attempt_eq_error hcreated with rfl | hcreated
    · exact hpaves
    · rwa [createFresh_eq_error hcreated]
  obtain ⟨hnone, hgains⟩ := gains_createFresh hdir hstem (attempt_eq_ok hcreated)
  obtain ⟨hreach, hends, -, -⟩ := create_eq_ok (createFresh_eq_ok (attempt_eq_ok hcreated)).2
  obtain ⟨hwork, hsame⟩ := get?_of_fillAndMove hnone hreach hends hgains h₂
  exact hpaves.trans ⟨hwork, fun p => .inl (hsame p)⟩

/-- A file that was replaced can be read. -/
theorem read_of_replace (hfs : fs.WellFormed) (hstem : slash ∉ stem)
    (h : (replace m stem failure target pieces).run fs = .ok () fs') :
    fs'.read target = .ok pieces.flatten :=
  ((allOrNothing_replace hfs hstem).all fs' h).1

/-- The first write that fails is the trouble. -/
theorem writeTrouble?_eq_some {count k : Nat} {c : FileCause} (hk : k < count)
    (hfail : m (.write k) = some c) (hfirst : ∀ j < k, m (.write j) = none) :
    writeTrouble? m count = some c := by
  obtain ⟨rest, rfl⟩ := Nat.exists_eq_add_of_lt hk
  have hnone : (List.range k).findSome? (fun n => m (.write n)) = none :=
    List.findSome?_eq_none_iff.mpr fun j hj => hfirst j (List.mem_range.mp hj)
  rw [writeTrouble?, Nat.add_assoc, List.range_add, List.findSome?_append, hnone, Option.none_or,
    List.findSome?_map, List.range_succ_eq_map, List.findSome?_cons]
  simp [hfail]

theorem exists_run_discard (path : Bytes) (fs : FileSystem) :
    ∃ fs', (discard path).run fs = .ok () fs' := by
  cases hrun : (remove path).run fs with
  | ok _ fs' => exact ⟨fs', run_tryCatch_of_ok hrun⟩
  | error e fs' => exact ⟨fs', run_tryCatch_of_error hrun⟩

/-- If the medium fails a write, the replacement fails as that write does. -/
theorem replace_eq_error_of_write (hmake : m .makeDirectory = none)
    (hmade : (makeDirectories (Path.directory target)).run fs = .ok () fs₁)
    (hcreate : m .createFresh = none)
    (hcreated : (createFresh (Path.directory target) stem).run fs₁ = .ok fresh fs₂)
    {k : Nat} {c : FileCause} (hk : k < pieces.length) (hfail : m (.write k) = some c)
    (hfirst : ∀ j < k, m (.write j) = none) :
    ∃ fs', (replace m stem failure target pieces).run fs = .error (failure fresh c) fs' := by
  have hattempt {α : Type} {x : Disk α} {step : WriteStep} {failure : FileCause → FileError}
      (hnone : m step = none) : attempt m step failure x = x := by
    rw [attempt, hnone]
  have hfill : (fillAndMove m (failure fresh) fresh target pieces).run fs₂ =
      .error (failure fresh c) fs₂ := by
    rw [fillAndMove, writePieces, writeTrouble?_eq_some hk hfail hfirst]
    rfl
  obtain ⟨fs', hdiscard⟩ := exists_run_discard fresh fs₂
  refine ⟨fs', ?_⟩
  rw [replace, hattempt hmake, run_bind_of_ok hmade, hattempt hcreate, run_bind_of_ok hcreated]
  exact (run_tryCatch_of_error hfill).trans (run_bind_of_ok hdiscard)

theorem attempt_sound {α : Type} (step : WriteStep) (failure : FileCause → FileError)
    (x : Disk α) : attempt .sound step failure x = x :=
  rfl

theorem exists_create_eq_ok {p : Place} (hreach : fs.reach path = .ok p)
    (hends : FileSystem.endsInSlash path = false) (hfree : fs.tree.get? p ≠ some .directory)
    (content : Bytes) : ∃ fs', (create path content).run fs = .ok () fs' := by
  rw [create, run_get_bind, hreach]
  dsimp only
  rw [if_neg (by simp [hends])]
  split
  · rename_i hdirectory
    exact absurd hdirectory hfree
  · exact ⟨_, rfl⟩

theorem exists_rename_eq_ok {source : Bytes} {p q : Place} {content : Bytes}
    (hsource : fs.reach source = .ok p) (hendsSource : FileSystem.endsInSlash source = false)
    (hfile : fs.tree.get? p = some (.file content)) (htarget : fs.reach target = .ok q)
    (hends : FileSystem.endsInSlash target = false) (hfree : fs.tree.get? q ≠ some .directory) :
    ∃ fs', (rename source target).run fs = .ok () fs' := by
  have hlocate : fs.locate source = .ok p := by
    simp [FileSystem.locate, hsource, hfile, hendsSource, bind, Except.bind]
  have hdirectory : fs.isDirectory target = false := by
    rw [FileSystem.isDirectory, FileSystem.find_of_reach htarget]
    rcases hget : fs.tree.get? q with _ | _ | _
    · rfl
    · simp [hends]
    · exact absurd hget hfree
  have hobstacle : obstacle? fs.tree p q target = none := by
    simp [obstacle?, hfile, hends]
  rw [rename, run_get_bind]
  simp only [hlocate, htarget, hdirectory, hobstacle]
  rw [if_neg (by simp)]
  split
  · exact ⟨_, rfl⟩
  · exact ⟨_, rfl⟩

/-- Nothing stands in the way of replacing a file: its directory and a fresh file in it can be made,
and then the target leads to a place where no directory stands. -/
structure CanReplace (stem target : Bytes) (fs : FileSystem) : Prop where
  /-- The directory can be made. -/
  makes : (makeDirectories (Path.directory target)).succeeds fs = true
  /-- A fresh file can be made in it. -/
  creates : (createFresh (Path.directory target) stem).succeeds
    ((makeDirectories (Path.directory target)).left fs) = true
  /-- The target can be followed. -/
  follows : ((makeDirectories (Path.directory target)).left fs).reach target =
    .ok (placeOf fs.workDir target)
  /-- It is not spelled as a directory. -/
  spelling : FileSystem.endsInSlash target = false
  /-- No directory stands in its place. -/
  free : ((makeDirectories (Path.directory target)).left fs).tree.get? (placeOf fs.workDir target) ≠
    some .directory

/-- With a sound medium a file is replaced if nothing stands in the way. -/
theorem exists_replace_eq_ok (hfs : fs.WellFormed) (hstem : slash ∉ stem)
    (h : CanReplace stem target fs) :
    ∃ fs', (replace .sound stem failure target pieces).run fs = .ok () fs' := by
  obtain ⟨hmakes, hcreates, hreach, hends, hfree⟩ := h
  obtain ⟨_, hmade⟩ := run_of_succeeds hmakes
  obtain ⟨fresh, hcreated⟩ := run_of_succeeds hcreates
  have hpaving := paving_makeDirectories (Path.directory target) fs
  rw [Path.clean_directory] at hpaving
  rw [← (hpaving hfs).2.workDir] at hreach hfree
  generalize (makeDirectories (Path.directory target)).left fs = fs₁ at *
  generalize (createFresh (Path.directory target) stem).left fs₁ = fs₂ at *
  have hdir : Path.directory target ≠ [] := Path.clean_ne_nil _
  obtain ⟨hreachFresh, hendsFresh, -, -⟩ := create_eq_ok (createFresh_eq_ok hcreated).2
  obtain ⟨hnone, hgains⟩ := gains_createFresh hdir hstem hcreated
  have hgone : fs₁.tree.get? (placeOf fs₁.workDir fresh) ≠ some .directory := by simp [hnone]
  -- the fresh file is filled
  obtain ⟨fs₃, hwritten⟩ := exists_create_eq_ok (hgains.reach hgone hreachFresh) hendsFresh
    (by simp [hgains.file]) pieces.flatten
  have hfilled : fs₁.Gains (placeOf fs₁.workDir fresh) pieces.flatten fs₃ := by
    have hsecond := gains_create hwritten
    rw [hgains.workDir] at hsecond
    exact hgains.trans hsecond
  -- and moved
  have htarget : fs₃.tree.get? (placeOf fs₁.workDir target) ≠ some .directory := by
    by_cases hsame : placeOf fs₁.workDir target = placeOf fs₁.workDir fresh
    · rw [hsame, hfilled.file]
      simp
    · rwa [hfilled.others _ hsame]
  obtain ⟨fs', hrenamed⟩ := exists_rename_eq_ok (hfilled.reach hgone hreachFresh) hendsFresh
    hfilled.file (hfilled.reach hgone hreach) hends htarget
  have hsound : writeTrouble? .sound pieces.length = none :=
    List.findSome?_eq_none_iff.mpr fun _ _ => rfl
  have hfill : (fillAndMove .sound (failure fresh) fresh target pieces).run fs₂ = .ok () fs' := by
    rw [fillAndMove, writePieces, hsound]
    exact (run_bind_of_ok hwritten).trans hrenamed
  refine ⟨fs', ?_⟩
  rw [replace, attempt_sound, run_bind_of_ok hmade, attempt_sound, run_bind_of_ok hcreated]
  exact run_tryCatch_of_ok hfill

end Replace

end Disk

end ThreeAddress
