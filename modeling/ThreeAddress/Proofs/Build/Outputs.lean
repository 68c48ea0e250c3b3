import ThreeAddress.Build.Sources
import ThreeAddress.Proofs.Files.Relative

/-!
# Where the code of sources is written

The code of a source is written below the output directory, at the place that the source has below
the base directory. A source whose place starts with a name like `..x` is taken for one outside the
base directory, since the way to it starts with two dots; its code is written directly below the
output directory, where the code of another source may be written as well.

## Main definitions

* `FileTree.IsTree` : entries have names, and nothing stands below a file.
* `LiesIn` : a path leads below a directory.
* `landing` : the place that the code of a source is written for.

## Main results

* `outputPath_eq_iff` : code is written below the output directory, and that of two sources to one
  path if and only if both land at one place.
-/

namespace ThreeAddress

open ThreeAddress.Path (slash IsName Extends)
open FileSystem (placeOf)

/-- Entries have names that stand for entries of a directory, and nothing stands below a file. -/
structure FileTree.IsTree (t : FileTree) : Prop where
  /-- Every place is made of names. -/
  isName : ∀ x ∈ t.entries, ∀ n ∈ x.1, IsName n
  /-- Nothing stands below a file. -/
  leaf : ∀ x ∈ t.entries, x.2 ≠ .directory → ∀ y ∈ t.entries, x.1 <+: y.1 → y.1 = x.1

/-- The files below a place are the entries of the tree that are files there. -/
theorem FileTree.mem_files {t : FileTree} {p x : Place} {content : Bytes} :
    (x, content) ∈ t.files p ↔ (p ++ x, Entry.file content) ∈ t.entries := by
  rw [files, List.mem_mergeSort, List.mem_filterMap]
  constructor
  · rintro ⟨⟨place, entry⟩, hentry, hx⟩
    cases entry with
    | directory => cases hx
    | file c =>
      dsimp only at hx
      split at hx
      · rename_i hprefix
        obtain ⟨rest, rfl⟩ := List.isPrefixOf_iff_prefix.mp hprefix
        obtain ⟨rfl, rfl⟩ := Prod.mk.inj (Option.some.inj hx)
        simpa using hentry
      · cases hx
  · exact fun hentry => ⟨_, hentry, by simp⟩

namespace Build

variable {fs : FileSystem} {baseDir outDir p q : Bytes} {x y : Place}

/-- A path leads below a directory, whatever the working directory is. -/
def LiesIn (dir p : Bytes) : Prop :=
  ∀ workDir : Place, ∃ ns, ns ≠ [] ∧ placeOf workDir p = placeOf workDir dir ++ ns

/-- Tests whether the first name starts with two dots. -/
def startsWithDots (x : Place) : Bool :=
  x.head?.any fun name => (utf8 "..").isPrefixOf name

/-- The place that the code of a source is written for, from the place of the source below the base
directory: the same place, but only its last name if the first one starts with two dots. -/
def landing (x : Place) : Place :=
  if startsWithDots x then x.getLast?.toList else x

/-! ### Names of sources -/

theorem getLast?_codeEnding (stem : Bytes) : (stem ++ codeEnding).getLast? = some 99 := by
  have hend : codeEnding = [46, 116, 97] ++ [99] := by decide
  rw [hend, ← List.append_assoc]
  exact List.getLast?_concat

theorem isName_codeEnding {stem : Bytes} (h : slash ∉ stem) : IsName (stem ++ codeEnding) := by
  have hlast := getLast?_codeEnding stem
  refine ⟨fun heq => ?_, fun hmem => ?_, fun heq => ?_, fun heq => ?_⟩
  · rw [heq] at hlast
    cases hlast
  · rcases List.mem_append.mp hmem with hmem | hmem
    · exact h hmem
    · exact absurd hmem (by decide)
  · rw [heq] at hlast
    exact absurd hlast (by decide)
  · rw [heq] at hlast
    exact absurd hlast (by decide)

theorem eq_append_of_stripEnd? {e b r : Bytes} (h : Bytes.stripEnd? e b = some r) :
    b = r ++ e := by
  obtain ⟨s, hs, rfl⟩ := Option.map_eq_some_iff.mp h
  have hb := Bytes.eq_append_of_strip? hs
  rw [← List.reverse_reverse b, hb]
  simp

/-- The last field of a list of fields ends the joined text. -/
theorem joinWith_concat_append (sep : Bytes) (fs : List Bytes) (f g : Bytes) :
    Bytes.joinWith sep (fs ++ [f ++ g]) = Bytes.joinWith sep (fs ++ [f]) ++ g := by
  by_cases hfs : fs = []
  · simp [hfs, Bytes.joinWith]
  · rw [Bytes.joinWith_concat sep hfs, Bytes.joinWith_concat sep hfs, List.append_assoc,
      List.append_assoc, List.append_assoc]

/-- The last name of a source ends as a source does. -/
theorem exists_stem {front n : Bytes} (hfront : FileSystem.IsFront front)
    (h : isSource (front ++ n) = true) : ∃ stem, n = stem ++ sourceEnding := by
  obtain ⟨r, hr⟩ := Option.isSome_iff_exists.mp h
  have heq := eq_append_of_stripEnd? hr
  rcases List.append_eq_append_iff.mp heq with ⟨stem, -, hn⟩ | ⟨u, hu, hending⟩
  · exact ⟨stem, hn⟩
  · -- the ending would hold the slash in front of the name
    rcases hfront with rfl | ⟨a, rfl⟩
    · obtain ⟨rfl, rfl⟩ := List.append_eq_nil_iff.mp hu.symm
      exact ⟨[], by rw [hending]; rfl⟩
    · rcases List.eq_nil_or_concat u with rfl | ⟨v, b, rfl⟩
      · exact ⟨[], by rw [hending]; rfl⟩
      · rw [List.concat_eq_append, ← List.append_assoc] at hu
        obtain ⟨-, hb⟩ := List.append_inj' hu rfl
        have hmem : slash ∈ sourceEnding := by
          rw [hending, List.cons.inj hb |>.1]
          simp
        exact absurd hmem (by decide)

theorem mem_of_mem_landing {n : Bytes} (h : n ∈ landing x) : n ∈ x := by
  unfold landing at h
  split at h
  · exact List.mem_of_getLast? (Option.mem_toList.mp h)
  · exact h

/-- The last name of a source is the last name of the place it lands at. -/
theorem exists_landing (front : Place) (n : Bytes) :
    ∃ front', landing (front ++ [n]) = front' ++ [n] := by
  unfold landing
  split
  · exact ⟨[], by simp⟩
  · exact ⟨front, rfl⟩

/-! ### The way to a source -/

theorem isSome_strip?_iff {e b : Bytes} : (Bytes.strip? e b).isSome = e.isPrefixOf b := by
  rw [Bool.eq_iff_iff, List.isPrefixOf_iff_prefix, Option.isSome_iff_exists]
  constructor
  · rintro ⟨r, hr⟩
    exact ⟨r, (Bytes.eq_append_of_strip? hr).symm⟩
  · rintro ⟨r, rfl⟩
    exact ⟨r, Bytes.strip?_append e r⟩

/-- A path of names starts with two dots if and only if the first name does. -/
theorem isPrefixOf_joinWith (hne : x ≠ []) (hx : ∀ n ∈ x, IsName n) :
    (utf8 "..").isPrefixOf (Bytes.joinWith [slash] x) = startsWithDots x := by
  obtain ⟨n, rest, rfl⟩ := List.exists_cons_of_ne_nil hne
  have hn := hx n List.mem_cons_self
  have hdots : utf8 ".." = [46, 46] := by decide
  show _ = (utf8 "..").isPrefixOf n
  cases rest with
  | nil => rfl
  | cons k rest =>
    rw [Bytes.joinWith, List.append_assoc, hdots]
    obtain ⟨b, n, rfl⟩ := List.exists_cons_of_ne_nil hn.ne_nil
    cases n with
    | nil =>
      have hslash : (46 : UInt8) ≠ slash := by decide
      simp [List.isPrefixOf, hslash]
    | cons c n => simp [List.isPrefixOf]

section Sources

variable (hdir : baseDir ≠ []) (hne : x ≠ []) (hx : ∀ n ∈ x, IsName n)
include hdir hne hx

/-- A source is known by the names that lead to the place where it lands. -/
theorem sourceName_pathBelow :
    sourceName baseDir (pathBelow baseDir x) = Bytes.joinWith [slash] (landing x) := by
  obtain ⟨p, hp, hextends⟩ := Path.exists_join_cons hdir hx
  have hbase : Path.base (Path.clean p) = Bytes.joinWith [slash] x.getLast?.toList := by
    rcases List.eq_nil_or_concat x with rfl | ⟨front, n, rfl⟩
    · exact absurd rfl hne
    · rw [List.concat_eq_append] at hx hextends ⊢
      obtain ⟨a, ha, hfront⟩ := Path.exists_front_ofElements (Path.isAbsolute baseDir)
        (Path.cleanElements baseDir ++ front) n
      rw [hextends.clean_eq hx, ← List.append_assoc, ha, Path.base_append hfront (hx n (by simp))]
      simp [Bytes.joinWith]
  rw [sourceName, pathBelow, if_neg hne, hp, Path.relative?_clean hextends hne hx, hbase]
  simp only [isSome_strip?_iff, isPrefixOf_joinWith hne hx, landing]
  exact (apply_ite (Bytes.joinWith [slash]) _ _ _).symm

/-- The code of a source is written below the output directory, at the place where the source lands
but with the ending of code. -/
theorem exists_outputPath (hsource : isSource (pathBelow baseDir x) = true) (outDir : Bytes) :
    ∃ front stem, landing x = front ++ [stem ++ sourceEnding] ∧
      (∀ n ∈ front ++ [stem ++ codeEnding], IsName n) ∧
      outputPath baseDir outDir (pathBelow baseDir x) =
        Path.join [outDir, Bytes.joinWith [slash] (front ++ [stem ++ codeEnding])] := by
  obtain ⟨before, n, rfl⟩ : ∃ before n, x = before ++ [n] := by
    rcases List.eq_nil_or_concat x with rfl | ⟨before, n, rfl⟩
    · exact absurd rfl hne
    · exact ⟨before, n, List.concat_eq_append⟩
  obtain ⟨stem, rfl⟩ : ∃ stem, n = stem ++ sourceEnding := by
    obtain ⟨p, hp, hextends⟩ := Path.exists_join_cons hdir hx
    obtain ⟨a, ha, hfront⟩ := Path.exists_front_ofElements (Path.isAbsolute baseDir)
      (Path.cleanElements baseDir ++ before) n
    rw [pathBelow, if_neg hne, hp, hextends.clean_eq hx, ← List.append_assoc, ha] at hsource
    exact exists_stem hfront hsource
  obtain ⟨front, hlanding⟩ := exists_landing before (stem ++ sourceEnding)
  have hnames : ∀ m ∈ front ++ [stem ++ sourceEnding], IsName m := fun m hm =>
    hx m (mem_of_mem_landing (hlanding ▸ hm))
  obtain ⟨hfront, hlast⟩ := List.forall_mem_append.mp hnames
  have hstem : slash ∉ stem := fun hmem =>
    (hlast _ List.mem_cons_self).noSlash (List.mem_append_left _ hmem)
  refine ⟨front, stem, hlanding, List.forall_mem_append.mpr
    ⟨hfront, by simpa using isName_codeEnding hstem⟩, ?_⟩
  rw [outputPath, sourceName_pathBelow hdir hne hx, hlanding, joinWith_concat_append,
    Bytes.stripEnd?_append, joinWith_concat_append]
  rfl

end Sources

/-- Code lands below the output directory. -/
theorem liesIn_join (dir : Bytes) (hne : x ≠ []) (hx : ∀ n ∈ x, IsName n) :
    LiesIn dir (Path.join [dir, Bytes.joinWith [slash] x]) := by
  obtain ⟨p, hp, hextends⟩ := Path.exists_join_pair dir hne hx
  intro workDir
  exact ⟨x, hne, by rw [hp, FileSystem.placeOf_clean, hextends.placeOf hx]⟩

/-! ### Two sources -/

theorem ne_nil_of_locate {place : Place} (h : fs.locate baseDir = .ok place) : baseDir ≠ [] := by
  rintro rfl
  cases h

/-- The sources below a directory are the files there with the ending of a source. -/
theorem exists_listSources {place : Place} {entry : Entry} (hlocate : fs.locate baseDir = .ok place)
    (hget : fs.tree.get? place = some entry) :
    ∃ found, listSources fs baseDir = .ok found ∧ ∀ p, p ∈ found ↔
      ∃ x content, (place ++ x, Entry.file content) ∈ fs.tree.entries ∧
        p = pathBelow baseDir x ∧ isSource p = true := by
  have hbelow : fs.filesBelow baseDir = .ok (fs.tree.files place) := by
    simp only [FileSystem.filesBelow, hlocate, hget]
  refine ⟨_, by rw [listSources, hbelow]; rfl, fun p => ?_⟩
  rw [List.mem_mergeSort, List.mem_filter, List.mem_map]
  constructor
  · rintro ⟨⟨⟨x, content⟩, hx, rfl⟩, hsource⟩
    exact ⟨x, content, FileTree.mem_files.mp hx, rfl, hsource⟩
  · rintro ⟨x, content, hentry, rfl, hsource⟩
    exact ⟨⟨(x, content), FileTree.mem_files.mpr hentry, rfl⟩, hsource⟩

/-- Sources are found only below a directory or a file that exists. -/
theorem exists_of_listSources {found : List Bytes} (hlist : listSources fs baseDir = .ok found) :
    ∃ place entry, fs.locate baseDir = .ok place ∧ fs.tree.get? place = some entry := by
  cases hlocate : fs.locate baseDir with
  | error e =>
    simp only [listSources, FileSystem.filesBelow, hlocate] at hlist
    cases hlist
  | ok place =>
    cases hget : fs.tree.get? place with
    | none =>
      simp only [listSources, FileSystem.filesBelow, hlocate, hget] at hlist
      cases hlist
    | some entry => exact ⟨place, entry, rfl, hget⟩

/-- The code of two sources below one directory is written below the output directory, and to one
path if and only if both sources land at one place. -/
theorem outputPath_eq_iff {found : List Bytes} (htree : fs.tree.IsTree)
    (hlist : listSources fs baseDir = .ok found) (hp : p ∈ found) (hq : q ∈ found) (hne : p ≠ q)
    (outDir : Bytes) :
    LiesIn outDir (outputPath baseDir outDir p) ∧ LiesIn outDir (outputPath baseDir outDir q) ∧
      ∃ x y : Place, p = pathBelow baseDir x ∧ q = pathBelow baseDir y ∧ x ≠ y ∧
        (outputPath baseDir outDir p = outputPath baseDir outDir q ↔ landing x = landing y) := by
  obtain ⟨place, entry, hlocate, hget⟩ := exists_of_listSources hlist
  obtain ⟨found', hlist', hfound⟩ := exists_listSources hlocate hget
  obtain rfl := Except.ok.inj (hlist.symm.trans hlist')
  obtain ⟨x, content, hentry, rfl, hsource⟩ := (hfound p).mp hp
  obtain ⟨y, content', hentry', rfl, hsource'⟩ := (hfound q).mp hq
  have hnames {x : Place} {c : Bytes} (hentry : (place ++ x, Entry.file c) ∈ fs.tree.entries) :
      ∀ n ∈ x, IsName n := fun n hn => htree.isName _ hentry n (List.mem_append_right _ hn)
  have hx := hnames hentry
  have hy := hnames hentry'
  have hdir := ne_nil_of_locate hlocate
  have hxy : x ≠ y := fun heq => hne (by rw [heq])
  -- the base directory is no source itself, since something else stands below it
  have hdirectory {x y : Place} {c : Bytes} (hx : (place ++ x, Entry.file c) ∈ fs.tree.entries)
      (hy : ∃ c, (place ++ y, Entry.file c) ∈ fs.tree.entries) (hxy : x ≠ y) : x ≠ [] := by
    rintro rfl
    obtain ⟨d, hd⟩ := hy
    have hsame := htree.leaf _ hx (by simp) _ hd (by simp)
    exact hxy (by simpa using hsame.symm)
  have hxne := hdirectory hentry ⟨_, hentry'⟩ hxy
  have hyne := hdirectory hentry' ⟨_, hentry⟩ hxy.symm
  obtain ⟨front, stem, hland, hcode, hout⟩ := exists_outputPath hdir hxne hx hsource outDir
  obtain ⟨front', stem', hland', hcode', hout'⟩ := exists_outputPath hdir hyne hy hsource' outDir
  rw [hout, hout']
  refine ⟨liesIn_join _ (by simp) hcode, liesIn_join _ (by simp) hcode', x, y, rfl, rfl, hxy, ?_⟩
  rw [hland, hland', Path.join_pair_inj outDir ⟨by simp, hcode⟩ ⟨by simp, hcode'⟩]
  simp only [← List.concat_eq_append, List.concat_inj]
  simp

/-- A tree with two sources of one name, one of them in a directory that is named with two dots. -/
def dottedTree : FileTree where
  entries := [([utf8 "src"], .directory), ([utf8 "src", utf8 "..x"], .directory),
    ([utf8 "src", utf8 "..x", utf8 "a.ez"], .file (utf8 "1 + 2;")),
    ([utf8 "src", utf8 "a.ez"], .file (utf8 "3 + 4;"))]

instance (n : Bytes) : Decidable (IsName n) :=
  decidable_of_iff (n ≠ [] ∧ slash ∉ n ∧ n ≠ utf8 "." ∧ n ≠ utf8 "..")
    ⟨fun h => ⟨h.1, h.2.1, h.2.2.1, h.2.2.2⟩, fun h => ⟨h.1, h.2, h.3, h.4⟩⟩

theorem isTree_dottedTree : dottedTree.IsTree :=
  ⟨by decide, by decide⟩

/-- The code of both sources of the tree is written to one path. -/
theorem outputPath_eq_dottedTree :
    ∃ found, listSources { tree := dottedTree } (utf8 "src") = .ok found ∧
      utf8 "src/..x/a.ez" ∈ found ∧ utf8 "src/a.ez" ∈ found ∧
      LiesIn (utf8 "out") (outputPath (utf8 "src") (utf8 "out") (utf8 "src/..x/a.ez")) ∧
      LiesIn (utf8 "out") (outputPath (utf8 "src") (utf8 "out") (utf8 "src/a.ez")) ∧
      outputPath (utf8 "src") (utf8 "out") (utf8 "src/..x/a.ez") =
        outputPath (utf8 "src") (utf8 "out") (utf8 "src/a.ez") := by
  have hlocate : FileSystem.locate { tree := dottedTree } (utf8 "src") = .ok [utf8 "src"] := by rfl
  have hget : dottedTree.get? [utf8 "src"] = some .directory := by decide
  obtain ⟨found, hlist, hfound⟩ := exists_listSources hlocate hget
  have hp : utf8 "src/..x/a.ez" ∈ found :=
    (hfound _).mpr ⟨[utf8 "..x", utf8 "a.ez"], utf8 "1 + 2;", by decide, by decide, by decide⟩
  have hq : utf8 "src/a.ez" ∈ found :=
    (hfound _).mpr ⟨[utf8 "a.ez"], utf8 "3 + 4;", by decide, by decide, by decide⟩
  obtain ⟨hin, hin', -⟩ :=
    outputPath_eq_iff isTree_dottedTree hlist hp hq (by decide) (utf8 "out")
  exact ⟨found, hlist, hp, hq, hin, hin', by decide⟩

end Build

end ThreeAddress
