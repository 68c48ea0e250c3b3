import ThreeAddress.Files.Replace
import ThreeAddress.Proofs.Text.Splitting

/-!
# Places of paths

The place that a path leads to does not depend on what stands in the file system: if a path can be
followed at all, it leads where its names say. So different spellings of a path lead to one place,
and the place of a file is that of its directory with one name behind it.

## Main definitions

* `FileSystem.placeOf` : the place that the names of a path lead to.
* `Path.IsName` : names that neither end a path nor climb.

## Main results

* `FileSystem.eq_placeOf` : a path that can be followed leads to its place.
* `FileSystem.placeOf_clean` : cleaning a path keeps its place.
* `FileSystem.placeOf_below` : a file and its directory.
-/

namespace ThreeAddress

namespace Path

/-- A name that stands for an entry of a directory. -/
structure IsName (name : Bytes) : Prop where
  /-- It is not empty. -/
  ne_nil : name ≠ []
  /-- It is one name. -/
  noSlash : slash ∉ name
  /-- It does not stay. -/
  ne_dot : name ≠ utf8 "."
  /-- It does not climb. -/
  ne_dots : name ≠ utf8 ".."

end Path

open ThreeAddress.Path (slash IsName)

namespace FileSystem

/-- Follows one name, whatever stands in the file system. -/
def follow (p : Place) (name : Bytes) : Place :=
  if name = utf8 "." then p else if name = utf8 ".." then p.dropLast else p ++ [name]

/-- Where a path starts. -/
def origin (workDir : Place) (path : Bytes) : Place :=
  if Path.isAbsolute path then [] else workDir

/-- The place that the names of a path lead to. -/
def placeOf (workDir : Place) (path : Bytes) : Place :=
  (names path).foldl follow (origin workDir path)

theorem follow_of_isName {name : Bytes} (h : IsName name) (p : Place) :
    follow p name = p ++ [name] := by
  rw [follow, if_neg h.ne_dot, if_neg h.ne_dots]

theorem eq_follow_of_enter {t : FileTree} {p q : Place} {name : Bytes}
    (h : enter t p name = .ok q) : q = follow p name := by
  unfold enter at h
  split at h
  · cases h
  · cases h
  · unfold follow
    split at h
    · rename_i hdot
      rw [if_pos hdot]
      exact (Except.ok.inj h).symm
    · rename_i hdot
      rw [if_neg hdot]
      split at h
      · rename_i hdots
        rw [if_pos hdots]
        exact (Except.ok.inj h).symm
      · rename_i hdots
        rw [if_neg hdots]
        split at h
        · cases h
        · exact (Except.ok.inj h).symm

theorem eq_foldl_of_foldlM {t : FileTree} {ns : List Bytes} {p q : Place}
    (h : ns.foldlM (enter t) p = .ok q) : q = ns.foldl follow p := by
  induction ns generalizing p with
  | nil => exact (Except.ok.inj h).symm
  | cons n ns ih =>
    rw [List.foldlM_cons] at h
    cases hn : enter t p n with
    | error c =>
      rw [hn] at h
      cases h
    | ok p' =>
      rw [hn] at h
      rw [List.foldl_cons, ← eq_follow_of_enter hn]
      exact ih h

/-- A path that can be followed leads to its place. -/
theorem eq_placeOf {fs : FileSystem} {path : Bytes} {p : Place} (h : fs.reach path = .ok p) :
    p = placeOf fs.workDir path := by
  unfold reach at h
  split at h
  · cases h
  · split at h
    · cases h
    · split at h
      · cases h
      · exact eq_foldl_of_foldlM h

theorem reach_of_locate {fs : FileSystem} {path : Bytes} {p : Place} (h : fs.locate path = .ok p) :
    fs.reach path = .ok p := by
  unfold locate at h
  cases hreach : fs.reach path with
  | error c =>
    rw [hreach] at h
    cases h
  | ok q =>
    rw [hreach] at h
    simp only [bind, Except.bind] at h
    split at h
    · split at h
      · cases h
      · exact h
    · exact h

theorem eq_placeOf_of_locate {fs : FileSystem} {path : Bytes} {p : Place}
    (h : fs.locate path = .ok p) : p = placeOf fs.workDir path :=
  eq_placeOf (reach_of_locate h)

/-- The content of a file stands at the place of its path. -/
theorem get?_of_read {fs : FileSystem} {path content : Bytes} (h : fs.read path = .ok content) :
    fs.tree.get? (placeOf fs.workDir path) = some (.file content) := by
  unfold read find at h
  cases hlocate : fs.locate path with
  | error c =>
    simp only [hlocate, bind, Except.bind] at h
    cases h
  | ok p =>
    simp only [hlocate, bind, Except.bind] at h
    rw [← eq_placeOf_of_locate hlocate]
    cases hget : fs.tree.get? p with
    | none => simp [hget] at h
    | some e =>
      cases e with
      | directory => simp [hget] at h
      | file c =>
        simp only [hget, Except.ok.injEq] at h
        rw [h]

/-! ### Names -/

theorem names_append_slash (a b : Bytes) : names (a ++ slash :: b) = names a ++ names b := by
  rw [names, Bytes.splitOn_append_cons, List.filter_append]
  rfl

theorem names_of_isName {name : Bytes} (h : IsName name) : names name = [name] := by
  rw [names, Bytes.splitOn_of_notMem h.noSlash]
  simp [h.ne_nil]

@[simp] theorem names_nil : names [] = [] := rfl

theorem names_joinWith {es : List Bytes} (h : ∀ e ∈ es, e ≠ [] ∧ slash ∉ e) :
    names (Bytes.joinWith [slash] es) = es := by
  cases hes : es with
  | nil => rfl
  | cons e rest =>
    rw [← hes, names, Bytes.splitOn_joinWith (by simp [hes]) fun e he => (h e he).2]
    exact List.filter_eq_self.mpr fun e he => by simpa using (h e he).1

theorem isAbsolute_append {a : Bytes} (ha : a ≠ []) (b : Bytes) :
    Path.isAbsolute (a ++ b) = Path.isAbsolute a := by
  cases a with
  | nil => exact absurd rfl ha
  | cons x a => rfl

end FileSystem

/-! ### Cleaning -/

namespace Path

open FileSystem (follow names)

/-- An element of a path: a name that climbs or stands for an entry. -/
structure IsElement (e : Bytes) : Prop where
  /-- It is not empty. -/
  ne_nil : e ≠ []
  /-- It is one name. -/
  noSlash : slash ∉ e
  /-- It does not stay. -/
  ne_dot : e ≠ utf8 "."

theorem isElement_of_mem {p e : Bytes} (h : e ∈ elements p) : IsElement e := by
  rw [elements, List.mem_filter, Bool.and_eq_true, bne_iff_ne, bne_iff_ne] at h
  exact ⟨h.2.1, Bytes.notMem_of_mem_splitOn h.1, h.2.2⟩

theorem elements_eq (p : Bytes) : elements p = (names p).filter fun e => e != utf8 "." := by
  rw [elements, names, List.filter_filter]
  exact List.filter_congr fun e _ => Bool.and_comm _ _

/-- Names that stay can be left out. -/
theorem foldl_follow_elements (p : Bytes) (start : Place) :
    (elements p).foldl follow start = (names p).foldl follow start := by
  rw [elements_eq, List.foldl_filter]
  congr 1
  funext q e
  by_cases h : e = utf8 "."
  · simp [h, follow]
  · simp [h]

theorem mem_descend {rooted : Bool} {done : List Bytes} {e x : Bytes}
    (h : x ∈ descend rooted done e) : x = e ∨ x ∈ done := by
  unfold descend at h
  split at h
  · split at h
    · split at h
      · cases h
      · exact .inl (List.mem_singleton.mp h)
    · split at h
      · exact List.mem_cons.mp h
      · exact .inr (List.mem_cons_of_mem _ h)
  · exact List.mem_cons.mp h

theorem isElement_of_mem_foldl {rooted : Bool} {done es : List Bytes}
    (hdone : ∀ d ∈ done, IsElement d) (hes : ∀ e ∈ es, IsElement e) :
    ∀ x ∈ es.foldl (descend rooted) done, IsElement x := by
  induction es generalizing done with
  | nil => exact hdone
  | cons e es ih =>
    refine ih (fun d hd => ?_) fun x hx => hes x (List.mem_cons_of_mem _ hx)
    rcases mem_descend hd with rfl | hd
    · exact hes d List.mem_cons_self
    · exact hdone d hd

theorem isElement_of_mem_cleanElements {p e : Bytes} (h : e ∈ cleanElements p) : IsElement e :=
  isElement_of_mem_foldl (fun _ hd => absurd hd List.not_mem_nil) (fun _ => isElement_of_mem) e
    (List.mem_reverse.mp h)

/-- Taking an element away leads to where climbing leads. -/
theorem foldl_follow_descend {rooted : Bool} {start : Place} (hstart : rooted = true → start = [])
    {done : List Bytes} (hdone : ∀ d ∈ done, IsElement d) (e : Bytes) :
    (descend rooted done e).reverse.foldl follow start =
      follow (done.reverse.foldl follow start) e := by
  have hcons (e : Bytes) : (e :: done).reverse.foldl follow start =
      follow (done.reverse.foldl follow start) e := by
    rw [List.reverse_cons, List.foldl_append]
    rfl
  unfold descend
  split
  · rename_i hdots
    subst hdots
    cases done with
    | nil =>
      cases rooted with
      | true => simp [hstart rfl, follow]
      | false => rfl
    | cons d rest =>
      dsimp only
      split
      · exact hcons _
      · rename_i hd
        have hname : follow (rest.reverse.foldl follow start) d =
            rest.reverse.foldl follow start ++ [d] := by
          rw [follow, if_neg (hdone d List.mem_cons_self).ne_dot, if_neg hd]
        have hclimb (p : Place) : follow p (utf8 "..") = p.dropLast := by
          rw [follow, if_neg (by decide), if_pos rfl]
        rw [List.reverse_cons, List.foldl_append, List.foldl_cons, List.foldl_nil, hname, hclimb,
          List.dropLast_concat]
  · exact hcons e

theorem foldl_follow_foldl_descend {rooted : Bool} {start : Place}
    (hstart : rooted = true → start = []) {done es : List Bytes}
    (hdone : ∀ d ∈ done, IsElement d) (hes : ∀ e ∈ es, IsElement e) :
    (es.foldl (descend rooted) done).reverse.foldl follow start =
      es.foldl follow (done.reverse.foldl follow start) := by
  induction es generalizing done with
  | nil => rfl
  | cons e es ih =>
    have hnext : ∀ d ∈ descend rooted done e, IsElement d := fun d hd => by
      rcases mem_descend hd with rfl | hd
      · exact hes d List.mem_cons_self
      · exact hdone d hd
    rw [List.foldl_cons, List.foldl_cons,
      ih hnext fun x hx => hes x (List.mem_cons_of_mem _ hx), foldl_follow_descend hstart hdone]

theorem isAbsolute_joinWith {es : List Bytes} (h : ∀ e ∈ es, IsElement e) :
    isAbsolute (Bytes.joinWith [slash] es) = false := by
  cases es with
  | nil => rfl
  | cons e rest =>
    obtain ⟨x, e', rfl⟩ := List.exists_cons_of_ne_nil (h e List.mem_cons_self).ne_nil
    have hx : x ≠ slash := fun heq =>
      (h _ List.mem_cons_self).noSlash (by rw [heq]; exact List.mem_cons_self)
    cases rest <;> simpa [isAbsolute, Bytes.joinWith] using hx

@[simp] theorem isAbsolute_clean (p : Bytes) : isAbsolute (clean p) = isAbsolute p := by
  have hes : ∀ e ∈ cleanElements p, IsElement e := fun _ => isElement_of_mem_cleanElements
  rw [clean, ofElements]
  cases isAbsolute p with
  | true => rfl
  | false =>
    split
    · contradiction
    · split
      · decide
      · exact isAbsolute_joinWith hes

theorem clean_ne_nil (p : Bytes) : clean p ≠ [] := by
  rw [clean, ofElements]
  split
  · exact List.cons_ne_nil _ _
  · split
    · decide
    · rename_i hne
      obtain ⟨e, rest, hes⟩ := List.exists_cons_of_ne_nil hne
      have he : e ≠ [] :=
        (isElement_of_mem_cleanElements (by rw [hes]; exact List.mem_cons_self)).ne_nil
      rw [hes]
      cases rest <;> simp [Bytes.joinWith, he]

end Path

namespace FileSystem

/-- The names of a cleaned path are its elements, unless it is the dot. -/
theorem names_clean (p : Bytes) :
    names (Path.clean p) = Path.cleanElements p ∨
      Path.clean p = utf8 "." ∧ Path.cleanElements p = [] := by
  have hnames : names (Bytes.joinWith [slash] (Path.cleanElements p)) = Path.cleanElements p :=
    names_joinWith fun e he =>
      have helement := Path.isElement_of_mem_cleanElements he
      ⟨helement.ne_nil, helement.noSlash⟩
  rw [Path.clean, Path.ofElements]
  split
  · have hslash := names_append_slash [] (Bytes.joinWith [slash] (Path.cleanElements p))
    rw [List.nil_append, names_nil, List.nil_append] at hslash
    exact .inl (hslash.trans hnames)
  · split
    · rename_i hnil
      exact .inr ⟨rfl, hnil⟩
    · exact .inl hnames

theorem foldl_follow_clean (p : Bytes) (start : Place) :
    (names (Path.clean p)).foldl follow start = (Path.cleanElements p).foldl follow start := by
  obtain hnames | ⟨hdot, hnil⟩ := names_clean p
  · rw [hnames]
  · rw [hdot, hnil]
    rfl

/-- Cleaning a path keeps its place. -/
@[simp] theorem placeOf_clean (workDir : Place) (p : Bytes) :
    placeOf workDir (Path.clean p) = placeOf workDir p := by
  have hstart : Path.isAbsolute p = true → origin workDir p = [] := fun h => if_pos h
  have horigin : origin workDir (Path.clean p) = origin workDir p := by
    rw [origin, origin, Path.isAbsolute_clean]
  rw [placeOf, placeOf, horigin, foldl_follow_clean, Path.cleanElements,
    Path.foldl_follow_foldl_descend hstart (fun d hd => absurd hd List.not_mem_nil)
      fun _ => Path.isElement_of_mem]
  exact Path.foldl_follow_elements p _

/-! ### Files and their directories -/

theorem isAbsolute_of_noSlash {name : Bytes} (h : slash ∉ name) : Path.isAbsolute name = false := by
  cases name with
  | nil => rfl
  | cons x name =>
    have hx : x ≠ slash := fun heq => h (by rw [heq]; exact List.mem_cons_self)
    simpa [Path.isAbsolute] using hx

/-- The part of a path in front of its last name: empty, or up to a slash. -/
def IsFront (front : Bytes) : Prop :=
  front = [] ∨ ∃ a, front = a ++ [slash]

/-- Every path has a last name, which may be empty. -/
theorem exists_front (p : Bytes) :
    ∃ front name, p = front ++ name ∧ IsFront front ∧ slash ∉ name := by
  induction p with
  | nil => exact ⟨[], [], rfl, .inl rfl, List.not_mem_nil⟩
  | cons x p ih =>
    obtain ⟨front, name, rfl, rfl | ⟨a, rfl⟩, hname⟩ := ih
    · by_cases hx : x = slash
      · exact ⟨[x], name, rfl, .inr ⟨[], by rw [hx]; rfl⟩, hname⟩
      · exact ⟨[], x :: name, rfl, .inl rfl, by simp [Ne.symm hx, hname]⟩
    · exact ⟨x :: (a ++ [slash]), name, rfl, .inr ⟨x :: a, rfl⟩, hname⟩

theorem names_append {front : Bytes} (hfront : IsFront front) (name : Bytes) :
    names (front ++ name) = names front ++ names name := by
  rcases hfront with rfl | ⟨a, rfl⟩
  · rfl
  · rw [List.append_assoc, List.singleton_append, names_append_slash, names_append_slash,
      names_nil, List.append_nil]

/-- A path starts where the part in front of its last name starts. -/
theorem origin_append (workDir : Place) {front name : Bytes} (hfront : IsFront front)
    (hname : slash ∉ name) : origin workDir (front ++ name) = origin workDir front := by
  rcases hfront with rfl | ⟨a, rfl⟩
  · rw [origin, origin, List.nil_append, isAbsolute_of_noSlash hname]
    rfl
  · rw [origin, origin, isAbsolute_append (by simp)]

/-- The last name of a path is followed last. -/
theorem placeOf_append (workDir : Place) {front name : Bytes} (hfront : IsFront front)
    (hname : slash ∉ name) :
    placeOf workDir (front ++ name) = (names name).foldl follow (placeOf workDir front) := by
  rw [placeOf, origin_append workDir hfront hname, names_append hfront, List.foldl_append]
  rfl

theorem placeOf_append_of_isName (workDir : Place) {front name : Bytes} (hfront : IsFront front)
    (hname : IsName name) : placeOf workDir (front ++ name) = placeOf workDir front ++ [name] := by
  rw [placeOf_append workDir hfront hname.noSlash, names_of_isName hname, List.foldl_cons,
    follow_of_isName hname]
  rfl

/-- A slash at the end changes no place. -/
theorem placeOf_append_slash (workDir : Place) {a : Bytes} (ha : a ≠ []) :
    placeOf workDir (a ++ [slash]) = placeOf workDir a := by
  rw [placeOf, placeOf, origin, origin, isAbsolute_append ha, names_append_slash, names_nil,
    List.append_nil]

/-- An entry of a directory. -/
theorem placeOf_below (workDir : Place) {dir name : Bytes} (hdir : dir ≠ []) (hname : IsName name) :
    placeOf workDir (Disk.below dir name) = placeOf workDir dir ++ [name] := by
  rw [Disk.below]
  split
  · rename_i hends
    have hfront : IsFront dir := .inr (List.getLast?_eq_some_iff.mp (eq_of_beq hends))
    exact placeOf_append_of_isName workDir hfront hname
  · rw [placeOf_append_of_isName workDir (.inr ⟨dir, rfl⟩) hname, placeOf_append_slash workDir hdir]

theorem splitLast_append {front name : Bytes} (hfront : IsFront front) (hname : slash ∉ name) :
    Path.splitLast (front ++ name) = (front, name) := by
  have hall : ∀ b ∈ name.reverse, (b != slash) = true := fun b hb => by
    rw [bne_iff_ne]
    rintro rfl
    exact hname (List.mem_reverse.mp hb)
  have hlast : ((front ++ name).reverse.takeWhile fun b => b != slash).reverse = name := by
    rw [List.reverse_append, List.takeWhile_append_of_pos hall]
    rcases hfront with rfl | ⟨a, rfl⟩ <;> simp
  rw [Path.splitLast, hlast, List.length_append, Nat.add_sub_cancel, List.take_left]

end FileSystem

end ThreeAddress
