import ThreeAddress.Proofs.Files.Places

/-!
# Cleaned paths and the way between them

The elements of a cleaned path are settled: a double dot stands only where nothing can be taken
away. So cleaning a cleaned path changes nothing, and two cleaned paths are equal if and only if
their elements are. A path that is spelled as a directory with names behind it leads below the
directory, and seen from there it is the names again.

## Main definitions

* `Path.IsSettled` : elements that cleaning leaves alone.
* `Path.Extends` : a path that is spelled as a directory with names behind it.

## Main results

* `Path.clean_clean`, `Path.ofElements_inj` : cleaned paths and their elements.
* `Path.exists_join_cons`, `Path.exists_join_pair` : joining names to a directory extends it.
* `Path.Extends.placeOf` : names that do not climb lead on from the place of the directory.
* `Path.join_pair_inj` : the names below a directory can be read off the path.
* `Path.relative?_clean` : a path below a directory, seen from there.
-/

namespace ThreeAddress.Path

open FileSystem (follow names origin placeOf)

/-! ### Settled elements -/

theorem IsName.isElement {n : Bytes} (h : IsName n) : IsElement n :=
  ⟨h.ne_nil, h.noSlash, h.ne_dot⟩

/-- Elements, the last one first, that cleaning leaves alone: a double dot has only double dots in
front of it, and the path does not start at the root. -/
def IsSettled (rooted : Bool) : List Bytes → Prop
  | [] => True
  | e :: done => (e = utf8 ".." → rooted = false ∧ ∀ d ∈ done, d = utf8 "..") ∧
      IsSettled rooted done

theorem IsSettled.descend {rooted : Bool} {done : List Bytes} (h : IsSettled rooted done)
    (e : Bytes) : IsSettled rooted (descend rooted done e) := by
  unfold Path.descend
  split
  · rename_i he
    cases done with
    | nil =>
      cases rooted with
      | true => trivial
      | false => exact ⟨fun _ => ⟨rfl, by simp⟩, trivial⟩
    | cons d rest =>
      dsimp only
      split
      · rename_i hd
        obtain ⟨hrooted, hrest⟩ := h.1 hd
        exact ⟨fun _ => ⟨hrooted, List.forall_mem_cons.mpr ⟨hd, hrest⟩⟩, h⟩
      · exact h.2
  · rename_i he
    exact ⟨fun heq => absurd heq he, h⟩

theorem IsSettled.foldl {rooted : Bool} {done : List Bytes} (h : IsSettled rooted done)
    (es : List Bytes) : IsSettled rooted (es.foldl (Path.descend rooted) done) := by
  induction es generalizing done with
  | nil => exact h
  | cons e es ih => exact ih (h.descend e)

theorem foldl_descend_of_isSettled {rooted : Bool} {done : List Bytes}
    (h : IsSettled rooted done) : done.reverse.foldl (descend rooted) [] = done := by
  induction done with
  | nil => rfl
  | cons e done ih =>
    rw [List.reverse_cons, List.foldl_append, ih h.2, List.foldl_cons, List.foldl_nil,
      descend.eq_def]
    split
    · rename_i he
      obtain ⟨hrooted, hdone⟩ := h.1 he
      cases done with
      | nil => simp [hrooted]
      | cons d rest => simp [hdone d List.mem_cons_self]
    · rfl

/-- Names are added as they are. -/
theorem foldl_descend_of_isName (rooted : Bool) {ns : List Bytes} (hns : ∀ n ∈ ns, IsName n)
    (done : List Bytes) : ns.foldl (descend rooted) done = ns.reverse ++ done := by
  induction ns generalizing done with
  | nil => rfl
  | cons n ns ih =>
    obtain ⟨hn, hns⟩ := List.forall_mem_cons.mp hns
    rw [List.foldl_cons, ih hns, descend.eq_def, if_neg hn.ne_dots]
    simp

/-- Names are followed as they are. -/
theorem foldl_follow_of_isName {ns : List Bytes} (hns : ∀ n ∈ ns, IsName n) (q : Place) :
    ns.foldl follow q = q ++ ns := by
  induction ns generalizing q with
  | nil => simp
  | cons n ns ih =>
    obtain ⟨hn, hns⟩ := List.forall_mem_cons.mp hns
    rw [List.foldl_cons, ih hns, FileSystem.follow_of_isName hn, List.append_assoc]
    rfl

theorem isSettled_cleanElements (p : Bytes) :
    IsSettled (isAbsolute p) (cleanElements p).reverse := by
  rw [cleanElements, List.reverse_reverse]
  have hnil : IsSettled (isAbsolute p) [] := trivial
  exact hnil.foldl _

/-! ### Elements and paths -/

section Elements

variable {rooted : Bool} {es fs : List Bytes}

theorem isAbsolute_ofElements (hes : ∀ e ∈ es, IsElement e) :
    isAbsolute (ofElements rooted es) = rooted := by
  rw [ofElements]
  cases rooted with
  | true => rfl
  | false =>
    split
    · contradiction
    · split
      · decide
      · exact isAbsolute_joinWith hes

theorem elements_ofElements (hes : ∀ e ∈ es, IsElement e) :
    elements (ofElements rooted es) = es := by
  have hjoin : names (Bytes.joinWith [slash] es) = es :=
    FileSystem.names_joinWith fun e he => ⟨(hes e he).ne_nil, (hes e he).noSlash⟩
  have hfilter : es.filter (fun e => e != utf8 ".") = es :=
    List.filter_eq_self.mpr fun e he => by simpa using (hes e he).ne_dot
  rw [ofElements]
  split
  · have hslash := FileSystem.names_append_slash [] (Bytes.joinWith [slash] es)
    rw [List.nil_append, FileSystem.names_nil, List.nil_append] at hslash
    rw [elements_eq, hslash, hjoin, hfilter]
  · split
    · rename_i hnil
      rw [hnil]
      decide
    · rw [elements_eq, hjoin, hfilter]

/-- Paths are told apart by their elements. -/
theorem ofElements_inj (hes : ∀ e ∈ es, IsElement e) (hfs : ∀ e ∈ fs, IsElement e) :
    ofElements rooted es = ofElements rooted fs ↔ es = fs := by
  refine ⟨fun h => ?_, fun h => by rw [h]⟩
  have helements := congrArg elements h
  rwa [elements_ofElements hes, elements_ofElements hfs] at helements

theorem cleanElements_ofElements (hes : ∀ e ∈ es, IsElement e)
    (hsettled : IsSettled rooted es.reverse) : cleanElements (ofElements rooted es) = es := by
  have hfold := foldl_descend_of_isSettled hsettled
  rw [List.reverse_reverse] at hfold
  rw [cleanElements, isAbsolute_ofElements hes, elements_ofElements hes, hfold,
    List.reverse_reverse]

end Elements

@[simp] theorem cleanElements_clean (p : Bytes) : cleanElements (clean p) = cleanElements p :=
  cleanElements_ofElements (fun _ => isElement_of_mem_cleanElements) (isSettled_cleanElements p)

/-- Cleaning twice is cleaning once. -/
@[simp] theorem clean_clean (p : Bytes) : clean (clean p) = clean p := by
  rw [clean, isAbsolute_clean, cleanElements_clean, ← clean]

/-- A slash at the end is cleaned away. -/
theorem clean_append_slash {p : Bytes} (hp : p ≠ []) : clean (p ++ [slash]) = clean p := by
  have habsolute : isAbsolute (p ++ [slash]) = isAbsolute p := FileSystem.isAbsolute_append hp _
  have helements : elements (p ++ [slash]) = elements p := by
    rw [elements_eq, elements_eq, FileSystem.names_append_slash, FileSystem.names_nil,
      List.append_nil]
  rw [clean, clean, cleanElements, cleanElements, habsolute, helements]

@[simp] theorem clean_directory (p : Bytes) : clean (directory p) = directory p :=
  clean_clean _

/-! ### Paths below a directory -/

section Below

variable {dir p : Bytes} {ns : List Bytes}

/-- A path that is spelled as a directory with names behind it. -/
structure Extends (dir : Bytes) (ns : List Bytes) (p : Bytes) : Prop where
  /-- It starts where the directory starts. -/
  isAbsolute_eq : isAbsolute p = isAbsolute dir
  /-- Its names are those of the directory and those that lead on. -/
  names_eq : names p = names dir ++ ns

theorem Extends.cleanElements (h : Extends dir ns p) (hns : ∀ n ∈ ns, IsName n) :
    cleanElements p = cleanElements dir ++ ns := by
  have hfilter : ns.filter (fun e => e != utf8 ".") = ns :=
    List.filter_eq_self.mpr fun n hn => by simpa using (hns n hn).ne_dot
  rw [Path.cleanElements, h.isAbsolute_eq, elements_eq, h.names_eq, List.filter_append,
    ← elements_eq, hfilter, List.foldl_append, foldl_descend_of_isName _ hns, List.reverse_append,
    List.reverse_reverse, Path.cleanElements]

/-- Names that do not climb lead on from the place of the directory. -/
theorem Extends.placeOf (h : Extends dir ns p) (hns : ∀ n ∈ ns, IsName n) (workDir : Place) :
    placeOf workDir p = placeOf workDir dir ++ ns := by
  rw [FileSystem.placeOf, origin, h.isAbsolute_eq, h.names_eq, List.foldl_append,
    foldl_follow_of_isName hns]
  rfl

theorem extends_joinWith_cons (hdir : dir ≠ []) (hns : ∀ n ∈ ns, IsName n) :
    Extends dir ns (Bytes.joinWith [slash] (dir :: ns)) := by
  cases ns with
  | nil => exact ⟨rfl, by simp [Bytes.joinWith]⟩
  | cons n rest =>
    rw [Bytes.joinWith, List.append_assoc, List.singleton_append]
    refine ⟨FileSystem.isAbsolute_append hdir _, ?_⟩
    rw [FileSystem.names_append_slash,
      FileSystem.names_joinWith fun e he => ⟨(hns e he).ne_nil, (hns e he).noSlash⟩]

/-- Joining names to a directory yields a cleaned path that extends it. -/
theorem exists_join_cons (hdir : dir ≠ []) (hns : ∀ n ∈ ns, IsName n) :
    ∃ p, join (dir :: ns) = clean p ∧ Extends dir ns p := by
  refine ⟨_, ?_, extends_joinWith_cons hdir hns⟩
  rw [join, List.dropWhile_cons_of_neg (by simp [hdir])]

/-- The same for a path of names, where the directory may be left out. -/
theorem exists_join_pair (dir : Bytes) (hne : ns ≠ []) (hns : ∀ n ∈ ns, IsName n) :
    ∃ p, join [dir, Bytes.joinWith [slash] ns] = clean p ∧ Extends dir ns p := by
  by_cases hdir : dir = []
  · subst hdir
    have hjoined : Bytes.joinWith [slash] ns ≠ [] := by
      obtain ⟨n, rest, rfl⟩ := List.exists_cons_of_ne_nil hne
      cases rest <;> simp [Bytes.joinWith, (hns n List.mem_cons_self).ne_nil]
    refine ⟨Bytes.joinWith [slash] ns, ?_, isAbsolute_joinWith fun n hn => (hns n hn).isElement,
      FileSystem.names_joinWith fun n hn => ⟨(hns n hn).ne_nil, (hns n hn).noSlash⟩⟩
    rw [join, List.dropWhile_cons_of_pos (by simp), List.dropWhile_cons_of_neg (by simp [hjoined])]
    rfl
  · obtain ⟨n, rest, rfl⟩ := List.exists_cons_of_ne_nil hne
    refine ⟨Bytes.joinWith [slash] (dir :: n :: rest), ?_, extends_joinWith_cons hdir hns⟩
    rw [join, List.dropWhile_cons_of_neg (by simp [hdir])]
    rfl

theorem isElement_below (hns : ∀ n ∈ ns, IsName n) : ∀ e ∈ cleanElements dir ++ ns, IsElement e :=
  List.forall_mem_append.mpr
    ⟨fun _ => isElement_of_mem_cleanElements, fun n hn => (hns n hn).isElement⟩

theorem Extends.clean_eq (h : Extends dir ns p) (hns : ∀ n ∈ ns, IsName n) :
    clean p = ofElements (isAbsolute dir) (Path.cleanElements dir ++ ns) := by
  rw [clean, h.isAbsolute_eq, h.cleanElements hns]

/-- Paths of names below one directory are told apart by the names. -/
theorem join_pair_inj (dir : Bytes) {ms : List Bytes} (hns : ns ≠ [] ∧ ∀ n ∈ ns, IsName n)
    (hms : ms ≠ [] ∧ ∀ m ∈ ms, IsName m) :
    join [dir, Bytes.joinWith [slash] ns] = join [dir, Bytes.joinWith [slash] ms] ↔ ns = ms := by
  obtain ⟨p, hp, hextends⟩ := exists_join_pair dir hns.1 hns.2
  obtain ⟨q, hq, hextends'⟩ := exists_join_pair dir hms.1 hms.2
  rw [hp, hq, hextends.clean_eq hns.2, hextends'.clean_eq hms.2,
    ofElements_inj (isElement_below hns.2) (isElement_below hms.2), List.append_cancel_left_eq]

/-- Behind the common elements stands what was added. -/
theorem relativeElements?_append (es ns : List Bytes) :
    relativeElements? es (es ++ ns) = some ns := by
  have hcommon : dropCommon es (es ++ ns) = ([], ns) := by
    induction es with
    | nil => cases ns <;> rfl
    | cons e es ih => simp [dropCommon, ih]
  simp [relativeElements?, hcommon]

/-- A cleaned path below a directory, seen from there, is the names that lead to it. -/
theorem relative?_clean (h : Extends dir ns p) (hne : ns ≠ []) (hns : ∀ n ∈ ns, IsName n) :
    relative? dir (clean p) = .ok (Bytes.joinWith [slash] ns) := by
  have helements : ∀ e ∈ cleanElements dir ++ ns, IsElement e := isElement_below hns
  have hclean := h.clean_eq hns
  have hdot : clean p ≠ utf8 "." := by
    intro heq
    have hnil : elements (clean p) = [] := by
      rw [heq]
      decide
    rw [hclean, elements_ofElements helements] at hnil
    exact hne (List.append_eq_nil_iff.mp hnil).2
  have hother : clean p ≠ clean dir := by
    rw [hclean, clean]
    intro heq
    have hsame := (ofElements_inj helements fun _ => isElement_of_mem_cleanElements).mp heq
    exact hne (List.append_right_eq_self.mp hsame)
  rw [relative?, clean_clean, if_neg hother, if_neg (by simp [h.isAbsolute_eq]), targetElements,
    clean_clean, if_neg hdot, cleanElements_clean, h.cleanElements hns, relativeElements?_append]

end Below

/-! ### The last name -/

theorem exists_front_ofElements (rooted : Bool) (es : List Bytes) (n : Bytes) :
    ∃ front, ofElements rooted (es ++ [n]) = front ++ n ∧ FileSystem.IsFront front := by
  have hjoin : ∃ front, Bytes.joinWith [slash] (es ++ [n]) = front ++ n ∧
      FileSystem.IsFront front := by
    by_cases hes : es = []
    · exact ⟨[], by rw [hes]; rfl, .inl rfl⟩
    · exact ⟨_, Bytes.joinWith_concat _ hes n, .inr ⟨_, rfl⟩⟩
  obtain ⟨front, heq, hfront⟩ := hjoin
  rw [ofElements]
  split
  · refine ⟨slash :: front, by rw [heq]; rfl, .inr ?_⟩
    rcases hfront with rfl | ⟨a, rfl⟩
    · exact ⟨[], rfl⟩
    · exact ⟨slash :: a, rfl⟩
  · rw [if_neg (by simp)]
    exact ⟨front, heq, hfront⟩

/-- A path that ends in a name has no slashes to take away at its end. -/
theorem trim_append (front : Bytes) {n : Bytes} (hne : n ≠ []) (hslash : slash ∉ n) :
    ((front ++ n).reverse.dropWhile fun b => b == slash).reverse = front ++ n := by
  obtain ⟨x, r, hr⟩ := List.exists_cons_of_ne_nil (List.reverse_ne_nil_iff.mpr hne)
  have hx : x ≠ slash := fun heq =>
    hslash (List.mem_reverse.mp (by rw [hr, heq]; exact List.mem_cons_self))
  rw [List.reverse_append, hr, List.cons_append, List.dropWhile_cons_of_neg (by simpa using hx),
    ← List.cons_append, ← hr, ← List.reverse_append, List.reverse_reverse]

theorem base_append {front n : Bytes} (hfront : FileSystem.IsFront front) (hn : IsName n) :
    base (front ++ n) = n := by
  have hne : front ++ n ≠ [] := by simp [hn.ne_nil]
  rw [base, if_neg hne, trim_append front hn.ne_nil hn.noSlash, if_neg hne,
    FileSystem.splitLast_append hfront hn.noSlash]

end ThreeAddress.Path
