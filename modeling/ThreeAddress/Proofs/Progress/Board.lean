import Mathlib.Data.List.Nodup
import ThreeAddress.Progress.Board

/-!
# Boards and the courses of files

What a board shows of a file depends on the events about that file alone, in their order; how they
are mixed with the events about other files plays no part. If these events take one of the courses
that the work on a file can take, the file only ever goes ahead on the board, and it stays as it is
once it is finished.

## Main definitions

* `Progress.eventsOf` : the events about a file.
* `Progress.Course` : how the work on a file can go.
* `Progress.Label.rank` : how far a file with a label is.
* `Progress.FollowsCourses` : a log in which every file waits and then takes a course.

## Main results

* `Progress.Board.items_follow` : what a board shows behind a log.
* `Progress.Board.label_follow_le` : files go ahead and stay finished.
-/

namespace ThreeAddress.Progress

/-! ### Logs -/

/-- The events about a file, in order. -/
def eventsOf (file : Bytes) (log : List Event) : List Event :=
  log.filter fun e => e.file = file

/-- The stage that an event is about, and how it stands. -/
def Event.news (e : Event) : Stage × Status :=
  (e.stage, e.status)

/-- How the work on a file can go, behind its waiting. -/
inductive Course : List (Stage × Status) → Prop
  /-- It is not begun. -/
  | never : Course []
  /-- It cannot be loaded. -/
  | unloaded : Course [(.compile, .error)]
  /-- It cannot be compiled. -/
  | refused : Course [(.compile, .working), (.compile, .error)]
  /-- It is compiled, or was stored before. -/
  | compiled {status : Status} (h : status = .done ∨ status = .cached) :
      Course [(.compile, .working), (.compile, status)]
  /-- Its code cannot be written. -/
  | unwritten : Course [(.compile, .working), (.write, .working), (.write, .error)]
  /-- Its code is written. -/
  | written {status : Status} (h : status = .done ∨ status = .cached) :
      Course [(.compile, .working), (.write, .working), (.compile, status)]

/-- A log in which every file waits first and then takes a course. -/
def FollowsCourses (files : List Bytes) (log : List Event) : Prop :=
  ∀ f ∈ files, ∃ course, Course course ∧
    (eventsOf f log).map Event.news = (.compile, .queued) :: course

theorem eventsOf_append (file : Bytes) (front back : List Event) :
    eventsOf file (front ++ back) = eventsOf file front ++ eventsOf file back :=
  List.filter_append _ _

theorem prefix_eventsOf {front log : List Event} (h : front <+: log) (file : Bytes) :
    eventsOf file front <+: eventsOf file log :=
  h.filter _

/-! ### Labels -/

/-- How far a file with a label is: waiting, compiling, writing or finished. The label of whole
builds is no label of a file. -/
def Label.rank : Label → Nat
  | .queued | .building => 0
  | .compiling => 1
  | .writing => 2
  | .cached | .done | .error => 3

/-- A label may come behind another one: it is as far or further, and nothing comes behind a
finished file. -/
def Label.Precedes (a b : Label) : Prop :=
  a.rank ≤ b.rank ∧ a.rank ≠ 3

/-- The label that an event tells. -/
def labelOf? (news : Stage × Status) : Option Label :=
  Label.of? news.1 news.2

/-- The labels of a file that takes a course, one behind the other. -/
def labels (news : List (Stage × Status)) : List Label :=
  .queued :: news.filterMap labelOf?

/-- Along a course a file goes ahead. -/
theorem Course.pairwise_labels {course : List (Stage × Status)} (h : Course course) :
    (labels ((.compile, .queued) :: course)).Pairwise Label.Precedes := by
  cases h with
  | compiled h | written h =>
    rcases h with rfl | rfl <;>
      simp [labels, labelOf?, Label.of?, Label.ofStage?, Label.Precedes, Label.rank]
  | _ => simp [labels, labelOf?, Label.of?, Label.ofStage?, Label.Precedes, Label.rank]

/-- The last of some elements in an order follows from the last of those in front. -/
theorem getLast_of_pairwise {α : Type} {r : α → α → Prop} {front behind all : List α}
    (hall : all.Pairwise r) (hbehind : behind <+: all) (hfront : front <+: behind)
    (hne : front ≠ []) (hne' : behind ≠ []) :
    front.getLast hne = behind.getLast hne' ∨ r (front.getLast hne) (behind.getLast hne') := by
  obtain ⟨back, rfl⟩ := hfront
  rcases List.eq_nil_or_concat back with rfl | ⟨back, b, rfl⟩
  · simp
  · right
    have hpair := (List.pairwise_append.mp (hall.sublist hbehind.sublist)).2.2
    have hlast : (front ++ back.concat b).getLast hne' = b := by simp
    rw [hlast]
    exact hpair _ (List.getLast_mem hne) b (by simp)

/-! ### Items -/

/-- An item that follows an event about its file. -/
def Item.follow (i : Item) (e : Event) : Item :=
  match Label.of? e.stage e.status with
  | none => i
  | some l => { i with label := l, stage := some e.stage }

theorem Item.path_follow (i : Item) (e : Event) : (i.follow e).path = i.path := by
  unfold follow
  split <;> rfl

theorem Item.path_foldl_follow (i : Item) (es : List Event) :
    (es.foldl follow i).path = i.path := by
  induction es generalizing i with
  | nil => rfl
  | cons e es ih => exact (ih _).trans (i.path_follow e)

/-- An item shows the last label that was told. -/
theorem Item.label_foldl_follow (i : Item) (es : List Event) :
    (es.foldl follow i).label = ((es.map Event.news).filterMap labelOf?).getLastD i.label := by
  induction es generalizing i with
  | nil => rfl
  | cons e es ih =>
    rw [List.foldl_cons, ih, List.map_cons]
    unfold follow
    cases h : Label.of? e.stage e.status with
    | none => rw [List.filterMap_cons_none (show labelOf? e.news = none from h)]
    | some l =>
      rw [List.filterMap_cons_some (show labelOf? e.news = some l from h), List.getLastD_cons]

namespace Board

/-- A board behind a log. -/
def follow (b : Board) (log : List Event) : Board :=
  log.foldl apply b

/-- One of several items for different files is changed. -/
theorem updateLast_map {files : List Bytes} (hnodup : files.Nodup) {item : Bytes → Item}
    (hpath : ∀ f, (item f).path = f) (file : Bytes) (change : Item → Item) :
    updateLast (fun i => i.path = file) change (files.map item) =
      files.map fun f => if file = f then change (item f) else item f := by
  induction files with
  | nil => rfl
  | cons f files ih =>
    obtain ⟨hf, hnodup⟩ := List.nodup_cons.mp hnodup
    rw [List.map_cons, updateLast, List.map_cons, ih hnodup]
    have hany : ((files.map item).any fun i => decide (i.path = file)) = decide (file ∈ files) := by
      rw [Bool.eq_iff_iff, List.any_map, List.any_eq_true, decide_eq_true_eq]
      simp only [Function.comp_apply, hpath, decide_eq_true_eq, exists_eq_right]
    rw [hany, hpath]
    by_cases hmem : file ∈ files
    · have hne : file ≠ f := fun h => hf (h ▸ hmem)
      simp [hmem, hne]
    · have hsame : (files.map fun f => if file = f then change (item f) else item f) =
          files.map item := by
        refine List.map_congr_left fun g hg => if_neg ?_
        rintro rfl
        exact hmem hg
      rw [hsame]
      by_cases hfile : file = f
      · subst hfile
        simp [hf]
      · simp [hmem, hfile, Ne.symm hfile]

/-- An event changes the item of its file. -/
theorem items_apply {b : Board} {files : List Bytes} (hnodup : files.Nodup) (hempty : [] ∉ files)
    {item : Bytes → Item} (hpath : ∀ f, (item f).path = f) (hb : b.items = files.map item)
    (e : Event) :
    (b.apply e).items = files.map fun f => if e.file = f then (item f).follow e else item f := by
  unfold apply Item.follow
  cases Label.of? e.stage e.status with
  | none => simpa using hb
  | some l =>
    dsimp only
    by_cases hfile : e.file = []
    · rw [if_pos hfile, hb]
      refine List.map_congr_left fun f hf => (if_neg ?_).symm
      rintro rfl
      exact hempty (hfile ▸ hf)
    · rw [if_neg hfile, hb]
      exact updateLast_map hnodup hpath e.file _

/-- What a board shows of a file are the events about it. -/
theorem items_foldl {files : List Bytes} (hnodup : files.Nodup) (hempty : [] ∉ files)
    (log : List Event) : ∀ {b : Board} {item : Bytes → Item}, (∀ f, (item f).path = f) →
      b.items = files.map item →
      (b.follow log).items = files.map fun f => (eventsOf f log).foldl Item.follow (item f) := by
  induction log with
  | nil => exact fun _ hb => hb
  | cons e log ih =>
    intro b item hpath hb
    have happly := items_apply hnodup hempty hpath hb e
    refine (ih (fun f => ?_) happly).trans ?_
    · split
      · rw [Item.path_follow, hpath]
      · exact hpath f
    · refine List.map_congr_left fun f _ => ?_
      unfold eventsOf
      by_cases hfile : e.file = f
      · simp [hfile]
      · simp [hfile]

/-- From the start, a board shows every file as the events about it tell. -/
theorem items_follow {files : List Bytes} (hnodup : files.Nodup) (hempty : [] ∉ files)
    (title : Bytes) (log : List Event) :
    ((start title files).follow log).items =
      files.map fun f => (eventsOf f log).foldl Item.follow { path := f } :=
  items_foldl hnodup hempty log (fun _ => rfl) rfl

/-- Behind any log a board shows the files it was started with. -/
theorem map_path_items_follow {files : List Bytes} (hnodup : files.Nodup) (hempty : [] ∉ files)
    (title : Bytes) (log : List Event) :
    ((start title files).follow log).items.map Item.path = files := by
  rw [items_follow hnodup hempty, List.map_map]
  exact (List.map_congr_left fun f _ => Item.path_foldl_follow _ _).trans (List.map_id _)

/-- A file is shown with the last of its labels. -/
theorem getElem?_items_follow {files : List Bytes} (hnodup : files.Nodup) (hempty : [] ∉ files)
    {title : Bytes} {log : List Event} {k : Nat} {i : Item}
    (h : ((start title files).follow log).items[k]? = some i) :
    files[k]? = some i.path ∧ i.label =
      (labels ((eventsOf i.path log).map Event.news)).getLast (List.cons_ne_nil _ _) := by
  rw [items_follow hnodup hempty, List.getElem?_map, Option.map_eq_some_iff] at h
  obtain ⟨f, hf, rfl⟩ := h
  rw [Item.path_foldl_follow, Item.label_foldl_follow]
  refine ⟨hf, ?_⟩
  exact (List.getLast_eq_getLastD _).symm

/-- If all files take courses, they only go ahead, and a file that is finished stays as it is. -/
theorem label_follow_le {files : List Bytes} (hnodup : files.Nodup) (hempty : [] ∉ files)
    {log : List Event} (hcourses : FollowsCourses files log) {front behind : List Event}
    (hfront : front <+: behind) (hbehind : behind <+: log) {title : Bytes} {k : Nat} {i j : Item}
    (hi : ((start title files).follow front).items[k]? = some i)
    (hj : ((start title files).follow behind).items[k]? = some j) :
    i.path = j.path ∧ i.label.rank ≤ j.label.rank ∧ (i.label.rank = 3 → j.label = i.label) := by
  obtain ⟨hfile, hlabel⟩ := getElem?_items_follow hnodup hempty hi
  obtain ⟨hfile', hlabel'⟩ := getElem?_items_follow hnodup hempty hj
  have hpath : i.path = j.path := Option.some.inj (hfile.symm.trans hfile')
  refine ⟨hpath, ?_⟩
  obtain ⟨course, hcourse, hnews⟩ := hcourses j.path (List.mem_of_getElem? hfile')
  have hmono {front behind : List Event} (h : front <+: behind) :
      labels ((eventsOf j.path front).map Event.news) <+:
        labels ((eventsOf j.path behind).map Event.news) :=
    List.cons_prefix_cons.mpr ⟨rfl, (((prefix_eventsOf h _).map _).filterMap _)⟩
  have hpairwise := hcourse.pairwise_labels
  rw [← hnews] at hpairwise
  rw [hpath] at hlabel
  have hlast := getLast_of_pairwise hpairwise (hmono hbehind) (hmono hfront)
    (List.cons_ne_nil _ _) (List.cons_ne_nil _ _)
  rw [← hlabel, ← hlabel'] at hlast
  rcases hlast with hsame | ⟨hle, hne⟩
  · rw [hsame]
    exact ⟨Nat.le_refl _, fun _ => rfl⟩
  · exact ⟨hle, fun h => absurd h hne⟩

end Board

end ThreeAddress.Progress
