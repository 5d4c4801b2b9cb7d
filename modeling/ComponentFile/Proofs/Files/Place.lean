import ComponentFile.Proofs.Files.Following
import Mathlib.Data.List.TakeWhile

/-!
# Paths of places

A place has one path from the root that has no part it does not need: one slash stands in front of
each name, and no segment is empty, `.` or `..`.

## Main definitions

* `Path.slashed` : a text with a slash in front of each segment.
* `Place.path` : the path that leads from the root to a place.

## Main results

* `Place.text_path` : a slash and a name for every step.
* `Place.parts_path` : the path leads through the names of the place.
* `Place.exists_path_eq` : these are the absolute paths all of whose segments are names.
* `Place.parent?_path` : above the path of a place is the path of the directory that it is in.
-/

namespace ComponentFile

variable {body : List Text} {place : Place}

namespace Path

/-- A text with a slash in front of each segment. -/
def slashed (body : List Text) : Text :=
  body.flatMap fun s ↦ '/' :: s

@[simp] theorem slashed_nil : slashed [] = [] := rfl

@[simp] theorem slashed_cons (s : Text) (body : List Text) :
    slashed (s :: body) = '/' :: (s ++ slashed body) := rfl

/-- Behind the first segment a slash stands in front of each segment. -/
theorem intercalate_cons (s : Text) (body : List Text) :
    ['/'].intercalate (s :: body) = s ++ slashed body := by
  induction body generalizing s with
  | nil => rw [List.intercalate_singleton, slashed_nil, List.append_nil]
  | cons t body ih =>
    rw [List.intercalate_cons_cons, ih, slashed_cons, List.append_assoc, List.singleton_append]

theorem segments_slashed (h : ∀ s ∈ body, '/' ∉ s) : segments ⟨slashed body⟩ = [] :: body := by
  rw [← List.nil_append (slashed body), ← intercalate_cons]
  exact segments_intercalate (List.forall_mem_cons.mpr ⟨List.not_mem_nil, h⟩)
    (List.cons_ne_nil [] body)

theorem trimEnd_of_forall_isIdle (h : ∀ s ∈ body, isIdle s = false) : trimEnd body = body := by
  have hdrop : body.reverse.dropWhile isIdle = body.reverse :=
    List.dropWhile_eq_self_iff.mpr fun hpos ↦
      Bool.eq_false_iff.mp (h _ (List.mem_reverse.mp (List.getElem_mem hpos)))
  rw [trimEnd, hdrop, List.reverse_reverse]

end Path

namespace Place

/-- The path that leads from the root to a place. -/
def path (place : Place) : Path :=
  .ofBody .root (place.map FileName.text)

theorem slash_notMem_names (place : Place) : ∀ s ∈ place.map FileName.text, '/' ∉ s :=
  List.forall_mem_map.mpr fun name _ ↦ name.slash_notMem

theorem isIdle_names (place : Place) : ∀ s ∈ place.map FileName.text, Path.isIdle s = false :=
  List.forall_mem_map.mpr fun name _ ↦ name.isIdle_text

theorem lead_path (place : Place) : place.path.lead = .root :=
  if_pos rfl

/-- A slash and a name stand for every step. -/
theorem text_path (h : place ≠ []) :
    place.path.text = Path.slashed (place.map FileName.text) := by
  obtain ⟨name, place, rfl⟩ := List.exists_cons_of_ne_nil h
  rw [path, List.map_cons, Path.ofBody, Path.intercalate_cons, Path.slashed_cons]

/-- The path leads through the names of the place. -/
theorem parts_path (place : Place) :
    place.path.parts = .root :: place.map fun name ↦ .name name.text := by
  have hnames : (place.map FileName.text).filterMap Path.Part.ofSegment? =
      place.map fun name ↦ .name name.text := by
    rw [List.filterMap_map, ← List.filterMap_eq_map]
    exact List.filterMap_congr fun name _ ↦ name.ofSegment?_text
  rw [path, Path.parts_ofBody .root place.slash_notMem_names nofun, hnames]
  rfl

theorem body_path (h : place ≠ []) : place.path.body = place.map FileName.text := by
  have hsegments : place.path.segments = [] :: place.map FileName.text := by
    rw [← Path.segments_slashed place.slash_notMem_names, ← text_path h]
  rw [Path.body, lead_path, hsegments, List.drop_one, List.tail_cons]

/-- Above the path of a place is the path of the directory that it is in. -/
theorem parent?_path (outer : Place) (name : FileName) :
    (path (outer ++ [name])).parent? = some outer.path := by
  have hne : outer ++ [name] ≠ [] := List.append_ne_nil_of_right_ne_nil outer (List.cons_ne_nil _ _)
  rw [Path.parent?, body_path hne, Path.trimEnd_of_forall_isIdle (isIdle_names _), List.map_append,
    List.map_singleton, List.reverse_append, List.reverse_singleton, List.singleton_append]
  dsimp only
  rw [List.reverse_reverse, Path.trimEnd_of_forall_isIdle outer.isIdle_names, lead_path, path]

/-- An absolute path all of whose segments are names is the path of a place other than the root. -/
theorem exists_path_eq {p : Path} (habsolute : p.isAbsolute = true)
    (hnames : ∀ s ∈ p.body, isFileName s = true) :
    ∃ (outer : Place) (name : FileName), path (outer ++ [name]) = p := by
  obtain ⟨rest, htext⟩ := List.head?_eq_some_iff.mp (Path.isAbsolute_iff.mp habsolute)
  have hbody : p.body = rest.splitOn '/' := by
    have hlead : p.lead = .root := by simpa [Path.isAbsolute] using habsolute
    have hsegments : p.segments = [] :: rest.splitOn '/' := by
      rw [Path.segments, htext]
      exact Path.segments_append_slash [] rest
    rw [Path.body, hlead, hsegments, List.drop_one, List.tail_cons]
  have hmap : (p.body.pmap FileName.mk hnames).map FileName.text = p.body := by
    rw [List.map_pmap, List.pmap_eq_map, List.map_id']
  have hne : p.body.pmap FileName.mk hnames ≠ [] := by
    rw [Ne, List.pmap_eq_nil_iff, hbody]
    exact List.splitOn_ne_nil '/' rest
  refine ⟨_, _, (congrArg path (List.dropLast_concat_getLast hne)).trans ?_⟩
  rw [path, hmap, hbody, Path.ofBody, List.intercalate_splitOn, ← htext]

end Place

end ComponentFile
