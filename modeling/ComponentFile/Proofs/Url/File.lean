import ComponentFile.Proofs.Files.Place
import ComponentFile.Proofs.Text.Search
import ComponentFile.Proofs.Url.Percent
import ComponentFile.Url.File

/-!
# File URLs lead back to their files

The file URL of a place has one segment for each of its names.  The segments are encoded, so reading
the URL finds the same segments again, and decoding them gives back the path.  Only a drive letter
would be read as something else, and only when it comes first in the path.

## Main definitions

* `Url.IsPlainSegment` : the segments that are read as they are written.
* `Place.encodedNames` : the names of a place as they are written in a URL.

## Main results

* `Url.parse?_slashed` : a file URL of plain segments is read segment by segment.
* `Url.parse?_slashed_of_isDrive` : by the standard a drive letter in front is not kept as written.
* `Place.filePath?_parse?_fileUrl` : the file URL of a place leads to the path of the place.
-/

namespace ComponentFile

open Text

variable {place : Place} {segments : List Text} {start : Url.PathStart} {c d : Char} {s t : Text}

namespace Url

/-- The segments that are read as they are written. -/
def IsPlainSegment (s : Text) : Prop :=
  (∀ c ∈ s, isSegmentChar c = true) ∧ isSingleDot s = false ∧ isDoubleDot s = false

theorem isPlainSegment_nil : IsPlainSegment [] :=
  ⟨nofun, rfl, rfl⟩

theorem isPlainSegment_percentEncode (name : FileName) :
    IsPlainSegment (percentEncode name.text) := by
  have hname := name.ofSegment?_text
  refine ⟨fun c ↦ isSegmentChar_of_mem_percentEncode, isSingleDot_percentEncode fun h ↦ ?_,
    isDoubleDot_percentEncode fun h ↦ ?_⟩
  · rw [h] at hname
    cases hname
  · rw [h] at hname
    cases hname

/-! ### Characters of segments -/

theorem beq_eq_false_of_isSegmentChar (hc : isSegmentChar c = true)
    (hd : isSegmentChar d = false) : (c == d) = false :=
  beq_eq_false_iff_ne.mpr fun heq ↦ Bool.false_ne_true (hd.symm.trans (heq ▸ hc))

theorem isSkipped_of_isSegmentChar (h : isSegmentChar c = true) : isSkipped c = false := by
  rw [isSkipped, beq_eq_false_of_isSegmentChar h rfl, beq_eq_false_of_isSegmentChar h rfl,
    beq_eq_false_of_isSegmentChar h rfl]
  rfl

theorem endsPath_of_isSegmentChar (h : isSegmentChar c = true) : endsPath c = false := by
  rw [endsPath, beq_eq_false_of_isSegmentChar h rfl, beq_eq_false_of_isSegmentChar h rfl]
  rfl

theorem isControlOrSpace_of_isSegmentChar (h : isSegmentChar c = true) :
    isControlOrSpace c = false := by
  rw [isSegmentChar, Bool.and_eq_true, decide_eq_true_eq] at h
  exact decide_eq_false (Nat.not_le.mpr h.1)

theorem IsPlainSegment.slash_notMem (h : IsPlainSegment s) : '/' ∉ s :=
  fun hmem ↦ Bool.false_ne_true (h.1 '/' hmem)

/-- Between plain segments there are slashes only. -/
theorem eq_false_of_mem_slashed {p : Char → Bool} (h : ∀ s ∈ segments, IsPlainSegment s)
    (hslash : p '/' = false) (hp : ∀ {c}, isSegmentChar c = true → p c = false) :
    ∀ c ∈ Path.slashed segments, p c = false := by
  intro c hc
  obtain ⟨s, hs, hc⟩ := List.mem_flatMap.mp hc
  obtain rfl | hc := List.mem_cons.mp hc
  · exact hslash
  · exact hp ((h s hs).1 c hc)

theorem dropWhile_eq_self {p : Char → Bool} (h : ∀ c ∈ t, p c = false) : t.dropWhile p = t :=
  dropWhile_append_eq (s := []) nofun fun c hc ↦ h c (List.mem_of_mem_head? hc)

/-! ### Paths -/

theorem visible_eq_self (h : ∀ c ∈ t, isSkipped c = false) : visible t = t :=
  List.filter_eq_self.mpr fun c hc ↦ by rw [h c hc]; rfl

/-- Behind the first segment plain segments are kept one by one. -/
theorem resolveFrom_of_isPlainSegment (h : ∀ s ∈ segments, IsPlainSegment s) (hasDrive : Bool)
    {done : List Text} (hdone : done ≠ []) :
    resolveFrom true hasDrive done segments = ⟨done.reverse ++ segments, hasDrive⟩ := by
  induction segments generalizing done with
  | nil => rw [resolveFrom, List.append_nil]
  | cons s segments ih =>
    obtain ⟨⟨hchars, hsingle, hdouble⟩, hrest⟩ := List.forall_mem_cons.mp h
    have hvisible : visible s = s := visible_eq_self fun c hc ↦
      isSkipped_of_isSegmentChar (hchars c hc)
    have hempty : done.isEmpty = false := List.isEmpty_eq_false_iff.mpr hdone
    rw [resolveFrom]
    simp only [hvisible, hempty, hsingle, hdouble, Bool.and_false, Bool.false_and,
      Bool.false_eq_true, if_false]
    rw [ih hrest (List.cons_ne_nil s done), List.reverse_cons, List.append_assoc,
      List.singleton_append]

/-- A drive letter is split off only before a tab or a line end. -/
theorem splitDrive?_eq_none (h : ∀ c ∈ s, isSkipped c = false) : splitDrive? s = none := by
  rw [splitDrive?, dropWhile_eq_self h]
  cases s with
  | nil => rfl
  | cons c rest =>
    have hrest : ∀ d ∈ rest, isSkipped d = false := (List.forall_mem_cons.mp h).2
    dsimp only
    rw [dropWhile_eq_self hrest]
    split
    · next gap behind =>
      rw [hrest gap (List.mem_cons_of_mem _ List.mem_cons_self), Bool.and_false, Bool.false_and]
      rfl
    · rfl

/-- At the front a drive letter is written with a colon, and any other plain segment is kept. -/
theorem resolveFrom_nil_cons (h : ∀ s ∈ t :: segments, IsPlainSegment s) :
    resolveFrom true false [] (t :: segments) =
      if isDrive t then ⟨(t.take 1 ++ [':']) :: segments, true⟩ else ⟨t :: segments, false⟩ := by
  obtain ⟨⟨hchars, hsingle, hdouble⟩, hrest⟩ := List.forall_mem_cons.mp h
  have hskipped : ∀ c ∈ t, isSkipped c = false := fun c hc ↦
    isSkipped_of_isSegmentChar (hchars c hc)
  rw [resolveFrom]
  simp only [List.isEmpty_nil, Bool.and_self, Bool.true_and, if_true, splitDrive?_eq_none hskipped,
    visible_eq_self hskipped, hsingle, hdouble, Bool.false_eq_true, if_false]
  rw [resolveFrom_of_isPlainSegment hrest true (List.cons_ne_nil _ []),
    resolveFrom_of_isPlainSegment hrest false (List.cons_ne_nil _ [])]
  rfl

/-- Behind the slash the first segment comes first. -/
theorem resolve_cut_behindSlash (h : ∀ s ∈ t :: segments, IsPlainSegment s) :
    resolve true (PathStart.behindSlash.cut (Path.slashed (t :: segments))) =
      if isDrive t then ⟨(t.take 1 ++ [':']) :: segments, true⟩ else ⟨t :: segments, false⟩ := by
  have hsegments : (t ++ Path.slashed segments).splitOn '/' = t :: segments := by
    rw [← Path.intercalate_cons]
    exact Path.segments_intercalate (fun s hs ↦ (h s hs).slash_notMem) (List.cons_ne_nil t segments)
  rw [PathStart.cut, Path.slashed_cons, List.drop_one, List.tail_cons, resolve, hsegments,
    resolveFrom_nil_cons h]

/-- At the slash an empty segment comes first, which is no drive and no dots. -/
theorem resolve_cut_atSlash (h : ∀ s ∈ segments, IsPlainSegment s) :
    resolve true (PathStart.atSlash.cut (Path.slashed segments)) = ⟨[] :: segments, false⟩ := by
  have hsegments : (Path.slashed segments).splitOn '/' = [] :: segments :=
    Path.segments_slashed fun s hs ↦ (h s hs).slash_notMem
  rw [PathStart.cut, resolve, hsegments]
  exact resolveFrom_of_isPlainSegment h false (List.cons_ne_nil [] [])

/-- Wherever the path begins, its segments are those that are written. -/
theorem trimFront_resolve_cut_slashed (start : PathStart) (h : ∀ s ∈ segments, IsPlainSegment s)
    (hdrive : ∀ s ∈ segments.head?, isDrive s = false) :
    trimFront (resolve true (start.cut (Path.slashed segments))).segments =
      trimFront segments := by
  cases start with
  | atSlash => rw [resolve_cut_atSlash h]; rfl
  | behindSlash =>
    cases segments with
    | nil => rfl
    | cons s segments =>
      rw [resolve_cut_behindSlash h, if_neg (Bool.eq_false_iff.mp (hdrive s rfl))]

/-! ### Reading -/

theorem trimmed_eq_self (h : ∀ c ∈ t, isControlOrSpace c = false) : trimmed t = t := by
  rw [trimmed, dropWhile_eq_self h, dropWhile_eq_self fun c hc ↦ h c (List.mem_reverse.mp hc),
    List.reverse_reverse]

theorem withSlashes_eq_self (h : '\\' ∉ t) : withSlashes t = t := by
  have hmap : ∀ c ∈ t, (if c = '\\' then '/' else c) = c :=
    fun c hc ↦ if_neg fun (heq : c = '\\') ↦ h (heq ▸ hc)
  rw [withSlashes, List.map_congr_left hmap, List.map_id']

/-- The place of the host is empty, so the whole text behind it is the path. -/
theorem parseFile?_slashed (start : PathStart) (segments : List Text) :
    parseFile? start ('/' :: '/' :: Path.slashed segments) =
      some ⟨.none, some <| trimFront
        (resolve true (start.cut (Path.slashed segments))).segments⟩ := by
  have htake : (Path.slashed segments).takeWhile (· != '/') = [] := by
    cases segments <;> rfl
  have hdrop : (Path.slashed segments).dropWhile (· != '/') = Path.slashed segments := by
    cases segments <;> rfl
  have hafter (t : Text) : afterSlash? ('/' :: t) = some t := rfl
  simp only [parseFile?, hafter, htake, hdrop]
  rfl

theorem parse?_eq_parseFile? (start : PathStart) (h : ∀ s ∈ segments, IsPlainSegment s) :
    parse? start ("file://".toList ++ Path.slashed segments) =
      parseFile? start ('/' :: '/' :: Path.slashed segments) := by
  have htrimmed := trimmed_eq_self (t := "file://".toList ++ Path.slashed segments) <|
    List.forall_mem_append.mpr ⟨by simp [isControlOrSpace],
      eq_false_of_mem_slashed h rfl isControlOrSpace_of_isSegmentChar⟩
  have hscheme : splitScheme? ("file://".toList ++ Path.slashed segments) =
      some ("file".toList, '/' :: '/' :: Path.slashed segments) := rfl
  -- the slashes behind the scheme stand in front of two empty segments
  have hplain : ∀ s ∈ [] :: [] :: segments, IsPlainSegment s :=
    List.forall_mem_cons.mpr ⟨isPlainSegment_nil,
      List.forall_mem_cons.mpr ⟨isPlainSegment_nil, h⟩⟩
  have htake : ('/' :: '/' :: Path.slashed segments).takeWhile (fun c ↦ !endsPath c) =
      '/' :: '/' :: Path.slashed segments :=
    List.takeWhile_eq_self_iff.mpr fun c hc ↦
      congrArg Bool.not (eq_false_of_mem_slashed hplain rfl endsPath_of_isSegmentChar c hc)
  have hslash : '\\' ∉ '/' :: '/' :: Path.slashed segments := fun hmem ↦ by
    cases eq_false_of_mem_slashed (p := (· == '\\')) hplain rfl
      (fun hc ↦ beq_eq_false_of_isSegmentChar hc rfl) '\\' hmem
  rw [parse?, htrimmed, hscheme, Option.bind_eq_bind, Option.bind_some]
  dsimp only
  rw [if_pos rfl, htake, withSlashes_eq_self hslash]

/-- A file URL of plain segments is read segment by segment when it does not begin with a drive
letter. -/
theorem parse?_slashed (start : PathStart) (h : ∀ s ∈ segments, IsPlainSegment s)
    (hdrive : ∀ s ∈ segments.head?, isDrive s = false) :
    parse? start ("file://".toList ++ Path.slashed segments) =
      some ⟨.none, some (trimFront segments)⟩ := by
  rw [parse?_eq_parseFile? start h, parseFile?_slashed,
    trimFront_resolve_cut_slashed start h hdrive]

/-- By the standard a drive letter that comes first is written with a colon, whichever of its two
signs stands there. -/
theorem parse?_slashed_of_isDrive (h : ∀ s ∈ t :: segments, IsPlainSegment s)
    (hdrive : isDrive t = true) :
    parse? .behindSlash ("file://".toList ++ Path.slashed (t :: segments)) =
      some ⟨.none, some ((t.take 1 ++ [':']) :: segments)⟩ := by
  rw [parse?_eq_parseFile? .behindSlash h, parseFile?_slashed, resolve_cut_behindSlash h,
    if_pos hdrive]
  -- the first segment is not empty, so nothing is cut off in front
  obtain ⟨c, d, rfl, -, -⟩ := exists_eq_of_isDrive hdrive
  rfl

end Url

namespace Place

/-- The names of a place as they are written in a URL. -/
def encodedNames (place : Place) : List Text :=
  place.map fun name ↦ Url.percentEncode name.text

theorem isPlainSegment_of_mem_encodedNames (h : s ∈ place.encodedNames) :
    Url.IsPlainSegment s := by
  obtain ⟨name, -, rfl⟩ := List.mem_map.mp h
  exact Url.isPlainSegment_percentEncode name

theorem trimFront_encodedNames (h : place ≠ []) :
    Url.trimFront place.encodedNames = place.encodedNames := by
  obtain ⟨name, place, rfl⟩ := List.exists_cons_of_ne_nil h
  have hempty : ¬(Url.percentEncode name.text).isEmpty = true := by
    rw [List.isEmpty_iff]
    exact Url.percentEncode_ne_nil name.text_ne_nil
  rw [encodedNames, List.map_cons, Url.trimFront, List.dropWhile_cons_of_neg hempty]

/-- The encoded names are decoded to the bytes of the path. -/
theorem flatMap_percentDecode_encodedNames (place : Place) :
    place.encodedNames.flatMap (fun segment ↦ 0x2F :: Url.percentDecode segment) =
      encode (Path.slashed (place.map FileName.text)) := by
  induction place with
  | nil => rfl
  | cons name place ih =>
    rw [encodedNames, List.map_cons, List.flatMap_cons, ← encodedNames, ih,
      Url.percentDecode_percentEncode, List.map_cons, Path.slashed_cons, encode_cons,
      encode_append]
    rfl

theorem absoluteParts_path (place : Place) (cwd : Path) :
    place.path.absoluteParts cwd = place.map fun name ↦ .name name.text := by
  have habsolute : place.path.isAbsolute = true := by rw [Path.isAbsolute, lead_path]; rfl
  have hnames : ∀ part ∈ place.map fun name ↦ Path.Part.name name.text,
      (part != .root && part != .current) = true :=
    List.forall_mem_map.mpr fun name _ ↦ rfl
  rw [Path.absoluteParts, habsolute, if_pos rfl, parts_path, List.filter_cons_of_neg (by decide),
    List.filter_eq_self.mpr hnames]

theorem fileUrl_path (h : place ≠ []) (cwd : Path) :
    place.path.fileUrl cwd = "file://".toList ++ Path.slashed place.encodedNames := by
  obtain ⟨name, place, rfl⟩ := List.exists_cons_of_ne_nil h
  have hempty : ¬(path (name :: place)).text.isEmpty = true := Bool.false_ne_true
  rw [Path.fileUrl, if_neg hempty, absoluteParts_path, List.map_cons]
  dsimp only
  rw [List.flatMap_cons, List.flatMap_map, encodedNames, List.map_cons, Path.slashed_cons,
    Path.slashed, List.flatMap_map]
  rfl

/-- The file URL of a place leads to the path of the place, unless this begins with a drive
letter. -/
theorem filePath?_parse?_fileUrl (h : place ≠ [])
    (hdrive : ∀ name ∈ place.head?, Url.isDrive name.text = false) (start : Url.PathStart)
    (cwd : Path) :
    ∃ url, Url.parse? start (place.path.fileUrl cwd) = some url ∧
      url.filePath? = some place.path := by
  have hencoded : ∀ s ∈ place.encodedNames.head?, Url.isDrive s = false := by
    rw [encodedNames, List.head?_map]
    intro s hs
    obtain ⟨name, hname, rfl⟩ := Option.mem_map.mp hs
    exact Url.isDrive_percentEncode (hdrive name hname)
  refine ⟨⟨.none, some place.encodedNames⟩, ?_, ?_⟩
  · rw [fileUrl_path h,
      Url.parse?_slashed start (fun s ↦ isPlainSegment_of_mem_encodedNames) hencoded,
      trimFront_encodedNames h]
  · have hlocal : Url.Host.none.isLocal = true := rfl
    rw [Url.filePath?, if_pos hlocal, Option.map_some, flatMap_percentDecode_encodedNames,
      decodeLossy_encode, ← text_path h]

end Place

end ComponentFile
