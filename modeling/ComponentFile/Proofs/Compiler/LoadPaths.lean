import ComponentFile.Compiler.Arguments
import ComponentFile.Compiler.FileOptions
import ComponentFile.Proofs.Dict
import ComponentFile.Proofs.Url.File

/-!
# Where imported styles are looked for

The style compiler is told the place of a component as a URL, and it looks for imported styles in
the directory that the URL leads to before it looks elsewhere.  Whatever characters the path holds,
this is the directory above the path, letter for letter, if only the path does not begin with a
drive letter.  The program's own reader of URLs and one that follows the standard agree on this.

## Main definitions

* `isLoadPath`, `isStyle` : the arguments that name a directory and the one that names a style.
* `switches` : the arguments that are the same for all options.
* `listedDirectories` : the directories that the options list.

## Main results

* `get?_styleOptions` : the options of the settings come before the place of the file.
* `urlArguments_styleOptions` : the URL of a file leads to its directory.
* `sassArguments_styleOptions` : the arguments of the style compiler for a file.
-/

namespace ComponentFile

variable {options user : Options} {start : Url.PathStart} {cwd p : Path} {argument : Text}

/-! ### Kinds of arguments -/

/-- Whether an argument names a directory in which imported styles are looked for. -/
def isLoadPath (argument : Text) : Bool :=
  "--load-path=".toList.isPrefixOf argument

/-- Whether an argument names the style of the output. -/
def isStyle (argument : Text) : Bool :=
  "--style=".toList.isPrefixOf argument

/-- The arguments that are the same for all options that ask for them. -/
def switches : List Text :=
  ["--stdin", "--indented", "--no-source-map", "--no-charset", "--quiet-deps"].map String.toList

/-- The directories that the option `loadPaths` lists; other items are left out. -/
def listedDirectories (options : Options) : List Text :=
  (((options.get? "loadPaths".toList).bind Json.array?).getD []).filterMap Json.string?

theorem isLoadPath_loadPath (directory : Text) : isLoadPath (loadPath directory) = true :=
  List.isPrefixOf_iff_prefix.mpr (List.prefix_append _ _)

theorem isStyle_loadPath (directory : Text) : isStyle (loadPath directory) = false := rfl

theorem loadPathArguments_eq (options : Options) :
    loadPathArguments options = (listedDirectories options).map loadPath := by
  rw [loadPathArguments, listedDirectories, List.map_filterMap]

theorem mem_argumentIf_iff {condition : Bool} {flag : String} :
    argument ∈ argumentIf condition flag ↔ condition = true ∧ argument = flag.toList := by
  cases condition <;> simp [argumentIf]

theorem isStyle_of_mem_styleArguments (h : argument ∈ styleArguments options) :
    isStyle argument = true ∧ isLoadPath argument = false := by
  obtain ⟨t, -, rfl⟩ := Option.map_eq_some_iff.mp (Option.mem_toList.mp h)
  exact ⟨List.isPrefixOf_iff_prefix.mpr (List.prefix_append _ _), rfl⟩

theorem isStyle_of_mem_switches (h : argument ∈ switches) :
    isStyle argument = false ∧ isLoadPath argument = false := by
  revert argument
  decide

/-! ### Arguments in front of the directories -/

/-- The arguments in front of the directories. -/
def frontArguments (options : Options) : List Text :=
  ["--stdin".toList, "--indented".toList, "--no-source-map".toList] ++ styleArguments options ++
    argumentIf (hasFlag options "charset" false) "--no-charset" ++
    argumentIf (hasFlag options "quietDeps" true) "--quiet-deps"

theorem sassArgumentsFrom_of_urlArguments {own : List Text}
    (h : urlArguments start options = .ok own) :
    sassArgumentsFrom start options =
      .ok (frontArguments options ++ own ++ (listedDirectories options).map loadPath) := by
  rw [sassArgumentsFrom, h, loadPathArguments_eq]
  rfl

theorem mem_of_mem_frontArguments (h : argument ∈ frontArguments options) :
    argument ∈ switches ∨ argument ∈ styleArguments options := by
  simp only [frontArguments, List.mem_append, mem_argumentIf_iff, or_assoc] at h
  obtain h | h | ⟨-, rfl⟩ | ⟨-, rfl⟩ := h
  · exact .inl (List.mem_append_left _ h)
  · exact .inr h
  · exact .inl (by decide)
  · exact .inl (by decide)

theorem filter_isLoadPath_frontArguments (options : Options) :
    (frontArguments options).filter isLoadPath = [] := by
  refine List.filter_eq_nil_iff.mpr fun argument h ↦ Bool.eq_false_iff.mp ?_
  obtain h | h := mem_of_mem_frontArguments h
  · exact (isStyle_of_mem_switches h).2
  · exact (isStyle_of_mem_styleArguments h).2

theorem filter_isStyle_frontArguments (options : Options) :
    (frontArguments options).filter isStyle = styleArguments options := by
  have hflag (condition : Bool) (flag : String) (h : flag.toList ∈ switches) :
      (argumentIf condition flag).filter isStyle = [] :=
    List.filter_eq_nil_iff.mpr fun argument hargument ↦ by
      rw [(mem_argumentIf_iff.mp hargument).2, (isStyle_of_mem_switches h).1]
      exact Bool.false_ne_true
  have hstyle : (styleArguments options).filter isStyle = styleArguments options :=
    List.filter_eq_self.mpr fun argument h ↦ (isStyle_of_mem_styleArguments h).1
  rw [frontArguments, List.filter_append, List.filter_append, List.filter_append, hstyle,
    hflag _ "--no-charset" (by decide), hflag _ "--quiet-deps" (by decide), List.append_nil,
    List.append_nil]
  rfl

/-! ### Options for one file -/

/-- The options of the settings come before the place of the file. -/
theorem get?_styleOptions (cwd p : Path) (user : Options) (key : Text) :
    (styleOptions cwd p user).get? key =
      (user.get? key).or (if key = "url".toList then some (.string (p.fileUrl cwd)) else none) := by
  rw [styleOptions, OrderedMap.get?_insertAll]
  congr 1
  exact OrderedMap.get?_insert ∅ "url".toList key _

theorem get?_styleOptions_of_ne {key : Text} (h : key ≠ "url".toList) :
    (styleOptions cwd p user).get? key = user.get? key := by
  rw [get?_styleOptions, if_neg h, Option.or_none]

/-- The URL of a file leads to its directory. -/
theorem urlArguments_styleOptions (start : Url.PathStart) (cwd : Path) (outer : Place)
    (name : FileName)
    (hdrive : ∀ first ∈ (outer ++ [name]).head?, Url.isDrive first.text = false)
    (hurl : "url".toList ∉ user.keys) :
    urlArguments start (styleOptions cwd (Place.path (outer ++ [name])) user) =
      .ok [loadPath outer.path.text] := by
  obtain ⟨url, hparse, hfile⟩ := Place.filePath?_parse?_fileUrl
    (List.append_ne_nil_of_right_ne_nil outer (List.cons_ne_nil name [])) hdrive start cwd
  have hnone : user.get? "url".toList = none := Entries.get?_of_notMem hurl
  rw [urlArguments, get?_styleOptions, hnone, Option.none_or, if_pos rfl, Option.bind_some,
    Json.string?]
  dsimp only
  rw [hparse]
  dsimp only
  rw [componentDirectory, hfile, Option.bind_some, Place.parent?_path]
  rfl

/-- The place of the file changes no other option. -/
theorem frontArguments_styleOptions (cwd p : Path) (user : Options) :
    frontArguments (styleOptions cwd p user) = frontArguments user ∧
      listedDirectories (styleOptions cwd p user) = listedDirectories user := by
  have hget (key : String) (h : key.toList ≠ "url".toList) :
      (styleOptions cwd p user).get? key.toList = user.get? key.toList :=
    get?_styleOptions_of_ne h
  simp only [frontArguments, styleArguments, hasFlag, listedDirectories,
    hget "style" (by decide), hget "charset" (by decide), hget "quietDeps" (by decide),
    hget "loadPaths" (by decide), and_self]

/-- The style compiler looks for imported styles in the directory of the file first and then in the
directories that the settings list, in their order.  All its other arguments are switches and the
style that the settings name, if they do.  The first name of the path must not be a drive letter,
which the standard writes as `C:`; otherwise it does not matter where the path of a URL begins. -/
theorem sassArguments_styleOptions (habsolute : p.isAbsolute = true)
    (hnames : ∀ s ∈ p.body, isFileName s = true)
    (hdrive : ∀ s ∈ p.body.head?, Url.isDrive s = false) (hurl : "url".toList ∉ user.keys)
    (start : Url.PathStart) (cwd : Path) :
    ∃ directory arguments, p.parent? = some directory ∧
      sassArgumentsFrom start (styleOptions cwd p user) = .ok arguments ∧
      arguments.filter isLoadPath = (directory.text :: listedDirectories user).map loadPath ∧
      arguments.filter isStyle = styleArguments user ∧
      ∀ argument ∈ arguments,
        isLoadPath argument = true ∨ isStyle argument = true ∨ argument ∈ switches := by
  obtain ⟨outer, name, rfl⟩ := Place.exists_path_eq habsolute hnames
  have hfirst : ∀ first ∈ (outer ++ [name]).head?, Url.isDrive first.text = false := by
    intro first hfirst
    refine hdrive first.text ?_
    rw [Place.body_path (List.append_ne_nil_of_right_ne_nil outer (List.cons_ne_nil name [])),
      List.head?_map]
    exact Option.mem_map_of_mem _ hfirst
  obtain ⟨hfront, hlisted⟩ := frontArguments_styleOptions cwd (Place.path (outer ++ [name])) user
  refine ⟨outer.path, frontArguments user ++
    (outer.path.text :: listedDirectories user).map loadPath, Place.parent?_path outer name,
    ?_, ?_, ?_, ?_⟩
  · rw [sassArgumentsFrom_of_urlArguments
        (urlArguments_styleOptions start cwd outer name hfirst hurl),
      hfront, hlisted, List.append_assoc, List.map_cons, List.singleton_append]
  · rw [List.filter_append, filter_isLoadPath_frontArguments, List.nil_append]
    exact List.filter_eq_self.mpr (List.forall_mem_map.mpr fun d _ ↦ isLoadPath_loadPath d)
  · rw [List.filter_append, filter_isStyle_frontArguments, List.append_right_eq_self]
    exact List.filter_eq_nil_iff.mpr
      (List.forall_mem_map.mpr fun d _ ↦ Bool.eq_false_iff.mp (isStyle_loadPath d))
  · intro argument h
    obtain h | h := List.mem_append.mp h
    · obtain h | h := mem_of_mem_frontArguments h
      · exact .inr (.inr h)
      · exact .inr (.inl (isStyle_of_mem_styleArguments h).1)
    · obtain ⟨d, -, rfl⟩ := List.mem_map.mp h
      exact .inl (isLoadPath_loadPath d)

/-- A path whose names hold what has a meaning in a URL. -/
def oddPath : Path :=
  ⟨"/a b%2e/C|/%2E/..\\#?ü\t/App.vue".toList⟩

/-- Options with another style, and a list in which not every item is a directory. -/
def oddOptions : Options :=
  .ofList [("style".toList, .string "compressed".toList), ("charset".toList, .bool false),
    ("loadPaths".toList, .array [.string "b".toList, .bool true, .string "--style=a".toList])]

/-- The arguments that name a directory for that path and these options. -/
def oddLoadPaths : List Text :=
  ["--load-path=/a b%2e/C|/%2E/..\\#?ü\t", "--load-path=b", "--load-path=--style=a"].map
    String.toList

theorem oddPath_sassArguments_styleOptions :
    (oddPath.isAbsolute = true ∧ (∀ s ∈ oddPath.body, isFileName s = true) ∧
        (∀ s ∈ oddPath.body.head?, Url.isDrive s = false) ∧ "url".toList ∉ oddOptions.keys) ∧
      (∃ arguments,
        sassArgumentsFrom .behindSlash (styleOptions ⟨[]⟩ oddPath oddOptions) = .ok arguments ∧
          arguments.filter isLoadPath = oddLoadPaths ∧
          arguments.filter isStyle = ["--style=compressed".toList]) ∧
      ∃ arguments, sassArguments (styleOptions ⟨[]⟩ oddPath oddOptions) = .ok arguments ∧
        arguments.filter isLoadPath = oddLoadPaths ∧
        arguments.filter isStyle = ["--style=compressed".toList] := by
  have hnames : ∀ s ∈ oddPath.body, isFileName s = true := by decide +kernel
  have hdrive : ∀ s ∈ oddPath.body.head?, Url.isDrive s = false := by decide +kernel
  have hurl : "url".toList ∉ oddOptions.keys := by decide +kernel
  have hdirectory : oddPath.parent? = some ⟨"/a b%2e/C|/%2E/..\\#?ü\t".toList⟩ := by
    decide +kernel
  have hlisted : ("/a b%2e/C|/%2E/..\\#?ü\t".toList :: listedDirectories oddOptions).map loadPath =
      oddLoadPaths := by
    decide +kernel
  have hstyle : styleArguments oddOptions = ["--style=compressed".toList] := by decide +kernel
  have hall (start : Url.PathStart) :=
    sassArguments_styleOptions (p := oddPath) rfl hnames hdrive hurl start ⟨[]⟩
  simp only [hdirectory, hstyle, Option.some.injEq, exists_and_left, exists_eq_left',
    hlisted] at hall
  obtain ⟨standard, hstandard, hpaths, hstyles, -⟩ := hall .behindSlash
  obtain ⟨own, hown, hownPaths, hownStyles, -⟩ := hall .atSlash
  exact ⟨⟨rfl, hnames, hdrive, hurl⟩, ⟨standard, hstandard, hpaths, hstyles⟩,
    own, hown, hownPaths, hownStyles⟩

end ComponentFile
