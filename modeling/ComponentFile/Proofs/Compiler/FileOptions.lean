import ComponentFile.Proofs.Compiler.LoadPaths

/-!
# Options from several layers

The options for one file come from several layers.  For a script, those of the settings lie over the
defaults, and what names the file lies over both; for a style, the place of the file lies below the
settings.  The highest layer decides about the value of a key, but the key stays where it came
first, so the options of the settings cannot be told from options that are already complete.

## Main definitions

* `scriptDefaultKeys`, `scriptFileKeys` : the keys of the lowest and of the highest layer.
* `scriptDefaultLayer`, `scriptFileLayer`, `styleFileLayer` : what lies below and over the settings.
* `scriptValue?`, `styleValue?` : the value of a key, by what decides about it.

## Main results

* `get?_scriptOptions`, `keys_scriptOptions` : values and order of the options for a script.
* `keys_styleOptions` : the order of the options for a style.
* `scriptOptions_scriptOptions`, `styleOptions_styleOptions` : complete options stay as they are.
* `scriptOptions_and_styleOptions_layered` : the options for both compilers.
-/

namespace ComponentFile

/-! ### Layers -/

/-- The keys that have a default in the options for a script. -/
def scriptDefaultKeys : List Text :=
  ["bare", "header", "sourceRoot", "literate"].map String.toList

/-- The keys that name the file of a script. -/
def scriptFileKeys : List Text :=
  ["filename", "sourceFiles", "generatedFile"].map String.toList

/-- The defaults of the options for a script. -/
def scriptDefaultLayer (path : Path) : Options :=
  ⟨scriptDefaults path, show scriptDefaultKeys.Nodup by decide⟩

/-- The options that name the file of a script. -/
def scriptFileLayer (path relative : Path) : Options :=
  ⟨scriptFileOptions path relative, show scriptFileKeys.Nodup by decide⟩

/-- The option that names the place of the file of a style. -/
def styleFileLayer (cwd path : Path) : Options :=
  ⟨[("url".toList, .string (path.fileUrl cwd))], List.nodup_singleton _⟩

theorem keys_scriptDefaultLayer (path : Path) :
    (scriptDefaultLayer path).keys = scriptDefaultKeys := rfl

theorem keys_scriptFileLayer (path relative : Path) :
    (scriptFileLayer path relative).keys = scriptFileKeys := rfl

/-- The value of a key in the options for a script.  Nothing overrides what names the file, and the
settings override everything else. -/
def scriptValue? (path relative : Path) (user : Options) (key : Text) : Option Json :=
  if key = "filename".toList then some (.string path.text)
  else if key = "sourceFiles".toList then some (.array [.string relative.text])
  else if key = "generatedFile".toList then some (.string relative.generated.text)
  else (user.get? key).or (
    if key = "bare".toList ∨ key = "header".toList ∨ key = "sourceRoot".toList then
      some (.bool false)
    else if key = "literate".toList then some (.bool path.isLiterate)
    else none)

/-- The value of a key in the options for a style, in which the settings override everything. -/
def styleValue? (cwd path : Path) (user : Options) (key : Text) : Option Json :=
  (user.get? key).or (if key = "url".toList then some (.string (path.fileUrl cwd)) else none)

variable (cwd path relative : Path) (user : Options)

theorem scriptOptions_eq_insertAll :
    scriptOptions path relative user =
      ((scriptDefaultLayer path).insertAll user.entries).insertAll
        (scriptFileLayer path relative).entries := by
  have hdefaults : OrderedMap.ofList (scriptDefaultLayer path).entries = scriptDefaultLayer path :=
    OrderedMap.insertAll_entries_of_isPrefix List.nil_prefix
  rw [← hdefaults]
  rfl

theorem styleOptions_eq_insertAll :
    styleOptions cwd path user = (styleFileLayer cwd path).insertAll user.entries := rfl

/-! ### Values -/

/-- The highest layer that has a key decides about its value. -/
theorem get?_scriptOptions_eq_or (key : Text) :
    (scriptOptions path relative user).get? key =
      ((scriptFileLayer path relative).get? key).or
        ((user.get? key).or ((scriptDefaultLayer path).get? key)) := by
  rw [scriptOptions_eq_insertAll, OrderedMap.get?_insertAll, OrderedMap.get?_insertAll]

theorem get?_scriptDefaultLayer (key : Text) :
    (scriptDefaultLayer path).get? key =
      if key = "bare".toList ∨ key = "header".toList ∨ key = "sourceRoot".toList then
        some (.bool false)
      else if key = "literate".toList then some (.bool path.isLiterate)
      else none := by
  change Entries.get? key (scriptDefaults path) = _
  rw [scriptDefaults, Entries.get?_cons, Entries.get?_cons, Entries.get?_cons, Entries.get?_cons,
    ite_or, ite_or]
  rfl

theorem get?_scriptFileLayer (key : Text) :
    (scriptFileLayer path relative).get? key =
      if key = "filename".toList then some (.string path.text)
      else if key = "sourceFiles".toList then some (.array [.string relative.text])
      else if key = "generatedFile".toList then some (.string relative.generated.text)
      else none := by
  change Entries.get? key (scriptFileOptions path relative) = _
  rw [scriptFileOptions, Entries.get?_cons, Entries.get?_cons, Entries.get?_cons]
  rfl

/-- What names the file comes first, then the settings, then the defaults. -/
theorem get?_scriptOptions (key : Text) :
    (scriptOptions path relative user).get? key = scriptValue? path relative user key := by
  rw [get?_scriptOptions_eq_or, get?_scriptDefaultLayer, get?_scriptFileLayer, scriptValue?]
  split_ifs <;> rfl

/-! ### Order -/

/-- The defaults stand first, then the other options of the settings, and last those that name the
file unless they have a place among the settings. -/
theorem keys_scriptOptions :
    (scriptOptions path relative user).keys =
      scriptDefaultKeys ++ user.keys.filter (fun key ↦ decide (key ∉ scriptDefaultKeys)) ++
        scriptFileKeys.filter fun key ↦ decide (key ∉ user.keys) := by
  have hapart : ∀ key ∈ scriptFileKeys, key ∉ scriptDefaultKeys := by decide
  rw [scriptOptions_eq_insertAll, OrderedMap.keys_insertAll_entries,
    OrderedMap.keys_insertAll_entries, keys_scriptDefaultLayer, keys_scriptFileLayer]
  refine congrArg₂ (· ++ ·) (congrArg (_ ++ ·) (List.filter_congr fun key _ ↦ ?_))
    (List.filter_congr fun key hkey ↦ ?_)
  · exact decide_eq_decide.mpr Iff.rfl
  · exact decide_eq_decide.mpr (not_congr (by simp [hapart key hkey]))

theorem keys_styleOptions :
    (styleOptions cwd path user).keys =
      "url".toList :: user.keys.filter fun key ↦ decide (key ≠ "url".toList) := by
  rw [styleOptions_eq_insertAll, OrderedMap.keys_insertAll_entries]
  refine congrArg _ (List.filter_congr fun key _ ↦ decide_eq_decide.mpr (not_congr ?_))
  exact List.mem_singleton

/-! ### Complete options -/

/-- Options for a script that are taken for those of the settings do not change. -/
theorem scriptOptions_scriptOptions :
    scriptOptions path relative (scriptOptions path relative user) =
      scriptOptions path relative user := by
  have hprefix : (scriptDefaultLayer path).keys <+: (scriptOptions path relative user).keys := by
    rw [keys_scriptOptions, List.append_assoc]
    exact List.prefix_append _ _
  rw [scriptOptions_eq_insertAll, OrderedMap.insertAll_entries_of_isPrefix hprefix]
  refine OrderedMap.insertAll_of_forall_get? fun entry hentry ↦ ?_
  rw [get?_scriptOptions_eq_or, OrderedMap.get?_eq_some_iff.mpr hentry]
  rfl

/-- Options for a style that are taken for those of the settings do not change. -/
theorem styleOptions_styleOptions :
    styleOptions cwd path (styleOptions cwd path user) = styleOptions cwd path user := by
  have hprefix : (styleFileLayer cwd path).keys <+: (styleOptions cwd path user).keys := by
    rw [keys_styleOptions]
    exact List.prefix_append _ _
  rw [styleOptions_eq_insertAll, OrderedMap.insertAll_entries_of_isPrefix hprefix]

/-- In the options for a script what names the file comes before the settings, and these come before
the defaults; there are no other keys.  Each key stands once: first the four defaults, then the
other keys of the settings in their order, then those that name the file unless the settings have
them.
In the options for a style the settings decide about every key, and the place of the file stands
first.  Options of both kinds that are taken for those of the settings do not change. -/
theorem scriptOptions_and_styleOptions_layered :
    ((∀ key, (scriptOptions path relative user).get? key = scriptValue? path relative user key) ∧
      (scriptOptions path relative user).keys.Nodup ∧
      (scriptOptions path relative user).keys =
        scriptDefaultKeys ++ user.keys.filter (fun key ↦ decide (key ∉ scriptDefaultKeys)) ++
          scriptFileKeys.filter (fun key ↦ decide (key ∉ user.keys)) ∧
      scriptOptions path relative (scriptOptions path relative user) =
        scriptOptions path relative user) ∧
    (∀ key, (styleOptions cwd path user).get? key = styleValue? cwd path user key) ∧
      (styleOptions cwd path user).keys.Nodup ∧
      (styleOptions cwd path user).keys =
        "url".toList :: user.keys.filter (fun key ↦ decide (key ≠ "url".toList)) ∧
      styleOptions cwd path (styleOptions cwd path user) = styleOptions cwd path user :=
  ⟨⟨get?_scriptOptions path relative user, (scriptOptions path relative user).nodup_keys,
      keys_scriptOptions path relative user, scriptOptions_scriptOptions path relative user⟩,
    get?_styleOptions cwd path user, (styleOptions cwd path user).nodup_keys,
    keys_styleOptions cwd path user, styleOptions_styleOptions cwd path user⟩

end ComponentFile
