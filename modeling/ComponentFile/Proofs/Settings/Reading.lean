import ComponentFile.Proofs.Json.Progress
import ComponentFile.Proofs.Settings.Order
import ComponentFile.Proofs.Settings.Repetition
import ComponentFile.Proofs.Settings.Restatement

/-!
# What a settings file says

The settings, those for coffee scripts and those for sass styles are records.  What is read of a
settings file is what its records say, however they are written, and the keys of dictionaries keep
their order.  A file that gives a field twice is rejected with the name of that field, unless
another problem comes first.

## Main definitions

* `scriptForm`, `styleForm`, `settingsForm` : the records of a settings file.
* `SaysSame` : settings files that say the same in different ways.
* `GivesTwice` : a settings file in which the first problem is a field that is given twice.
* `KeepsOrder` : the dictionaries of the settings have their keys in the order of the file.

## Main results

* `ofText_reads_what_is_said` : what is said is read, and how it is written does not matter.
-/

namespace ComponentFile.Settings

open Json (Key Outline Spells)

variable {room : Nat} {o o' d : Outline} {n : Text} {s : Settings}

/-! ### The records of a settings file -/

/-- The record of the settings for coffee scripts. -/
def scriptForm : Form ScriptSettings :=
  ⟨scriptFields, .scriptSettings, .default⟩

/-- The record of the settings for sass styles. -/
def styleForm : Form StyleSettings :=
  ⟨styleFields, .styleSettings, .default⟩

/-- The record of all settings. -/
def settingsForm : Form Settings :=
  ⟨fields, .settings, .default⟩

theorem isSound_scriptForm : scriptForm.IsSound where
  fieldNamed_eq := by
    simp only [scriptForm, scriptFields, List.forall_mem_cons]
    exact ⟨rfl, rfl, rfl, nofun⟩
  nodup := by decide
  commutes := by
    simp only [scriptForm, scriptFields, List.pairwise_cons, List.forall_mem_cons]
    refine ⟨⟨?_, ?_, nofun⟩, ⟨?_, nofun⟩, nofun, .nil⟩ <;>
      exact Field.commutes_map fun _ _ _ ↦ rfl

theorem isSound_styleForm : styleForm.IsSound where
  fieldNamed_eq := by
    simp only [styleForm, styleFields, List.forall_mem_cons]
    exact ⟨rfl, rfl, rfl, rfl, nofun⟩
  nodup := by decide
  commutes := by
    simp only [styleForm, styleFields, List.pairwise_cons, List.forall_mem_cons]
    refine ⟨⟨?_, ?_, ?_, nofun⟩, ⟨?_, ?_, nofun⟩, ⟨?_, nofun⟩, nofun, .nil⟩ <;>
      exact Field.commutes_map fun _ _ _ ↦ rfl

theorem isSound_settingsForm : settingsForm.IsSound where
  fieldNamed_eq := by
    simp only [settingsForm, fields, List.forall_mem_cons]
    exact ⟨rfl, rfl, rfl, rfl, rfl, nofun⟩
  nodup := by decide
  commutes := by
    simp only [settingsForm, fields, List.pairwise_cons, List.forall_mem_cons]
    refine ⟨⟨?_, ?_, ?_, ?_, nofun⟩, ⟨?_, ?_, ?_, nofun⟩, ⟨?_, ?_, nofun⟩, ⟨?_, nofun⟩, nofun,
      .nil⟩ <;> exact Field.commutes_map fun _ _ _ ↦ rfl

/-! ### Default values -/

/-- The values that the settings for coffee scripts have when they are not given. -/
def scriptDefaults : List Outline :=
  [.scalar (.bool false), .array [.scalar (.string (some "coffee".toList))] true, .object [] true]

/-- The values that the settings for sass styles have when they are not given. -/
def styleDefaults : List Outline :=
  [.scalar (.bool false), .array [.scalar (.string (some "sass".toList))] true, .object [] true,
    .object [] true]

/-- The values that settings have when they are not given. -/
def settingsDefaults : List Outline :=
  [.scalar (.bool false), .scalar (.bool false), .scalar (.string (some "parsed".toList)),
    .object (Form.named scriptFields scriptDefaults) true,
    .object (Form.named styleFields styleDefaults) true]

theorem areDefaults_scriptDefaults : scriptForm.AreDefaults (room + 1) scriptDefaults := by
  simp only [Form.AreDefaults, scriptForm, scriptFields, scriptDefaults, List.zip_cons_cons,
    List.forall_mem_cons]
  exact ⟨⟨_, rfl, rfl⟩, ⟨_, rfl, rfl⟩, ⟨_, rfl, rfl⟩, nofun⟩

theorem areDefaults_styleDefaults : styleForm.AreDefaults (room + 1) styleDefaults := by
  simp only [Form.AreDefaults, styleForm, styleFields, styleDefaults, List.zip_cons_cons,
    List.forall_mem_cons]
  exact ⟨⟨_, rfl, rfl⟩, ⟨_, rfl, rfl⟩, ⟨_, rfl, rfl⟩, ⟨_, rfl, rfl⟩, nofun⟩

theorem areDefaults_settingsDefaults : settingsForm.AreDefaults (room + 2) settingsDefaults := by
  have hscript := isSound_scriptForm.read_named_defaults
    (@areDefaults_scriptDefaults room) (Nat.le_refl 3)
  have hstyle := isSound_styleForm.read_named_defaults
    (@areDefaults_styleDefaults room) (Nat.le_refl 4)
  simp only [Form.AreDefaults, settingsForm, fields, settingsDefaults, List.zip_cons_cons,
    List.forall_mem_cons]
  refine ⟨⟨_, rfl, rfl⟩, ⟨_, rfl, rfl⟩, ⟨_, rfl, rfl⟩, ?_, ?_, nofun⟩
  · exact ⟨_, congrArg (Except.map _) hscript, rfl⟩
  · exact ⟨_, congrArg (Except.map _) hstyle, rfl⟩

/-! ### Fields that are records -/

/-- What is so of the settings for coffee scripts, or of those for sass styles, if the field of the
name holds them. -/
def OfPart (name : Text) (script style : Prop) : Prop :=
  name = "coffee".toList ∧ script ∨ name = "sass".toList ∧ style

section OfPart

variable {script style : Prop}

theorem ofPart_coffee_iff : OfPart "coffee".toList script style ↔ script :=
  ⟨fun h ↦ h.elim And.right fun h ↦ absurd h.1 (by decide), fun h ↦ .inl ⟨rfl, h⟩⟩

theorem ofPart_sass_iff : OfPart "sass".toList script style ↔ style :=
  ⟨fun h ↦ h.elim (fun h ↦ absurd h.1 (by decide)) And.right, fun h ↦ .inr ⟨rfl, h⟩⟩

theorem not_ofPart {name : Text} (hname : name ∉ ["coffee".toList, "sass".toList]) :
    ¬OfPart name script style := by
  rintro (⟨rfl, -⟩ | ⟨rfl, -⟩)
  · exact hname List.mem_cons_self
  · exact hname (List.mem_cons_of_mem _ List.mem_cons_self)

end OfPart

/-! ### The same settings -/

/-- Changes within the value of the field that has the name. -/
def RestatesWithin (name : Text) (o o' : Outline) : Prop :=
  OfPart name (scriptForm.SaysSame scriptDefaults (fun _ _ _ ↦ False) o o')
    (styleForm.SaysSame styleDefaults (fun _ _ _ ↦ False) o o')

/-- The two outlines describe the same settings in different ways. -/
def SaysSame (o o' : Outline) : Prop :=
  settingsForm.SaysSame settingsDefaults RestatesWithin o o'

theorem map_eq_ok_congr {α β : Type} {r r' : Reading α} (h : ∀ a, r = .ok a ↔ r' = .ok a)
    (g : α → β) (b : β) : r.map g = .ok b ↔ r'.map g = .ok b := by
  simp only [map_eq_ok_iff, h]

theorem areRestated_restatesWithin : settingsForm.AreRestated (room + 2) RestatesWithin := by
  simp only [Form.AreRestated, settingsForm, fields, List.forall_mem_cons]
  refine ⟨?_, ?_, ?_, ?_, ?_, nofun⟩ <;> intro o o' h
  · exact absurd h (not_ofPart (by decide))
  · exact absurd h (not_ofPart (by decide))
  · exact absurd h (not_ofPart (by decide))
  · have hsame := ofPart_coffee_iff.mp h
    exact map_eq_ok_congr
      (hsame.read_eq_ok_iff isSound_scriptForm (@areDefaults_scriptDefaults room) nofun) _
  · have hsame := ofPart_sass_iff.mp h
    exact map_eq_ok_congr
      (hsame.read_eq_ok_iff isSound_styleForm (@areDefaults_styleDefaults room) nofun) _

/-- Outlines that say the same describe the same settings. -/
theorem SaysSame.ofOutline_eq_ok_iff (h : SaysSame o o') (s : Settings) :
    ofOutline o = .ok s ↔ ofOutline o' = .ok s :=
  Form.SaysSame.read_eq_ok_iff isSound_settingsForm areDefaults_settingsDefaults
    areRestated_restatesWithin h s

/-! ### Fields that are given twice -/

/-- A field is given twice within the value of the field that has the name. -/
def RepeatsWithin (room : Nat) (name : Text) (o : Outline) (n : Text) : Prop :=
  OfPart name (scriptForm.GivesTwice room (fun _ _ _ ↦ False) o n)
    (styleForm.GivesTwice room (fun _ _ _ ↦ False) o n)

/-- The first problem of the outline is that the field of the name is given twice. -/
def GivesTwice (o : Outline) (n : Text) : Prop :=
  settingsForm.GivesTwice maxDepth (RepeatsWithin (maxDepth - 1)) o n

/-- When settings for coffee scripts are said to give a field twice. -/
theorem scriptForm_read_eq_duplicateField_iff :
    scriptForm.read (room + 1) o = .error (.duplicateField n) ↔
      scriptForm.GivesTwice (room + 1) (fun _ _ _ ↦ False) o n := by
  apply Form.read_eq_duplicateField_iff
  simp only [scriptForm, scriptFields, List.forall_mem_cons, iff_false]
  refine ⟨?_, ?_, ?_, nofun⟩
  · exact fun o ↦ (findsNoRepetition_readBool o).map _
  · exact fun o ↦ (findsNoRepetition_readTexts room o).map _
  · exact fun o ↦ (findsNoRepetition_readEntries findsNoRepetition_readAny room o).map _

/-- When settings for sass styles are said to give a field twice. -/
theorem styleForm_read_eq_duplicateField_iff :
    styleForm.read (room + 1) o = .error (.duplicateField n) ↔
      styleForm.GivesTwice (room + 1) (fun _ _ _ ↦ False) o n := by
  apply Form.read_eq_duplicateField_iff
  simp only [styleForm, styleFields, List.forall_mem_cons, iff_false]
  refine ⟨?_, ?_, ?_, ?_, nofun⟩
  · exact fun o ↦ (findsNoRepetition_readBool o).map _
  · exact fun o ↦ (findsNoRepetition_readTexts room o).map _
  · exact fun o ↦ (findsNoRepetition_readEntries findsNoRepetition_readAny room o).map _
  · exact fun o ↦ (findsNoRepetition_readEntries (fun _ ↦ findsNoRepetition_readText) room o).map _

/-- When settings are said to give a field twice. -/
theorem settingsForm_read_eq_duplicateField_iff :
    settingsForm.read (room + 2) o = .error (.duplicateField n) ↔
      settingsForm.GivesTwice (room + 2) (RepeatsWithin (room + 1)) o n := by
  apply Form.read_eq_duplicateField_iff
  simp only [settingsForm, fields, List.forall_mem_cons]
  refine ⟨?_, ?_, ?_, ?_, ?_, nofun⟩ <;> intro o n
  · exact iff_of_false ((findsNoRepetition_readBool o).map _ n) (not_ofPart (by decide))
  · exact iff_of_false ((findsNoRepetition_readBool o).map _ n) (not_ofPart (by decide))
  · exact iff_of_false ((findsNoRepetition_readMode (room + 1) o).map _ n)
      (not_ofPart (by decide))
  · rw [map_eq_error_iff, RepeatsWithin, ofPart_coffee_iff]
    exact scriptForm_read_eq_duplicateField_iff
  · rw [map_eq_error_iff, RepeatsWithin, ofPart_sass_iff]
    exact styleForm_read_eq_duplicateField_iff

/-! ### The order of keys -/

/-- The keys of dictionaries stand in the settings in the order in which they come first. -/
structure KeepsOrder (o : Outline) (s : Settings) : Prop where
  scriptOptions : ∀ c d, o.member? "coffee".toList = some c → c.member? "options".toList = some d →
    s.coffee.options.keys = d.keys
  styleOptions : ∀ c d, o.member? "sass".toList = some c → c.member? "options".toList = some d →
    s.sass.options.keys = d.keys
  replacements : ∀ c d, o.member? "sass".toList = some c → c.member? "replace".toList = some d →
    s.sass.replacements.keys = d.keys

/-- The dictionaries of settings that are read have their keys in order. -/
theorem keepsOrder_of_read (h : settingsForm.read (room + 2) o = .ok s) : KeepsOrder o s := by
  have hscript : ∀ c, o.member? "coffee".toList = some c →
      scriptForm.read (room + 1) c = .ok s.coffee := by
    intro c hc
    exact isSound_settingsForm.read_eq_of_member? Settings.coffee rfl (fun _ _ ↦ rfl) hc h
  have hstyle : ∀ c, o.member? "sass".toList = some c →
      styleForm.read (room + 1) c = .ok s.sass := by
    intro c hc
    exact isSound_settingsForm.read_eq_of_member? Settings.sass rfl (fun _ _ ↦ rfl) hc h
  refine ⟨?_, ?_, ?_⟩ <;> intro c d hc hd
  · exact keys_of_readEntries (isSound_scriptForm.read_eq_of_member? ScriptSettings.options rfl
      (fun _ _ ↦ rfl) hd (hscript c hc))
  · exact keys_of_readEntries (isSound_styleForm.read_eq_of_member? StyleSettings.options rfl
      (fun _ _ ↦ rfl) hd (hstyle c hc))
  · exact keys_of_readEntries (isSound_styleForm.read_eq_of_member? StyleSettings.replacements rfl
      (fun _ _ ↦ rfl) hd (hstyle c hc))

/-! ### Settings files -/

theorem ofText_eq_ok_iff {t : Text} :
    ofText t = .ok s ↔
      ofOutline (Outline.ofTokens (Json.tokens t)).1 = .ok s ∧
        (Outline.ofTokens (Json.tokens t)).2 = [] := by
  rw [ofText, bind_eq_ok_iff]
  simp only [ending_eq_ok_iff, List.isEmpty_iff]
  constructor
  · rintro ⟨s', hread, hrest, rfl⟩
    exact ⟨hread, hrest⟩
  · rintro ⟨hread, hrest⟩
    exact ⟨s, hread, hrest, rfl⟩

theorem ofText_eq_duplicateField_iff {t : Text} :
    ofText t = .error (.duplicateField n) ↔
      ofOutline (Outline.ofTokens (Json.tokens t)).1 = .error (.duplicateField n) :=
  bind_ending_eq_duplicateField_iff

/-- A file that spells an outline is read as that outline. -/
theorem ofText_eq_ok_iff_of_spells {t : Text} (h : Spells t o) :
    ofText t = .ok s ↔ ofOutline o = .ok s := by
  rw [ofText_eq_ok_iff, h.ofTokens_tokens]
  exact and_iff_left rfl

/-- A file that can be read spells an outline. -/
theorem exists_spells {t : Text} (h : ofText t = .ok s) : ∃ o, Spells t o := by
  obtain ⟨hread, hrest⟩ := ofText_eq_ok_iff.mp h
  exact ⟨_, Json.spells_iff.mpr ⟨Prod.ext rfl hrest, settingsForm.isComplete_of_read hread⟩⟩

/-- The settings of a file are what is said in it.  A file that can be read spells an outline, files
whose outlines say the same are read as the same, and dictionaries keep the order of their keys.  A
field is called given twice just if that is the first problem. -/
theorem ofText_reads_what_is_said :
    (∀ t s, ofText t = .ok s → ∃ o, Spells t o ∧ KeepsOrder o s) ∧
    (∀ t t' o o' s, Spells t o → Spells t' o' → SaysSame o o' →
      (ofText t = .ok s ↔ ofText t' = .ok s)) ∧
    ∀ t n, ofText t = .error (.duplicateField n) ↔
      GivesTwice (Outline.ofTokens (Json.tokens t)).1 n := by
  refine ⟨?_, ?_, ?_⟩
  · intro t s h
    obtain ⟨o, ho⟩ := exists_spells h
    exact ⟨o, ho, keepsOrder_of_read ((ofText_eq_ok_iff_of_spells ho).mp h)⟩
  · intro t t' o o' s ho ho' hsame
    rw [ofText_eq_ok_iff_of_spells ho, ofText_eq_ok_iff_of_spells ho']
    exact hsame.ofOutline_eq_ok_iff s
  · intro t n
    rw [ofText_eq_duplicateField_iff]
    exact settingsForm_read_eq_duplicateField_iff

/-! ### Two files that say the same -/

/-- The options in `objectFile` and `arrayFile`. -/
def sharedOptions : Outline :=
  .object [(.text "b".toList, .scalar (.bool true)), (.text "a".toList, .scalar .null)] true

/-- An object with a member that is no field, with another name of a field, and with few fields. -/
def objectFile : Text :=
  "\x7b\"x\":null,\"emptyExport\":true,".toList ++
    "\"coffee\":\x7b\"options\":\x7b\"b\":true,\"a\":null\x7d\x7d\x7d".toList

/-- The fields up to the last one that `objectFile` gives. -/
def arrayFile : Text :=
  "[false,true,\"parsed\",[false,[\"coffee\"],\x7b\"b\":true,\"a\":null\x7d]]".toList

/-- The outline of `objectFile`. -/
def objectOutline : Outline :=
  .object [(.text "x".toList, .scalar .null), (.text "emptyExport".toList, .scalar (.bool true)),
    (.text "coffee".toList, .object [(.text "options".toList, sharedOptions)] true)] true

/-- The outline of `arrayFile`. -/
def arrayOutline : Outline :=
  .array [.scalar (.bool false), .scalar (.bool true), .scalar (.string (some "parsed".toList)),
    .array (scriptDefaults.take 2 ++ [sharedOptions]) true] true

theorem saysSame_script :
    scriptForm.SaysSame scriptDefaults (fun _ _ _ ↦ False)
      (.object [(.text "options".toList, sharedOptions)] true)
      (.array (scriptDefaults.take 2 ++ [sharedOptions]) true) := by
  refine .trans _ _ _ (.rel _ _ (.addDefault (List.mem_of_getElem? (i := 1) rfl) (by decide))) ?_
  refine .trans _ _ _ (.rel _ _ (.addDefault (List.mem_of_getElem? (i := 0) rfl) (by decide))) ?_
  exact .rel _ _ (@Form.Restates.dropNames _ scriptForm _ _
    (scriptDefaults.take 2 ++ [sharedOptions]) (by decide))

theorem saysSame_objectOutline : SaysSame objectOutline arrayOutline := by
  have hother : SaysSame _ objectOutline := .rel _ _ (.addOther rfl (.scalar .null))
  refine .trans _ _ _ hother.symm ?_
  refine .trans _ _ _ (.rel _ _ (@Form.Restates.rename _ _ _ _ _ _ "empty_export".toList _ rfl)) ?_
  refine .trans _ _ _ (.rel _ _ (.permute (.swap _ _ _))) ?_
  refine .trans _ _ _ (.rel _ _ (.within (f := fields[3]) rfl (.inl ⟨rfl, saysSame_script⟩))) ?_
  refine .trans _ _ _ (.rel _ _ (.permute (.swap _ _ _))) ?_
  refine .trans _ _ _ (.rel _ _ (.addDefault (List.mem_of_getElem? (i := 2) rfl) (by decide))) ?_
  refine .trans _ _ _ (.rel _ _ (.permute (.swap _ _ _))) ?_
  refine .trans _ _ _ (.rel _ _ (.addDefault (List.mem_of_getElem? (i := 0) rfl) (by decide))) ?_
  exact .rel _ _ (@Form.Restates.dropNames _ settingsForm _ _ [.scalar (.bool false),
    .scalar (.bool true), .scalar (.string (some "parsed".toList)),
    .array (scriptDefaults.take 2 ++ [sharedOptions]) true] (by decide))

/-- A file that gives a field by both of its names. -/
def repeatingFile : Text :=
  "\x7b\"emptyExport\":true,\"empty_export\":null\x7d".toList

theorem givesTwice_repeatingFile :
    GivesTwice (Outline.ofTokens (Json.tokens repeatingFile)).1 "empty_export".toList :=
  @Form.GivesTwice.again _ settingsForm maxDepth _
    [(.text "emptyExport".toList, .scalar (.bool true))] [] "empty_export".toList fields[1]
    (.scalar .null) true _ rfl rfl (by decide)

/-- The settings of `arrayFile` can be read, so those of `objectFile` are the same, with the options
in the order of the file.  The field that `repeatingFile` repeats is called by its name. -/
theorem ofText_objectFile_and_repeatingFile :
    (∃ s, ofText arrayFile = .ok s ∧ ofText objectFile = .ok s ∧
      s.coffee.options.keys = ["b".toList, "a".toList]) ∧
    ofText repeatingFile = .error (.duplicateField "empty_export".toList) := by
  obtain ⟨hkeeps, hsame, htwice⟩ := ofText_reads_what_is_said
  have harray : ∃ s, ofText arrayFile = .ok s := ⟨_, rfl⟩
  obtain ⟨s, hs⟩ := harray
  have hobject := (hsame objectFile arrayFile objectOutline arrayOutline s
    (Json.spells_iff.mpr ⟨rfl, rfl⟩) (Json.spells_iff.mpr ⟨rfl, rfl⟩) saysSame_objectOutline).mpr hs
  obtain ⟨o, ho, hkeys⟩ := hkeeps objectFile s hobject
  obtain rfl : o = objectOutline := (Prod.ext_iff.mp (ho.ofTokens_tokens.symm.trans rfl)).1
  exact ⟨⟨s, hs, hobject, hkeys.scriptOptions _ _ rfl rfl⟩,
    (htwice repeatingFile _).mpr givesTwice_repeatingFile⟩

end ComponentFile.Settings
