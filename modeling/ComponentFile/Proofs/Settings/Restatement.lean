import ComponentFile.Proofs.Json.Spelling
import ComponentFile.Proofs.Settings.Record
import Mathlib.Logic.Relation

/-!
# Records that say the same

A record can be written in many ways: in any order, with members that are no fields, with other
names of its fields, with or without the values that fields have anyway, and without the names.
Each of these changes leaves what is read as it is, and so does any number of them.

## Main definitions

* `Form.Restates` : one change of the way in which a record is written.
* `Form.SaysSame` : any number of such changes, back and forth.

## Main results

* `Form.IsSound.read_named_defaults` : the default values are those of the record without fields.
* `Form.Restates.read_eq_ok_iff` : one change leaves the record as it is.
* `Form.SaysSame.read_eq_ok_iff` : records that say the same are read as the same.
-/

namespace ComponentFile.Settings

open Json (Key Outline)

variable {σ : Type} {fields : List (Field σ)} {f : Field σ} {room : Nat} {key key' : Text}
  {members : List (Key × Outline)} {o o' : Outline} {seen : List Text} {s s' : σ}

/-! ### One member -/

/-- A member that is no field is passed over. -/
theorem readFields_cons_of_other (hfield : fieldNamed? fields key = none)
    (hend : o.isComplete = true) (members : List (Key × Outline)) (s : σ) :
    readFields fields room seen ((.text key, o) :: members) s =
      readFields fields room seen members s := by
  rw [readFields_cons, readMember_eq_ok_iff.mpr (.other hfield hend)]
  rfl

/-- It does not matter by which of its names a field is given. -/
theorem readFields_cons_congr_key (hkey : fieldNamed? fields key' = fieldNamed? fields key)
    (o : Outline) (members : List (Key × Outline)) (s : σ) :
    readFields fields room seen ((.text key', o) :: members) s =
      readFields fields room seen ((.text key, o) :: members) s := by
  have hmember : readMember fields room seen (.text key', o) =
      readMember fields room seen (.text key, o) := by
    simp only [readMember, Key.text?, required, bind, Except.bind, hkey]
  rw [readFields_cons, readFields_cons, hmember]

/-- Values of a field that are read as the same may stand for each other. -/
theorem readFields_cons_congr_value (hfield : fieldNamed? fields key = some f)
    (hread : ∀ u, f.read room o = .ok u → f.read room o' = .ok u)
    (h : readFields fields room seen ((.text key, o) :: members) s = .ok s') :
    readFields fields room seen ((.text key, o') :: members) s = .ok s' := by
  obtain ⟨found, u, htakes, h⟩ := readFields_cons_eq_ok_iff.mp h
  refine readFields_cons_eq_ok_iff.mpr ⟨found, u, ?_, h⟩
  cases htakes with
  | other hfield' hend =>
    rw [hfield] at hfield'
    cases hfield'
  | field hfield' hnew hread' =>
    obtain rfl := Option.some.inj (hfield.symm.trans hfield')
    exact .field hfield hnew (hread u hread')

/-! ### Changes of a record -/

namespace Form

/-- One change of the way in which a record is written.  The list `defaults` has a value for each
field, in their order, and `inner` are the changes within the value of a field. -/
inductive Restates (F : Form σ) (defaults : List Outline)
    (inner : Text → Outline → Outline → Prop) : Outline → Outline → Prop
  /-- The members stand in another order. -/
  | permute {members members' : List (Key × Outline)} (hperm : members.Perm members') :
      Restates F defaults inner (.object members true) (.object members' true)
  /-- A member is added that is no field, with any value. -/
  | addOther {members : List (Key × Outline)} {key : Text} {o : Outline}
      (hkey : fieldNamed? F.fields key = none) (hvalue : o.IsWhole) :
      Restates F defaults inner (.object members true) (.object ((.text key, o) :: members) true)
  /-- A field is given by another of its names. -/
  | rename {members : List (Key × Outline)} {key key' : Text} {o : Outline}
      (hkey : fieldNamed? F.fields key' = fieldNamed? F.fields key) :
      Restates F defaults inner (.object ((.text key, o) :: members) true)
        (.object ((.text key', o) :: members) true)
  /-- A field that is missing is given with its default value. -/
  | addDefault {members : List (Key × Outline)} {f : Field σ} {o : Outline}
      (hdefault : (f, o) ∈ F.fields.zip defaults)
      (hmissing : f.name ∉ givenNames F.fields members) :
      Restates F defaults inner (.object members true)
        (.object ((.text f.name, o) :: members) true)
  /-- The first fields, which are given in their order, are given without their names. -/
  | dropNames {items : List Outline} (hlength : items.length ≤ F.fields.length) :
      Restates F defaults inner (.object (named F.fields items) true) (.array items true)
  /-- The value of a field is written in another way. -/
  | within {members : List (Key × Outline)} {key : Text} {f : Field σ} {o o' : Outline}
      (hkey : fieldNamed? F.fields key = some f) (hvalue : inner f.name o o') :
      Restates F defaults inner (.object ((.text key, o) :: members) true)
        (.object ((.text key, o') :: members) true)

/-- Records that are written in different ways and say the same. -/
def SaysSame (F : Form σ) (defaults : List Outline) (inner : Text → Outline → Outline → Prop) :
    Outline → Outline → Prop :=
  Relation.EqvGen (F.Restates defaults inner)

/-- The values that the fields have when they are not given. -/
def AreDefaults (F : Form σ) (room : Nat) (defaults : List Outline) : Prop :=
  ∀ p ∈ F.fields.zip defaults, ∃ u, p.1.read room p.2 = .ok u ∧ u F.start = F.start

/-- The changes within the values of fields leave what is read as it is. -/
def AreRestated (F : Form σ) (room : Nat) (inner : Text → Outline → Outline → Prop) : Prop :=
  ∀ f ∈ F.fields, ∀ o o', inner f.name o o' → ∀ u, f.read room o = .ok u ↔ f.read room o' = .ok u

variable {F : Form σ} {defaults : List Outline} {inner : Text → Outline → Outline → Prop}

theorem readPositions_eq_of_unchanged {fields' : List (Field σ)} {items : List Outline}
    (hlength : items.length ≤ fields'.length)
    (h : ∀ p ∈ fields'.zip items, ∃ u, p.1.read room p.2 = .ok u ∧ u s = s) :
    readPositions room fields' items s = .ok s := by
  induction fields' generalizing items with
  | nil =>
    rw [List.length_nil, Nat.le_zero, List.length_eq_zero_iff] at hlength
    rw [hlength]
    rfl
  | cons f fields' ih =>
    cases items with
    | nil => rfl
    | cons o items =>
      obtain ⟨⟨u, hread, hu⟩, h⟩ := List.forall_mem_cons.mp h
      rw [readPositions, hread]
      change readPositions room fields' items (u s) = .ok s
      rw [hu]
      exact ih (Nat.le_of_succ_le_succ hlength) h

/-- The record in which all default values are given is the one in which nothing is given. -/
theorem IsSound.read_named_defaults (hF : F.IsSound) (hdefaults : F.AreDefaults room defaults)
    (hlength : defaults.length ≤ F.fields.length) :
    F.read (room + 1) (.object (named F.fields defaults) true) = .ok F.start := by
  rw [← hF.read_array_eq hlength, read_array]
  exact readPositions_eq_of_unchanged hlength hdefaults

/-- A field that is given with its default value may as well be missing. -/
theorem IsSound.read_addDefault (hF : F.IsSound) (hdefaults : F.AreDefaults room defaults)
    (hdefault : (f, o) ∈ F.fields.zip defaults)
    (hmissing : f.name ∉ givenNames F.fields members) :
    readFields F.fields room [] members F.start = .ok s ↔
      readFields F.fields room [] ((.text f.name, o) :: members) F.start = .ok s := by
  obtain ⟨u, hread, hu⟩ := hdefaults _ hdefault
  have hfield := hF.fieldNamed_eq f (List.of_mem_zip hdefault).1
  -- the field counts as seen then, but no other member gives it
  have hnew : ∀ m ∈ members, ∀ n ∈ fieldName? F.fields m, n ∈ [] ↔ n ∈ [f.name] := by
    intro m hm n hn
    refine iff_of_false List.not_mem_nil fun hmem ↦ ?_
    obtain rfl := List.mem_singleton.mp hmem
    exact hmissing (List.mem_filterMap.mpr ⟨m, hm, hn⟩)
  rw [readFields_cons, readMember_eq_ok_iff.mpr (.field hfield List.not_mem_nil hread)]
  change _ ↔ readFields F.fields room [f.name] members (u F.start) = .ok s
  rw [hu]
  exact ⟨readFields_congr_seen hnew, readFields_congr_seen fun m hm n hn ↦ (hnew m hm n hn).symm⟩

/-- One change of the way in which a record is written leaves the record as it is. -/
theorem Restates.read_eq_ok_iff (hF : F.IsSound) (hdefaults : F.AreDefaults room defaults)
    (hinner : F.AreRestated room inner) (h : F.Restates defaults inner o o') :
    F.read (room + 1) o = .ok s ↔ F.read (room + 1) o' = .ok s := by
  cases h with
  | permute hperm =>
    rw [read_object, read_object]
    exact ⟨hF.readFields_perm hperm, hF.readFields_perm hperm.symm⟩
  | addOther hkey hvalue =>
    rw [read_object, read_object, readFields_cons_of_other hkey hvalue.isComplete]
  | rename hkey =>
    rw [read_object, read_object, readFields_cons_congr_key hkey]
  | addDefault hdefault hmissing =>
    rw [read_object, read_object]
    exact hF.read_addDefault hdefaults hdefault hmissing
  | dropNames hlength => rw [hF.read_array_eq hlength]
  | within hkey hvalue =>
    rw [read_object, read_object]
    have hread := hinner _ (List.mem_of_find?_eq_some hkey) _ _ hvalue
    exact ⟨readFields_cons_congr_value hkey fun u ↦ (hread u).mp,
      readFields_cons_congr_value hkey fun u ↦ (hread u).mpr⟩

/-- Records that say the same are read as the same. -/
theorem SaysSame.read_eq_ok_iff (hF : F.IsSound) (hdefaults : F.AreDefaults room defaults)
    (hinner : F.AreRestated room inner) (h : F.SaysSame defaults inner o o') (s : σ) :
    F.read (room + 1) o = .ok s ↔ F.read (room + 1) o' = .ok s := by
  induction h with
  | rel _ _ hstep => exact hstep.read_eq_ok_iff hF hdefaults hinner
  | refl _ => exact Iff.rfl
  | symm _ _ _ ih => exact ih.symm
  | trans _ _ _ _ _ ih₁ ih₂ => exact ih₁.trans ih₂

end Form

end ComponentFile.Settings
