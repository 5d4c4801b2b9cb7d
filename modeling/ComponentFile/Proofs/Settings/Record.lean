import ComponentFile.Settings.Record
import Mathlib.Data.List.Pairwise

/-!
# What a written record says

An object gives fields of a record in any order, by any of their names, and it may hold members that
are no fields.  Each member changes its own part of the record, or nothing, so what is read does not
depend on the order, and the fields may as well be given without their names, in a fixed order.

## Main definitions

* `readMember`, `Takes` : how a single member is read.
* `Field.Commutes` : fields that change different parts of a record.
* `fieldName?`, `givenNames` : the name of the field that a member gives, and those of members.
* `Form`, `Form.IsSound` : the kinds of records, and those whose fields do not interfere.
* `Form.named` : values of the first fields as members of an object.

## Main results

* `readFields_cons` : an object is read member by member.
* `readFields_congr_seen` : of the fields that were given, only those matter that come again.
* `Form.IsSound.readFields_perm` : the order of the members does not matter.
* `Form.IsSound.readFields_named` : values that are given with names and without.
* `Form.IsSound.exists_eq_of_mem` : what a member says stands in the record.
-/

namespace ComponentFile.Settings

open Json (Key Outline)

variable {σ : Type}

/-! ### Member by member -/

section Members

variable (fields : List (Field σ)) (room : Nat)

/-- Read a member behind the fields that have been seen.  The answer is which fields have been seen
then, and what the member does to the record. -/
def readMember (seen : List Text) (m : Key × Outline) : Reading (List Text × (σ → σ)) := do
  let key ← required m.1.text?
  match fieldNamed? fields key with
  | some field =>
    if seen.contains field.name then .error (.duplicateField field.name)
    else
      let change ← field.read room m.2
      return (field.name :: seen, change)
  | none => if m.2.isComplete then .ok (seen, id) else .error .malformed

/-- The members that can be read, as new fields or as members that are no fields. -/
inductive Takes : List Text → Key × Outline → List Text → (σ → σ) → Prop
  | field {seen : List Text} {key : Text} {o : Outline} {f : Field σ} {u : σ → σ}
      (hfield : fieldNamed? fields key = some f) (hnew : f.name ∉ seen)
      (hread : f.read room o = .ok u) : Takes seen (.text key, o) (f.name :: seen) u
  | other {seen : List Text} {key : Text} {o : Outline} (hfield : fieldNamed? fields key = none)
      (hend : o.isComplete = true) : Takes seen (.text key, o) seen id

/-- The name of the field that a member gives. -/
def fieldName? (m : Key × Outline) : Option Text :=
  (m.1.text?.bind (fieldNamed? fields)).map Field.name

/-- The names of the fields that members give, in their order. -/
def givenNames (members : List (Key × Outline)) : List Text :=
  members.filterMap (fieldName? fields)

end Members

variable {fields : List (Field σ)} {f : Field σ} {room : Nat} {key n : Text} {m : Key × Outline}
  {members members' : List (Key × Outline)} {o : Outline} {seen seen' : List Text} {s s' : σ}
  {u : σ → σ}

theorem bind_eq_ok_iff {α β : Type} {r : Reading α} {next : α → Reading β} {b : β} :
    r >>= next = .ok b ↔ ∃ a, r = .ok a ∧ next a = .ok b := by
  cases r with
  | error e => exact ⟨nofun, nofun⟩
  | ok a => exact ⟨fun h ↦ ⟨a, rfl, h⟩, fun ⟨_, ha, h⟩ ↦ Except.ok.inj ha ▸ h⟩

theorem map_eq_ok_iff {α β : Type} {r : Reading α} {g : α → β} {b : β} :
    r.map g = .ok b ↔ ∃ a, r = .ok a ∧ g a = b := by
  cases r with
  | error e => exact ⟨nofun, nofun⟩
  | ok a =>
    constructor
    · intro h
      exact ⟨a, rfl, Except.ok.inj h⟩
    · rintro ⟨_, ⟨⟩, rfl⟩
      rfl

theorem map_eq_error_iff {α β : Type} {r : Reading α} {g : α → β} {e : Problem} :
    r.map g = .error e ↔ r = .error e := by
  cases r <;> simp [Except.map]

theorem ending_eq_ok_iff {α : Type} {closed : Bool} {a b : α} :
    ending closed a = .ok b ↔ closed = true ∧ a = b := by
  cases closed <;> simp [ending]

/-- What does not fit has the wrong type or is no JSON. -/
theorem reject_eq_error {α : Type} (wanted : Wanted) (o : Outline) :
    (∃ found, (reject wanted o : Reading α) = .error (.wrongType found wanted)) ∨
      (reject wanted o : Reading α) = .error .malformed := by
  fun_cases reject wanted o <;> simp

/-- An object is read member by member. -/
theorem readFields_cons (fields : List (Field σ)) (room : Nat) (seen : List Text)
    (m : Key × Outline) (members : List (Key × Outline)) (s : σ) :
    readFields fields room seen (m :: members) s =
      readMember fields room seen m >>= fun found ↦
        readFields fields room found.1 members (found.2 s) := by
  obtain ⟨key, o⟩ := m
  rw [readFields, readMember]
  cases key.text? with
  | none => rfl
  | some key =>
    simp only [required, bind, Except.bind]
    cases fieldNamed? fields key with
    | none => cases o.isComplete <;> rfl
    | some f =>
      by_cases hnew : f.name ∈ seen
      · simp [hnew]
      · cases hread : f.read room o <;> simp [hnew, hread, pure, Except.pure]

theorem readMember_eq_ok_iff :
    readMember fields room seen m = .ok (seen', u) ↔ Takes fields room seen m seen' u := by
  obtain ⟨key, o⟩ := m
  constructor
  · intro h
    cases key with
    | unpaired => cases h
    | missing => cases h
    | text key =>
      simp only [readMember, Key.text?, required, bind, Except.bind] at h
      cases hfield : fieldNamed? fields key with
      | none =>
        rw [hfield] at h
        by_cases hend : o.isComplete = true
        · simp only [hend, if_true] at h
          cases h
          exact .other hfield hend
        · simp [hend] at h
      | some f =>
        rw [hfield] at h
        by_cases hnew : f.name ∈ seen
        · simp [hnew] at h
        · cases hread : f.read room o with
          | error e => simp [hnew, hread] at h
          | ok change =>
            simp only [hread, List.contains_eq_mem, hnew, decide_false, pure, Except.pure] at h
            cases h
            exact .field hfield hnew hread
  · intro h
    cases h with
    | field hfield hnew hread =>
      simp [readMember, required, Key.text?, hfield, hnew, hread, bind, Except.bind, pure,
        Except.pure]
    | other hfield hend =>
      simp [readMember, required, Key.text?, hfield, hend, bind, Except.bind]

/-- What is read is what the first member does, and then what the others do. -/
theorem readFields_cons_eq_ok_iff :
    readFields fields room seen (m :: members) s = .ok s' ↔
      ∃ seen' u, Takes fields room seen m seen' u ∧
        readFields fields room seen' members (u s) = .ok s' := by
  rw [readFields_cons, bind_eq_ok_iff]
  simp only [Prod.exists, readMember_eq_ok_iff]

theorem fieldName?_text (hfield : fieldNamed? fields key = some f) (o : Outline) :
    fieldName? fields (.text key, o) = some f.name := by
  rw [fieldName?, Key.text?, Option.bind_some, hfield, Option.map_some]

/-- The fields that have been seen behind members are those that the members give. -/
theorem Takes.givenNames_cons {found : List Text} (h : Takes fields room seen m found u)
    (members : List (Key × Outline)) :
    (givenNames fields (m :: members)).reverse ++ seen =
      (givenNames fields members).reverse ++ found := by
  cases h with
  | other hfield hend =>
    rw [givenNames, List.filterMap_cons_none (by rw [fieldName?, Key.text?, Option.bind_some,
      hfield, Option.map_none]), givenNames]
  | @field key o f u hfield hnew hread =>
    rw [givenNames, List.filterMap_cons_some (fieldName?_text hfield o), List.reverse_cons,
      List.append_assoc, List.singleton_append, givenNames]

/-- How a member is read depends on whether its own field was seen, and not on the others. -/
theorem Takes.congr_seen {found : List Text} (h : Takes fields room seen m found u)
    (hseen : ∀ n ∈ fieldName? fields m, n ∈ seen ↔ n ∈ seen') :
    ∃ found', Takes fields room seen' m found' u ∧
      ∀ n, (n ∈ seen ↔ n ∈ seen') → (n ∈ found ↔ n ∈ found') := by
  cases h with
  | other hfield hend => exact ⟨seen', .other hfield hend, fun n hn ↦ hn⟩
  | @field key o f u hfield hnew hread =>
    have hnew' : f.name ∉ seen' := fun hmem ↦ hnew ((hseen _ (fieldName?_text hfield o)).mpr hmem)
    refine ⟨f.name :: seen', .field hfield hnew' hread, fun n hn ↦ ?_⟩
    rw [List.mem_cons, List.mem_cons, hn]

/-- Of the fields that were seen, only those matter that come again. -/
theorem readFields_congr_seen
    (hseen : ∀ m ∈ members, ∀ n ∈ fieldName? fields m, n ∈ seen ↔ n ∈ seen')
    (h : readFields fields room seen members s = .ok s') :
    readFields fields room seen' members s = .ok s' := by
  induction members generalizing seen seen' s with
  | nil => exact h
  | cons m members ih =>
    obtain ⟨hm, hmembers⟩ := List.forall_mem_cons.mp hseen
    obtain ⟨found, u, htakes, h⟩ := readFields_cons_eq_ok_iff.mp h
    obtain ⟨found', htakes', hfound⟩ := htakes.congr_seen hm
    exact readFields_cons_eq_ok_iff.mpr
      ⟨found', u, htakes', ih (fun m' hm' n hn ↦ hfound n (hmembers m' hm' n hn)) h⟩

/-! ### Fields that do not interfere -/

/-- The two fields change different parts of the record. -/
def Field.Commutes (f g : Field σ) : Prop :=
  ∀ room o o' u v, f.read room o = .ok u → g.read room o' = .ok v → ∀ s, u (v s) = v (u s)

instance : Std.Symm (Field.Commutes (σ := σ)) where
  symm _ _ h := fun room o o' u v hu hv s ↦ (h room o' o v u hv hu s).symm

/-- Fields change different parts if it does not matter which of two values is set first. -/
theorem Field.commutes_map {α β : Type} {n n' : Text} {aliases aliases' : List Text}
    {read : Nat → Outline → Reading α} {read' : Nat → Outline → Reading β} {set : α → σ → σ}
    {set' : β → σ → σ} (h : ∀ a b s, set a (set' b s) = set' b (set a s)) :
    Commutes ⟨n, aliases, fun room o ↦ (read room o).map set⟩
      ⟨n', aliases', fun room o ↦ (read' room o).map set'⟩ := by
  intro room o o' u v hu hv s
  obtain ⟨a, -, rfl⟩ := map_eq_ok_iff.mp hu
  obtain ⟨b, -, rfl⟩ := map_eq_ok_iff.mp hv
  exact h a b s

/-! ### Kinds of records -/

/-- A kind of record: its fields in their fixed order, what is said to be wanted in its place, and
the record without any field. -/
structure Form (σ : Type) where
  fields : List (Field σ)
  wanted : Wanted
  start : σ

namespace Form

/-- Read a record of this kind. -/
def read (F : Form σ) (room : Nat) (o : Outline) : Reading σ :=
  readRecord F.fields F.wanted F.start room o

/-- Values of the first fields, as members of an object. -/
def named (fields : List (Field σ)) (items : List Outline) : List (Key × Outline) :=
  fields.zipWith (fun f o ↦ (.text f.name, o)) items

/-- Each field is found by its name, and different fields change different parts of the record. -/
structure IsSound (F : Form σ) : Prop where
  fieldNamed_eq : ∀ f ∈ F.fields, fieldNamed? F.fields f.name = some f
  nodup : (F.fields.map Field.name).Nodup
  commutes : F.fields.Pairwise Field.Commutes

variable {F : Form σ} {g : Field σ} {m' : Key × Outline} {found : List Text} {v : σ → σ}

theorem IsSound.commutes_of_ne (hF : F.IsSound) (hf : f ∈ F.fields) (hg : g ∈ F.fields)
    (hne : f.name ≠ g.name) : f.Commutes g :=
  hF.commutes.forall hf hg fun heq ↦ hne (heq ▸ rfl)

/-- Two members that stand side by side may change their places. -/
theorem IsSound.takes_swap (hF : F.IsSound) (hm : Takes F.fields room seen m seen' u)
    (hm' : Takes F.fields room seen' m' found v) :
    ∃ seen'' found', Takes F.fields room seen m' seen'' v ∧ Takes F.fields room seen'' m found' u ∧
      (∀ n, n ∈ found ↔ n ∈ found') ∧ ∀ s, v (u s) = u (v s) := by
  cases hm with
  | other hfield hend =>
    exact ⟨found, found, hm', .other hfield hend, fun n ↦ Iff.rfl, fun s ↦ rfl⟩
  | @field key o f u hfield hnew hread =>
    cases hm' with
    | other hfield' hend' =>
      exact ⟨seen, f.name :: seen, .other hfield' hend', .field hfield hnew hread,
        fun n ↦ Iff.rfl, fun s ↦ rfl⟩
    | @field key' o' g v hfield' hnew' hread' =>
      rw [List.mem_cons, not_or] at hnew'
      obtain ⟨hne, hnew'⟩ := hnew'
      have hnew₂ : f.name ∉ g.name :: seen := by
        rw [List.mem_cons, not_or]
        exact ⟨Ne.symm hne, hnew⟩
      refine ⟨g.name :: seen, f.name :: g.name :: seen, .field hfield' hnew' hread',
        .field hfield hnew₂ hread, fun n ↦ by simp [or_left_comm], ?_⟩
      exact hF.commutes_of_ne (List.mem_of_find?_eq_some hfield')
        (List.mem_of_find?_eq_some hfield) hne room o' o v u hread' hread

/-- The order of the members does not matter. -/
theorem IsSound.readFields_perm (hF : F.IsSound) (hperm : members.Perm members')
    (h : readFields F.fields room seen members s = .ok s') :
    readFields F.fields room seen members' s = .ok s' := by
  induction hperm generalizing seen s with
  | nil => exact h
  | cons m _ ih =>
    obtain ⟨found, u, htakes, h⟩ := readFields_cons_eq_ok_iff.mp h
    exact readFields_cons_eq_ok_iff.mpr ⟨found, u, htakes, ih h⟩
  | swap m m' members =>
    obtain ⟨seen₁, u, htakes, h⟩ := readFields_cons_eq_ok_iff.mp h
    obtain ⟨seen₂, v, htakes', h⟩ := readFields_cons_eq_ok_iff.mp h
    obtain ⟨seen₃, seen₄, hfirst, hsecond, hseen, hcomm⟩ := hF.takes_swap htakes htakes'
    -- the same fields have been seen in another order, and the members behind cannot tell
    rw [hcomm] at h
    exact readFields_cons_eq_ok_iff.mpr ⟨seen₃, v, hfirst, readFields_cons_eq_ok_iff.mpr
      ⟨seen₄, u, hsecond, readFields_congr_seen (fun _ _ n _ ↦ hseen n) h⟩⟩
  | trans _ _ ih₁ ih₂ => exact ih₂ (ih₁ h)

/-- Values of the first fields in their order are read with their names as they are without. -/
theorem readFields_named {fields' : List (Field σ)} {items : List Outline}
    (hnamed : ∀ f ∈ fields', fieldNamed? fields f.name = some f)
    (hnodup : (fields'.map Field.name).Nodup) (hseen : ∀ f ∈ fields', f.name ∉ seen)
    (hlength : items.length ≤ fields'.length) (s : σ) :
    readFields fields room seen (named fields' items) s = readPositions room fields' items s := by
  induction fields' generalizing items seen s with
  | nil =>
    rw [List.length_nil, Nat.le_zero, List.length_eq_zero_iff] at hlength
    rw [hlength]
    rfl
  | cons f fields' ih =>
    cases items with
    | nil => rfl
    | cons o items =>
      obtain ⟨hf, hnamed⟩ := List.forall_mem_cons.mp hnamed
      obtain ⟨hnew, hseen⟩ := List.forall_mem_cons.mp hseen
      rw [List.map_cons, List.nodup_cons] at hnodup
      have hseen' : ∀ g ∈ fields', g.name ∉ f.name :: seen := by
        intro g hg
        rw [List.mem_cons, not_or]
        exact ⟨fun heq ↦ hnodup.1 (heq ▸ List.mem_map_of_mem hg), hseen g hg⟩
      have hrest := ih hnamed hnodup.2 hseen' (Nat.le_of_succ_le_succ hlength)
      rw [named, List.zipWith_cons_cons, readPositions, readFields_cons]
      cases hread : f.read room o with
      | error e =>
        simp [readMember, required, Key.text?, hf, hnew, hread, bind, Except.bind]
      | ok u =>
        rw [readMember_eq_ok_iff.mpr (.field hf hnew hread)]
        exact hrest (u s)

/-- What a field did to the record is not undone by the members behind it. -/
theorem IsSound.exists_readFields_eq (hF : F.IsSound) (hf : f ∈ F.fields)
    (hread : f.read room o = .ok u) (hseen : f.name ∈ seen)
    (h : readFields F.fields room seen members (u s) = .ok s') :
    ∃ s'', readFields F.fields room seen members s = .ok s'' ∧ s' = u s'' := by
  induction members generalizing seen s with
  | nil => exact ⟨s, rfl, (Except.ok.inj h).symm⟩
  | cons m members ih =>
    obtain ⟨found, v, htakes, h⟩ := readFields_cons_eq_ok_iff.mp h
    have hcomm : v (u s) = u (v s) ∧ f.name ∈ found := by
      cases htakes with
      | other hfield hend => exact ⟨rfl, hseen⟩
      | @field key o' g v hfield hnew hread' =>
        have hne : g.name ≠ f.name := fun heq ↦ hnew (heq ▸ hseen)
        have hcommutes := hF.commutes_of_ne (List.mem_of_find?_eq_some hfield) hf hne
        exact ⟨hcommutes room o' o v u hread' hread s, List.mem_cons_of_mem _ hseen⟩
    rw [hcomm.1] at h
    obtain ⟨s'', hrest, hs'⟩ := ih hcomm.2 h
    exact ⟨s'', readFields_cons_eq_ok_iff.mpr ⟨found, v, htakes, hrest⟩, hs'⟩

/-- What a member says about a field stands in the record. -/
theorem IsSound.exists_eq_of_mem (hF : F.IsSound) (hfield : fieldNamed? F.fields key = some f)
    (hm : (.text key, o) ∈ members) (h : readFields F.fields room seen members s = .ok s') :
    ∃ u s'', f.read room o = .ok u ∧ s' = u s'' := by
  induction members generalizing seen s with
  | nil => cases hm
  | cons m members ih =>
    obtain ⟨found, u, htakes, h⟩ := readFields_cons_eq_ok_iff.mp h
    rcases List.mem_cons.mp hm with rfl | hm
    · cases htakes with
      | other hfield' hend =>
        rw [hfield] at hfield'
        cases hfield'
      | field hfield' hnew hread =>
        obtain rfl := Option.some.inj (hfield.symm.trans hfield')
        obtain ⟨s'', -, hs'⟩ := hF.exists_readFields_eq (List.mem_of_find?_eq_some hfield) hread
          List.mem_cons_self h
        exact ⟨u, s'', hread, hs'⟩
    · exact ih hm h

/-! ### Objects and arrays -/

theorem read_object (F : Form σ) (room : Nat) (members : List (Key × Outline)) :
    F.read (room + 1) (.object members true) = readFields F.fields room [] members F.start := by
  rw [read, readRecord]
  cases readFields F.fields room [] members F.start <;> rfl

theorem read_array (F : Form σ) (room : Nat) (items : List Outline) :
    F.read (room + 1) (.array items true) = readPositions room F.fields items F.start := by
  rw [read, readRecord]
  cases readPositions room F.fields items F.start <;> rfl

/-- A record that can be read goes on to its end. -/
theorem isComplete_of_read (h : F.read room o = .ok s) : o.isComplete = true := by
  cases o with
  | scalar v => rfl
  | broken => cases room <;> cases h
  | array items closed =>
    cases room with
    | zero => cases h
    | succ room =>
      obtain ⟨s', -, hend⟩ := bind_eq_ok_iff.mp h
      exact (ending_eq_ok_iff.mp hend).1
  | object members closed =>
    cases room with
    | zero => cases h
    | succ room =>
      obtain ⟨s', -, hend⟩ := bind_eq_ok_iff.mp h
      exact (ending_eq_ok_iff.mp hend).1

/-- An array gives the first fields in their order. -/
theorem IsSound.read_array_eq (hF : F.IsSound) {items : List Outline}
    (hlength : items.length ≤ F.fields.length) (room : Nat) :
    F.read (room + 1) (.array items true) =
      F.read (room + 1) (.object (named F.fields items) true) := by
  rw [read_array, read_object, readFields_named hF.fieldNamed_eq hF.nodup
    (fun _ _ ↦ List.not_mem_nil) hlength]

end Form

end ComponentFile.Settings
