import ComponentFile.Proofs.Settings.Record
import ComponentFile.Settings.Reader

/-!
# Fields that are given twice

A record is read up to its first problem.  That problem is a field which is given twice if all in
front of it can be read and its field stands in front of it already, by whatever name, or if its
value is a record in which this is so.

## Main definitions

* `Form.GivesTwice` : a field is given twice, and this is the first problem.
* `FindsNoRepetition` : the readings that never call a field given twice.

## Main results

* `readFields_eq_error_iff`, `readPositions_eq_error_iff` : where the first problem of a record is.
* `Form.read_eq_duplicateField_iff` : when a record is said to give a field twice.
-/

namespace ComponentFile.Settings

open Json (Key Outline)

variable {σ : Type} {fields : List (Field σ)} {f : Field σ} {room : Nat} {n : Text}
  {m : Key × Outline} {members before : List (Key × Outline)} {items : List Outline}
  {o : Outline} {seen : List Text} {s s' : σ} {e : Problem}

/-! ### The first problem -/

/-- The members behind others are read with the fields that those give. -/
theorem readFields_append (hbefore : readFields fields room seen before s = .ok s')
    (members : List (Key × Outline)) :
    readFields fields room seen (before ++ members) s =
      readFields fields room ((givenNames fields before).reverse ++ seen) members s' := by
  induction before generalizing seen s with
  | nil =>
    obtain rfl := Except.ok.inj hbefore
    rfl
  | cons m before ih =>
    obtain ⟨found, u, htakes, hbefore⟩ := readFields_cons_eq_ok_iff.mp hbefore
    rw [List.cons_append, readFields_cons, readMember_eq_ok_iff.mpr htakes,
      htakes.givenNames_cons before]
    exact ih hbefore

/-- An object is read up to the first member that cannot be read. -/
theorem readFields_eq_error_iff :
    readFields fields room seen members s = .error e ↔
      ∃ before m behind s', members = before ++ m :: behind ∧
        readFields fields room seen before s = .ok s' ∧
        readMember fields room ((givenNames fields before).reverse ++ seen) m = .error e := by
  constructor
  · intro h
    induction members generalizing seen s with
    | nil => cases h
    | cons m members ih =>
      rw [readFields_cons] at h
      cases hm : readMember fields room seen m with
      | error e' =>
        rw [hm] at h
        obtain rfl := Except.error.inj h
        exact ⟨[], m, members, s, rfl, rfl, hm⟩
      | ok found =>
        rw [hm] at h
        -- the problem lies behind this member, whose field counts as given there
        have htakes := readMember_eq_ok_iff.mp hm
        obtain ⟨before, m', behind, s', rfl, hbefore, hm'⟩ := ih h
        rw [← htakes.givenNames_cons before] at hm'
        exact ⟨m :: before, m', behind, s', rfl,
          readFields_cons_eq_ok_iff.mpr ⟨_, _, htakes, hbefore⟩, hm'⟩
  · rintro ⟨before, m, behind, s', rfl, hbefore, hm⟩
    rw [readFields_append hbefore, readFields_cons, hm]
    rfl

/-- An array is read up to the first item that cannot be read. -/
theorem readPositions_eq_error_iff (hplain : e ≠ .malformed) :
    readPositions room fields items s = .error e ↔
      ∃ before o behind f s', items = before ++ o :: behind ∧
        readPositions room fields before s = .ok s' ∧
        fields[before.length]? = some f ∧ f.read room o = .error e := by
  induction items generalizing fields s with
  | nil => simp [readPositions]
  | cons o items ih =>
    cases fields with
    | nil =>
      refine ⟨fun h ↦ absurd (Except.error.inj h).symm hplain, ?_⟩
      rintro ⟨before, o', behind, f, s', -, -, hf, -⟩
      cases hf
    | cons f fields =>
      rw [readPositions]
      simp only [List.cons_eq_append_iff]
      cases hread : f.read room o with
      | error e' =>
        constructor
        · intro h
          obtain rfl := Except.error.inj h
          exact ⟨[], o, items, f, s, .inl ⟨rfl, rfl⟩, rfl, rfl, hread⟩
        · rintro ⟨before, o', behind, g, s', ⟨rfl, h⟩ | ⟨tail, rfl, -⟩, hbefore, hg, he⟩
          · obtain ⟨rfl, rfl⟩ := List.cons.inj h
            obtain rfl := Option.some.inj hg
            obtain rfl := Except.error.inj (hread.symm.trans he)
            rfl
          · rw [readPositions, hread] at hbefore
            cases hbefore
      | ok u =>
        refine (ih (s := u s)).trans ⟨?_, ?_⟩
        · rintro ⟨before, o', behind, g, s', rfl, hbefore, hg, he⟩
          refine ⟨o :: before, o', behind, g, s', .inr ⟨before, rfl, rfl⟩, ?_, hg, he⟩
          rw [readPositions, hread]
          exact hbefore
        · rintro ⟨before, o', behind, g, s', ⟨rfl, h⟩ | ⟨tail, rfl, rfl⟩, hbefore, hg, he⟩
          · obtain ⟨rfl, rfl⟩ := List.cons.inj h
            obtain rfl := Option.some.inj hg
            rw [hread] at he
            cases he
          · rw [readPositions, hread] at hbefore
            exact ⟨tail, o', behind, g, s', rfl, hbefore, hg, he⟩

/-- A member gives a field twice if its field was seen, or if that happens within its value. -/
theorem readMember_eq_duplicateField_iff :
    readMember fields room seen m = .error (.duplicateField n) ↔
      ∃ key f, m.1 = .text key ∧ fieldNamed? fields key = some f ∧
        (f.name ∈ seen ∧ f.name = n ∨
          f.name ∉ seen ∧ f.read room m.2 = .error (.duplicateField n)) := by
  obtain ⟨key, o⟩ := m
  cases key with
  | unpaired => simp [readMember, required, Key.text?, bind, Except.bind]
  | missing => simp [readMember, required, Key.text?, bind, Except.bind]
  | text key =>
    suffices h : readMember fields room seen (.text key, o) = .error (.duplicateField n) ↔
        ∃ f, fieldNamed? fields key = some f ∧ (f.name ∈ seen ∧ f.name = n ∨
          f.name ∉ seen ∧ f.read room o = .error (.duplicateField n)) by
      rw [h]
      constructor
      · rintro ⟨f, hf⟩
        exact ⟨key, f, rfl, hf⟩
      · rintro ⟨key', f, hkey, hf⟩
        obtain rfl := Key.text.inj hkey
        exact ⟨f, hf⟩
    simp only [readMember, Key.text?, required, bind, Except.bind]
    cases fieldNamed? fields key with
    | none => cases o.isComplete <;> simp
    | some f =>
      by_cases hseen : f.name ∈ seen
      · simp [hseen]
      · cases hread : f.read room o <;> simp [hseen, hread, pure, Except.pure]

/-! ### Readings without repetition -/

/-- The reading does not end with a field that is given twice. -/
def FindsNoRepetition {α : Type} (r : Reading α) : Prop :=
  ∀ n, r ≠ .error (.duplicateField n)

section Plain

variable {α β : Type} {r : Reading α}

theorem FindsNoRepetition.bind (hr : FindsNoRepetition r) {next : α → Reading β}
    (hnext : ∀ a, FindsNoRepetition (next a)) : FindsNoRepetition (r >>= next) := by
  intro n h
  cases r with
  | error e => exact hr n (congrArg Except.error (Except.error.inj h))
  | ok a => exact hnext a n h

theorem FindsNoRepetition.map (hr : FindsNoRepetition r) (g : α → β) :
    FindsNoRepetition (r.map g) := by
  intro n h
  cases r with
  | error e => exact hr n (congrArg Except.error (Except.error.inj h))
  | ok a => cases h

theorem findsNoRepetition_ok (a : α) : FindsNoRepetition (.ok a : Reading α) :=
  nofun

theorem findsNoRepetition_malformed : FindsNoRepetition (.error .malformed : Reading α) :=
  nofun

theorem findsNoRepetition_required (a : Option α) : FindsNoRepetition (required a) := by
  cases a <;> exact nofun

theorem findsNoRepetition_ending (closed : Bool) (a : α) : FindsNoRepetition (ending closed a) := by
  cases closed <;> exact nofun

theorem bind_ending_eq_duplicateField_iff {r : Reading α} {closed : Bool} :
    r >>= ending closed = .error (.duplicateField n) ↔ r = .error (.duplicateField n) := by
  cases r with
  | error e => exact Iff.rfl
  | ok a => exact iff_of_false (findsNoRepetition_ending closed a n) nofun

theorem findsNoRepetition_reject (wanted : Wanted) (o : Outline) :
    FindsNoRepetition (reject wanted o : Reading α) := by
  intro n h
  rcases reject_eq_error wanted o with ⟨found, herror⟩ | herror <;> cases h.symm.trans herror

theorem findsNoRepetition_readBool (o : Outline) : FindsNoRepetition (readBool o) := by
  fun_cases readBool o with
  | case1 b => exact findsNoRepetition_ok b
  | case2 => exact findsNoRepetition_reject _ _

theorem findsNoRepetition_readText (o : Outline) : FindsNoRepetition (readText o) := by
  fun_cases readText o with
  | case1 t => exact findsNoRepetition_ok t
  | case2 => exact findsNoRepetition_reject _ _

theorem findsNoRepetition_mapM {read : Outline → Reading α}
    (hread : ∀ o, FindsNoRepetition (read o)) (items : List Outline) :
    FindsNoRepetition (items.mapM read) := by
  induction items with
  | nil => exact findsNoRepetition_ok []
  | cons o items ih =>
    rw [List.mapM_cons]
    exact (hread o).bind fun a ↦ ih.bind fun as ↦ findsNoRepetition_ok (a :: as)

theorem findsNoRepetition_readTexts (room : Nat) (o : Outline) :
    FindsNoRepetition (readTexts room o) := by
  fun_cases readTexts room o with
  | case1 => exact findsNoRepetition_malformed
  | case2 room items closed =>
    exact (findsNoRepetition_mapM findsNoRepetition_readText items).bind fun texts ↦
      findsNoRepetition_ending closed texts
  | case3 => exact findsNoRepetition_reject _ _

theorem findsNoRepetition_readMembers {read : Outline → Reading α}
    (hread : ∀ o, FindsNoRepetition (read o)) (members : List (Key × Outline)) :
    FindsNoRepetition (readMembers read members) := by
  induction members with
  | nil => exact findsNoRepetition_ok []
  | cons m members ih =>
    obtain ⟨key, o⟩ := m
    rw [readMembers]
    exact (findsNoRepetition_required _).bind fun key ↦ (hread o).bind fun a ↦
      ih.bind fun entries ↦ findsNoRepetition_ok ((key, a) :: entries)

theorem findsNoRepetition_readEntries {read : Nat → Outline → Reading α}
    (hread : ∀ room o, FindsNoRepetition (read room o)) (room : Nat) (o : Outline) :
    FindsNoRepetition (readEntries read room o) := by
  fun_cases readEntries read room o with
  | case1 => exact findsNoRepetition_malformed
  | case2 room members closed =>
    exact (findsNoRepetition_readMembers (hread room) members).bind fun entries ↦
      findsNoRepetition_ending closed _
  | case3 => exact findsNoRepetition_reject _ _

theorem findsNoRepetition_readAny (room : Nat) (o : Outline) :
    FindsNoRepetition (readAny room o) :=
  findsNoRepetition_required _

theorem findsNoRepetition_modeNamed (name : Text) : FindsNoRepetition (modeNamed name) := by
  intro n
  fun_cases modeNamed name <;> exact nofun

theorem findsNoRepetition_readMode (room : Nat) (o : Outline) :
    FindsNoRepetition (readMode room o) := by
  fun_cases readMode room o with
  | case1 _ name => exact findsNoRepetition_modeNamed name
  | case2 room name o rest closed =>
    refine (findsNoRepetition_modeNamed name).bind fun mode ↦ ?_
    split
    · split
      · exact findsNoRepetition_ending closed mode
      · exact findsNoRepetition_malformed
    · exact findsNoRepetition_reject _ _
  | case3 => exact findsNoRepetition_malformed

end Plain

/-! ### Records -/

namespace Form

/-- The field of the name `n` is given twice, and all in front of its second value can be read.
What repeats a field within the value of a field is `inner`. -/
inductive GivesTwice (F : Form σ) (room : Nat) (inner : Text → Outline → Text → Prop) :
    Outline → Text → Prop
  /-- A member gives a field that was given. -/
  | again {before behind : List (Key × Outline)} {key : Text} {f : Field σ} {o : Outline}
      {closed : Bool} {s : σ} (hbefore : F.read room (.object before true) = .ok s)
      (hkey : fieldNamed? F.fields key = some f) (hgiven : f.name ∈ givenNames F.fields before) :
      GivesTwice F room inner (.object (before ++ (.text key, o) :: behind) closed) f.name
  /-- A field is given twice within the value of a member. -/
  | within {before behind : List (Key × Outline)} {key n : Text} {f : Field σ} {o : Outline}
      {closed : Bool} {s : σ} (hbefore : F.read room (.object before true) = .ok s)
      (hkey : fieldNamed? F.fields key = some f) (hnew : f.name ∉ givenNames F.fields before)
      (hvalue : inner f.name o n) :
      GivesTwice F room inner (.object (before ++ (.text key, o) :: behind) closed) n
  /-- A field is given twice within a value that is given without its name. -/
  | item {before behind : List Outline} {n : Text} {f : Field σ} {o : Outline} {closed : Bool}
      {s : σ} (hbefore : F.read room (.array before true) = .ok s)
      (hfield : F.fields[before.length]? = some f) (hvalue : inner f.name o n) :
      GivesTwice F room inner (.array (before ++ o :: behind) closed) n

variable {F : Form σ} {inner : Text → Outline → Text → Prop}

/-- When an object is said to give a field twice. -/
theorem read_object_eq_duplicateField_iff (closed : Bool) :
    F.read (room + 1) (.object members closed) = .error (.duplicateField n) ↔
      ∃ before m behind s, members = before ++ m :: behind ∧
        F.read (room + 1) (.object before true) = .ok s ∧
        readMember F.fields room (givenNames F.fields before).reverse m =
          .error (.duplicateField n) := by
  rw [read, readRecord, bind_ending_eq_duplicateField_iff, readFields_eq_error_iff]
  simp only [read_object, List.append_nil]

/-- When an array is said to give a field twice. -/
theorem read_array_eq_duplicateField_iff (closed : Bool) :
    F.read (room + 1) (.array items closed) = .error (.duplicateField n) ↔
      ∃ before o behind f s, items = before ++ o :: behind ∧
        F.read (room + 1) (.array before true) = .ok s ∧
        F.fields[before.length]? = some f ∧ f.read room o = .error (.duplicateField n) := by
  rw [read, readRecord, bind_ending_eq_duplicateField_iff,
    readPositions_eq_error_iff Problem.noConfusion]
  simp only [read_array]

/-- When a record is said to give a field twice. -/
theorem read_eq_duplicateField_iff
    (hinner : ∀ f ∈ F.fields, ∀ o n,
      f.read room o = .error (.duplicateField n) ↔ inner f.name o n) :
    F.read (room + 1) o = .error (.duplicateField n) ↔ F.GivesTwice (room + 1) inner o n := by
  constructor
  · intro h
    cases o with
    | scalar v => exact absurd h (findsNoRepetition_reject F.wanted (.scalar v) n)
    | broken => exact absurd h (findsNoRepetition_reject F.wanted .broken n)
    | array items closed =>
      obtain ⟨before, o, behind, f, s, rfl, hbefore, hfield, hread⟩ :=
        (read_array_eq_duplicateField_iff closed).mp h
      exact .item hbefore hfield ((hinner f (List.mem_of_getElem? hfield) o n).mp hread)
    | object members closed =>
      obtain ⟨before, ⟨key, o⟩, behind, s, rfl, hbefore, hm⟩ :=
        (read_object_eq_duplicateField_iff closed).mp h
      obtain ⟨key, f, rfl, hkey, ⟨hgiven, rfl⟩ | ⟨hnew, hread⟩⟩ :=
        readMember_eq_duplicateField_iff.mp hm
      · exact .again hbefore hkey (List.mem_reverse.mp hgiven)
      · exact .within hbefore hkey (fun hgiven ↦ hnew (List.mem_reverse.mpr hgiven))
          ((hinner f (List.mem_of_find?_eq_some hkey) o n).mp hread)
  · intro h
    cases h with
    | again hbefore hkey hgiven =>
      exact (read_object_eq_duplicateField_iff _).mpr ⟨_, _, _, _, rfl, hbefore,
        readMember_eq_duplicateField_iff.mpr
          ⟨_, _, rfl, hkey, .inl ⟨List.mem_reverse.mpr hgiven, rfl⟩⟩⟩
    | within hbefore hkey hnew hvalue =>
      have hread := (hinner _ (List.mem_of_find?_eq_some hkey) _ _).mpr hvalue
      exact (read_object_eq_duplicateField_iff _).mpr ⟨_, _, _, _, rfl, hbefore,
        readMember_eq_duplicateField_iff.mpr
          ⟨_, _, rfl, hkey, .inr ⟨fun hgiven ↦ hnew (List.mem_reverse.mp hgiven), hread⟩⟩⟩
    | item hbefore hfield hvalue =>
      exact (read_array_eq_duplicateField_iff _).mpr ⟨_, _, _, _, _, rfl, hbefore, hfield,
        (hinner _ (List.mem_of_getElem? hfield) _ _).mpr hvalue⟩

end Form

end ComponentFile.Settings
