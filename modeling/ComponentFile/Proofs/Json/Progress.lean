import ComponentFile.Proofs.Json.Spelling

/-!
# How far a value has been read

While a value is read, the stack of open arrays and objects says which tokens have been read so
far: they spell the finished parts and begin those that are open.  Each token keeps this up, so a
value that has been read to its end is spelled by the tokens that were read.

## Main definitions

* `Outline.Opened`, `Outline.HasRead` : the tokens that lead into open parts, and to a state.
* `Outline.Progress.Follows` : what the tokens up to a token have led to.

## Main results

* `Outline.follows_step` : a token is added to those that have been read.
* `Outline.HasRead.readFrom_spelling` : a value that is complete is spelled by its tokens.
* `spells_iff` : a text spells the value that is read from it, if that is all it holds.
-/

namespace ComponentFile.Json

namespace Outline

variable {frames : List Frame} {expected : Expectation} {consumed : List Token} {o : Outline}
  {items done : List Outline} {members doneMembers : List (Key × Outline)} {key : Key}

/-! ### Spellings of lists -/

@[simp] theorem itemsSpelling_append (items items' : List Outline) :
    itemsSpelling (items ++ items') = itemsSpelling items ++ itemsSpelling items' := by
  induction items with
  | nil => rfl
  | cons o items ih =>
    rw [List.cons_append, itemsSpelling, itemsSpelling, ih, List.cons_append, List.append_assoc]

@[simp] theorem membersSpelling_append (members members' : List (Key × Outline)) :
    membersSpelling (members ++ members') =
      membersSpelling members ++ membersSpelling members' := by
  induction members with
  | nil => rfl
  | cons m members ih =>
    obtain ⟨key, o⟩ := m
    rw [List.cons_append, membersSpelling, membersSpelling, ih, List.cons_append, List.cons_append,
      List.cons_append, List.append_assoc]

/-! ### Values that are cut off -/

theorem isComplete_cutOff (frames : List Frame) (h : o.isComplete = false) :
    (cutOff frames o).isComplete = false := by
  induction frames generalizing o with
  | nil => exact h
  | cons frame frames ih => cases frame <;> exact ih rfl

theorem isComplete_cutOff_cons (frame : Frame) (frames : List Frame) (o : Outline) :
    (cutOff (frame :: frames) o).isComplete = false := by
  cases frame <;> exact isComplete_cutOff frames rfl

/-- Where reading stops, the value has no end. -/
theorem isComplete_stopped (frames : List Frame) (expected : Expectation) :
    (stopped frames expected).isComplete = false := by
  have hframe : ∀ frame : Frame, (frame.outline false).isComplete = false := by
    rintro (done | ⟨done, key⟩) <;> rfl
  fun_cases stopped frames expected with
  | case1 => exact isComplete_cutOff frames rfl
  | case2 => exact isComplete_cutOff frames rfl
  | case3 => rfl
  | case4 frame frames => exact isComplete_cutOff frames (hframe frame)

/-! ### The tokens that have been read -/

/-- The tokens lead into the open parts, up to the place of a value. -/
inductive Opened : List Token → List Frame → Prop
  | nil : Opened [] []
  | items {outer : List Token} {frames : List Frame} {done : List Outline}
      (houter : Opened outer frames) (hdone : ∀ o ∈ done, o.IsWhole) :
      Opened (outer ++ .beginArray :: (itemsSpelling done.reverse ++ [Token.comma]).drop 1)
        (.items done :: frames)
  | members {outer : List Token} {frames : List Frame} {done : List (Key × Outline)} {key : Key}
      (houter : Opened outer frames) (hdone : ∀ m ∈ done, m.1 ≠ .missing ∧ m.2.IsWhole)
      (hkey : key ≠ .missing) :
      Opened (outer ++ .beginObject ::
        (membersSpelling done.reverse ++ [Token.comma, key.token, .colon]).drop 1)
        (.members done key :: frames)

/-- The tokens lead to the state. -/
inductive HasRead : List Token → List Frame → Expectation → Prop
  | value {consumed : List Token} {frames : List Frame} (h : Opened consumed frames) :
      HasRead consumed frames .value
  | itemOrEnd {outer : List Token} {frames : List Frame} (houter : Opened outer frames) :
      HasRead (outer ++ [.beginArray]) (.items [] :: frames) .itemOrEnd
  | keyOrEnd {outer : List Token} {frames : List Frame} {key : Key} (houter : Opened outer frames) :
      HasRead (outer ++ [.beginObject]) (.members [] key :: frames) .keyOrEnd
  | key {outer : List Token} {frames : List Frame} {done : List (Key × Outline)} {key : Key}
      (houter : Opened outer frames) (hdone : ∀ m ∈ done, m.1 ≠ .missing ∧ m.2.IsWhole) :
      HasRead (outer ++ .beginObject :: (membersSpelling done.reverse ++ [Token.comma]).drop 1)
        (.members done key :: frames) .key
  | colon {outer : List Token} {frames : List Frame} {done : List (Key × Outline)} {key : Key}
      (houter : Opened outer frames) (hdone : ∀ m ∈ done, m.1 ≠ .missing ∧ m.2.IsWhole)
      (hkey : key ≠ .missing) :
      HasRead (outer ++ .beginObject ::
        (membersSpelling done.reverse ++ [Token.comma, key.token]).drop 1)
        (.members done key :: frames) .colon
  | behindItem {outer : List Token} {frames : List Frame} {done : List Outline}
      (houter : Opened outer frames) (hdone : ∀ o ∈ done, o.IsWhole) (hne : done ≠ []) :
      HasRead (outer ++ .beginArray :: (itemsSpelling done.reverse).drop 1)
        (.items done :: frames) .commaOrEnd
  | behindMember {outer : List Token} {frames : List Frame} {done : List (Key × Outline)}
      {key : Key}
      (houter : Opened outer frames) (hdone : ∀ m ∈ done, m.1 ≠ .missing ∧ m.2.IsWhole)
      (hne : done ≠ []) :
      HasRead (outer ++ .beginObject :: (membersSpelling done.reverse).drop 1)
        (.members done key :: frames) .commaOrEnd

/-- What the tokens have led to. -/
def Progress.Follows (consumed : List Token) : Progress → Prop
  | .inside frames expected => HasRead consumed frames expected
  | .complete value => value.IsWhole ∧ value.spelling = consumed
  | .fault value => value.isComplete = false

theorem itemsSpelling_ne_nil (h : items ≠ []) : itemsSpelling items ≠ [] := by
  cases items with
  | nil => exact absurd rfl h
  | cons o items => exact List.cons_ne_nil _ _

theorem membersSpelling_ne_nil (h : members ≠ []) : membersSpelling members ≠ [] := by
  cases members with
  | nil => exact absurd rfl h
  | cons m members => exact List.cons_ne_nil _ _

theorem drop_one_append {tokens : List Token} (h : tokens ≠ []) (rest : List Token) :
    (tokens ++ rest).drop 1 = tokens.drop 1 ++ rest :=
  List.drop_append_of_le_length (List.length_pos_iff.mpr h)

/-- A value is finished. -/
theorem Opened.follows_deliver (h : Opened consumed frames) (ho : o.IsWhole) :
    (deliver frames o).Follows (consumed ++ o.spelling) := by
  cases h with
  | nil => exact ⟨ho, rfl⟩
  | @items outer frames done houter hdone =>
    have hspelling : outer ++ .beginArray :: (itemsSpelling done.reverse ++ [Token.comma]).drop 1 ++
        o.spelling = outer ++ .beginArray :: (itemsSpelling (o :: done).reverse).drop 1 := by
      rw [List.append_assoc, List.cons_append, ← drop_one_append (by simp), List.reverse_cons,
        itemsSpelling_append, List.append_assoc]
      simp [itemsSpelling]
    rw [hspelling]
    exact .behindItem houter (List.forall_mem_cons.mpr ⟨ho, hdone⟩) (List.cons_ne_nil _ _)
  | @members outer frames done key houter hdone hkey =>
    have hspelling : outer ++ .beginObject ::
          (membersSpelling done.reverse ++ [Token.comma, key.token, .colon]).drop 1 ++ o.spelling =
        outer ++ .beginObject :: (membersSpelling ((key, o) :: done).reverse).drop 1 := by
      rw [List.append_assoc, List.cons_append, ← drop_one_append (by simp), List.reverse_cons,
        membersSpelling_append, List.append_assoc]
      simp [membersSpelling]
    rw [hspelling]
    exact .behindMember houter (List.forall_mem_cons.mpr ⟨⟨hkey, ho⟩, hdone⟩) (List.cons_ne_nil _ _)

/-- A token is read at the place of a value. -/
theorem Opened.follows_stepValue (h : Opened consumed frames) (expected : Expectation)
    (token : Token) : (stepValue frames expected token).Follows (consumed ++ [token]) := by
  cases token with
  | scalar s => exact h.follows_deliver (.scalar s)
  | beginArray => exact .itemOrEnd h
  | beginObject => exact .keyOrEnd h
  | endArray => exact isComplete_stopped frames expected
  | endObject => exact isComplete_stopped frames expected
  | colon => exact isComplete_stopped frames expected
  | comma => exact isComplete_stopped frames expected
  | bad => exact isComplete_stopped frames expected

/-- A string is read at the place of a key. -/
theorem Opened.hasRead_colon (h : Opened consumed frames)
    (hdone : ∀ m ∈ doneMembers, m.1 ≠ .missing ∧ m.2.IsWhole) (t : Option Text) :
    HasRead (consumed ++ .beginObject ::
        (membersSpelling doneMembers.reverse ++ [Token.comma]).drop 1 ++ [.scalar (.string t)])
      (.members doneMembers (.ofString t) :: frames) .colon := by
  have htoken : (Key.ofString t).token = .scalar (.string t) := by cases t <;> rfl
  have hmissing : Key.ofString t ≠ .missing := by cases t <;> exact nofun
  have hspelling : consumed ++ .beginObject ::
        (membersSpelling doneMembers.reverse ++ [Token.comma]).drop 1 ++ [.scalar (.string t)] =
      consumed ++ .beginObject ::
        (membersSpelling doneMembers.reverse ++ [Token.comma, (Key.ofString t).token]).drop 1 := by
    rw [htoken, List.append_assoc, List.cons_append, ← drop_one_append (by simp),
      List.append_assoc]
    rfl
  rw [hspelling]
  exact .colon h hdone hmissing

/-- A token is added to those that have been read. -/
theorem HasRead.follows_step (h : HasRead consumed frames expected) (token : Token) :
    (step frames expected token).Follows (consumed ++ [token]) := by
  cases h with
  | value h => exact h.follows_stepValue .value token
  | @itemOrEnd outer frames houter =>
    -- without an end, the first item is read as any other
    have hopened : Opened (outer ++ [.beginArray]) (.items [] :: frames) :=
      @Opened.items outer frames [] houter nofun
    cases token with
    | endArray =>
      rw [List.append_assoc]
      exact houter.follows_deliver (.array nofun)
    | _ => exact hopened.follows_stepValue .itemOrEnd _
  | @keyOrEnd outer frames key houter =>
    cases token with
    | endObject =>
      rw [List.append_assoc]
      exact houter.follows_deliver (.object nofun nofun)
    | scalar s =>
      cases s with
      | string t =>
        have hnone : ∀ m ∈ ([] : List (Key × Outline)), m.1 ≠ .missing ∧ m.2.IsWhole := nofun
        exact houter.hasRead_colon hnone t
      | _ => exact isComplete_cutOff_cons _ _ _
    | _ => exact isComplete_cutOff_cons _ _ _
  | @key outer frames done key houter hdone =>
    cases token with
    | scalar s =>
      cases s with
      | string t => exact houter.hasRead_colon hdone t
      | _ => exact isComplete_stopped _ _
    | _ => exact isComplete_stopped _ _
  | @colon outer frames done key houter hdone hkey =>
    cases token with
    | colon =>
      have hopened := Opened.members houter hdone hkey
      rw [List.append_assoc, List.cons_append, ← drop_one_append (by simp), List.append_assoc]
      exact .value hopened
    | _ => exact isComplete_stopped _ _
  | @behindItem outer frames done houter hdone hne =>
    cases token with
    | comma =>
      rw [List.append_assoc, List.cons_append,
        ← drop_one_append (itemsSpelling_ne_nil (by simpa using hne))]
      exact .value (.items houter hdone)
    | endArray =>
      rw [List.append_assoc, List.cons_append]
      exact houter.follows_deliver (.array fun o ho ↦ hdone o (List.mem_reverse.mp ho))
    | _ => exact isComplete_stopped _ _
  | @behindMember outer frames done key houter hdone hne =>
    cases token with
    | comma =>
      rw [List.append_assoc, List.cons_append,
        ← drop_one_append (membersSpelling_ne_nil (by simpa using hne))]
      exact .key houter hdone
    | endObject =>
      rw [List.append_assoc, List.cons_append]
      exact houter.follows_deliver (isWhole_object_iff.mpr
        ⟨rfl, fun m hm ↦ hdone m (List.mem_reverse.mp hm)⟩)
    | _ => exact isComplete_stopped _ _

/-- A value that has been read to its end is spelled by the tokens that were read. -/
theorem HasRead.readFrom_spelling (h : HasRead consumed frames expected) (tokens : List Token)
    (hend : (readFrom frames expected tokens).1.isComplete = true) :
    (readFrom frames expected tokens).1.IsWhole ∧
      (readFrom frames expected tokens).1.spelling ++ (readFrom frames expected tokens).2 =
        consumed ++ tokens := by
  induction tokens generalizing consumed frames expected with
  | nil =>
    rw [readFrom, isComplete_stopped] at hend
    cases hend
  | cons token tokens ih =>
    have hstep := h.follows_step token
    rw [readFrom_cons] at hend ⊢
    cases hprogress : step frames expected token with
    | inside frames' expected' =>
      rw [hprogress] at hstep hend
      have hrest := ih hstep hend
      rwa [List.append_assoc, List.singleton_append] at hrest
    | complete value =>
      rw [hprogress] at hstep
      obtain ⟨hwhole, hspelling⟩ := hstep
      refine ⟨hwhole, ?_⟩
      change value.spelling ++ tokens = _
      rw [hspelling, List.append_assoc, List.singleton_append]
    | fault value =>
      rw [hprogress] at hstep hend
      exact absurd hend (Bool.eq_false_iff.mp hstep)

end Outline

/-- A text spells the value that is read from it if that is all it holds. -/
theorem spells_iff {t : Text} {o : Outline} :
    Spells t o ↔ Outline.ofTokens (tokens t) = (o, []) ∧ o.isComplete = true := by
  constructor
  · intro h
    exact ⟨h.ofTokens_tokens, h.1.isComplete⟩
  · rintro ⟨hread, hend⟩
    have hstart : Outline.HasRead [] [] .value := .value .nil
    rw [Outline.ofTokens] at hread
    obtain ⟨hwhole, hspelling⟩ := hstart.readFrom_spelling (tokens t) (by rwa [hread])
    rw [hread, List.append_nil] at hspelling
    rw [hread] at hwhole
    exact ⟨hwhole, hspelling.symm⟩

end ComponentFile.Json
