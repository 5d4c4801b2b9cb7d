import ComponentFile.Json.Outline

/-!
# How JSON values are spelled

An outline that is whole is a JSON value as it is written: its members in their order, keys that
come twice, numbers digit by digit.  It is spelled by one list of tokens, and reading these tokens
gives the value back, whatever follows them.

## Main definitions

* `Outline.IsWhole` : the outlines of values that are written to their ends.
* `Outline.spelling` : the tokens of a value.
* `Spells` : a text that holds a value and nothing else.

## Main results

* `Outline.readFrom_spelling_append` : a value is read where a value is expected.
* `Outline.ofTokens_spelling_append` : the tokens of a value are read back.
-/

namespace ComponentFile.Json

/-- The token of a key. -/
def Key.token : Key → Token
  | text t => .scalar (.string (some t))
  | unpaired => .scalar (.string none)
  | missing => .bad

namespace Outline

variable {frames : List Frame} {o : Outline} {items done : List Outline}
  {members doneMembers : List (Key × Outline)} {rest : List Token}

/-! ### Values and their tokens -/

/-- The value is written to its end, with a key for each member of an object. -/
inductive IsWhole : Outline → Prop
  | scalar (s : Scalar) : IsWhole (.scalar s)
  | array {items : List Outline} (hitems : ∀ o ∈ items, IsWhole o) : IsWhole (.array items true)
  | object {members : List (Key × Outline)} (hkeys : ∀ m ∈ members, m.1 ≠ .missing)
      (hvalues : ∀ m ∈ members, IsWhole m.2) : IsWhole (.object members true)

mutual

/-- The tokens of a value. -/
def spelling : Outline → List Token
  | scalar s => [.scalar s]
  | array items _ => .beginArray :: ((itemsSpelling items).drop 1 ++ [.endArray])
  | object members _ => .beginObject :: ((membersSpelling members).drop 1 ++ [.endObject])
  | broken => []

/-- The tokens of items, each with a comma in front. -/
def itemsSpelling : List Outline → List Token
  | [] => []
  | o :: items => .comma :: (o.spelling ++ itemsSpelling items)

/-- The tokens of members, each with a comma in front. -/
def membersSpelling : List (Key × Outline) → List Token
  | [] => []
  | (key, o) :: members =>
    .comma :: key.token :: .colon :: (o.spelling ++ membersSpelling members)

end

theorem isWhole_object_iff {closed : Bool} :
    (object members closed).IsWhole ↔
      closed = true ∧ ∀ m ∈ members, m.1 ≠ .missing ∧ m.2.IsWhole := by
  constructor
  · rintro (_ | _ | ⟨hkeys, hvalues⟩)
    exact ⟨rfl, fun m hm ↦ ⟨hkeys m hm, hvalues m hm⟩⟩
  · rintro ⟨rfl, hmembers⟩
    exact .object (fun m hm ↦ (hmembers m hm).1) fun m hm ↦ (hmembers m hm).2

theorem IsWhole.isComplete (h : o.IsWhole) : o.isComplete = true := by
  cases h <;> rfl

/-! ### Reading a value back -/

/-- Read on after a token. -/
def resume (rest : List Token) : Progress → Outline × List Token
  | .inside frames expected => readFrom frames expected rest
  | .complete value => (value, rest)
  | .fault value => (value, [])

theorem readFrom_cons (frames : List Frame) (expected : Expectation) (token : Token)
    (rest : List Token) :
    readFrom frames expected (token :: rest) = resume rest (step frames expected token) := by
  rw [readFrom]
  cases step frames expected token <;> rfl

/-- Where an array may end, a value is read as anywhere else. -/
theorem IsWhole.readFrom_itemOrEnd (h : o.IsWhole) (frames : List Frame) (rest : List Token) :
    readFrom frames .itemOrEnd (o.spelling ++ rest) =
      readFrom frames .value (o.spelling ++ rest) := by
  cases h <;> simp [spelling, readFrom_cons, step, stepValue]

/-- The items behind the first are read one by one, and then the array ends. -/
theorem readFrom_itemsSpelling_append
    (h : ∀ o ∈ items, ∀ frames rest,
      readFrom frames .value (o.spelling ++ rest) = resume rest (deliver frames o)) :
    readFrom (.items done :: frames) .commaOrEnd (itemsSpelling items ++ .endArray :: rest) =
      resume rest (deliver frames (array (done.reverse ++ items) true)) := by
  induction items generalizing done with
  | nil => simp [itemsSpelling, readFrom_cons, step]
  | cons o items ih =>
    obtain ⟨hfirst, hitems⟩ := List.forall_mem_cons.mp h
    have hrest := @ih (o :: done) hitems
    rw [List.reverse_cons, List.append_assoc, List.singleton_append] at hrest
    rw [itemsSpelling, List.cons_append, readFrom_cons, List.append_assoc]
    exact (hfirst _ _).trans hrest

/-- A member is read from its key on. -/
theorem readFrom_member {key : Key} (hkey : key ≠ .missing)
    (h : ∀ frames rest,
      readFrom frames .value (o.spelling ++ rest) = resume rest (deliver frames o))
    {expected : Expectation} (hexpected : expected = .key ∨ expected = .keyOrEnd) (old : Key) :
    readFrom (.members doneMembers old :: frames) expected
        (key.token :: .colon :: (o.spelling ++ rest)) =
      readFrom (.members ((key, o) :: doneMembers) .missing :: frames) .commaOrEnd rest := by
  have hcolon : readFrom (.members doneMembers old :: frames) expected
        (key.token :: .colon :: (o.spelling ++ rest)) =
      readFrom (.members doneMembers key :: frames) .value (o.spelling ++ rest) := by
    cases key with
    | missing => exact absurd rfl hkey
    | text t => rcases hexpected with rfl | rfl <;> rfl
    | unpaired => rcases hexpected with rfl | rfl <;> rfl
  rw [hcolon, h]
  rfl

/-- The members behind the first are read one by one, and then the object ends. -/
theorem readFrom_membersSpelling_append (hkeys : ∀ m ∈ members, m.1 ≠ Key.missing)
    (h : ∀ m ∈ members, ∀ frames rest,
      readFrom frames .value (m.2.spelling ++ rest) = resume rest (deliver frames m.2)) :
    readFrom (.members doneMembers .missing :: frames) .commaOrEnd
        (membersSpelling members ++ .endObject :: rest) =
      resume rest (deliver frames (object (doneMembers.reverse ++ members) true)) := by
  induction members generalizing doneMembers with
  | nil => simp [membersSpelling, readFrom_cons, step]
  | cons m members ih =>
    obtain ⟨key, o⟩ := m
    obtain ⟨hkey, hkeys⟩ := List.forall_mem_cons.mp hkeys
    obtain ⟨hfirst, hmembers⟩ := List.forall_mem_cons.mp h
    have hrest := @ih ((key, o) :: doneMembers) hkeys hmembers
    rw [List.reverse_cons, List.append_assoc, List.singleton_append] at hrest
    rw [membersSpelling, List.cons_append, readFrom_cons, List.cons_append, List.cons_append,
      List.append_assoc]
    exact (readFrom_member hkey hfirst (.inl rfl) .missing).trans hrest

/-- A value is read where a value is expected. -/
theorem IsWhole.readFrom_spelling_append (h : o.IsWhole) (frames : List Frame)
    (rest : List Token) :
    readFrom frames .value (o.spelling ++ rest) = resume rest (deliver frames o) := by
  induction h generalizing frames rest with
  | scalar s => rw [spelling, List.singleton_append, readFrom_cons, step, stepValue]
  | @array items hitems ih =>
    rw [spelling, List.cons_append, readFrom_cons]
    cases items with
    | nil => rfl
    | cons o items =>
      obtain ⟨hfirst, hitems'⟩ := List.forall_mem_cons.mp ih
      have ho := hitems o List.mem_cons_self
      rw [itemsSpelling, List.drop_succ_cons, List.drop_zero, List.append_assoc, List.append_assoc]
      calc readFrom (.items [] :: frames) .itemOrEnd (o.spelling ++ (itemsSpelling items ++ _))
          = readFrom (.items [o] :: frames) .commaOrEnd
              (itemsSpelling items ++ .endArray :: rest) := by
            rw [ho.readFrom_itemOrEnd, hfirst]; rfl
        _ = resume rest (deliver frames (.array (o :: items) true)) :=
            readFrom_itemsSpelling_append hitems'
  | @object members hkeys hvalues ih =>
    rw [spelling, List.cons_append, readFrom_cons]
    cases members with
    | nil => rfl
    | cons m members =>
      obtain ⟨key, o⟩ := m
      obtain ⟨hfirst, hmembers⟩ := List.forall_mem_cons.mp ih
      obtain ⟨hkey, hkeys⟩ := List.forall_mem_cons.mp hkeys
      rw [membersSpelling, List.drop_succ_cons, List.drop_zero, List.append_assoc, List.cons_append,
        List.cons_append, List.append_assoc]
      calc readFrom (.members [] .missing :: frames) .keyOrEnd
            (key.token :: .colon :: (o.spelling ++ (membersSpelling members ++ _)))
          = readFrom (.members [(key, o)] .missing :: frames) .commaOrEnd
              (membersSpelling members ++ .endObject :: rest) :=
            readFrom_member hkey hfirst (.inr rfl) .missing
        _ = resume rest (deliver frames (.object ((key, o) :: members) true)) :=
            readFrom_membersSpelling_append hkeys hmembers

/-- The tokens of a value are read back, whatever follows them. -/
theorem IsWhole.ofTokens_spelling_append (h : o.IsWhole) (rest : List Token) :
    ofTokens (o.spelling ++ rest) = (o, rest) := by
  rw [ofTokens, h.readFrom_spelling_append]
  rfl

end Outline

/-- The text holds the value and nothing else. -/
def Spells (t : Text) (o : Outline) : Prop :=
  o.IsWhole ∧ tokens t = o.spelling

theorem Spells.ofTokens_tokens {t : Text} {o : Outline} (h : Spells t o) :
    Outline.ofTokens (tokens t) = (o, []) := by
  have hread := h.1.ofTokens_spelling_append []
  rwa [List.append_nil, ← h.2] at hread

end ComponentFile.Json
