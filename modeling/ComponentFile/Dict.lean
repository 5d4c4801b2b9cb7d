import ComponentFile.Text.Basic

/-!
# Ordered dictionaries

Compiler options, replacements and attributes are read in a fixed order, and that order shows in
results.  A dictionary here is a list of entries with distinct keys, in the order in which the
keys were first inserted.

## Main definitions

* `OrderedMap` : entries with distinct keys, and `Dict` with texts as keys.
* `OrderedMap.insert` : give a key a value; a key that is present keeps its place.
* `OrderedMap.insertNew` : give a key a value unless it has one.
* `OrderedMap.get?` : the value of a key.

## Main results

* `OrderedMap.keys_insert` : a key that is present keeps its place, a new key comes last.
* `OrderedMap.get?_insert` : the inserted value is found, all others are as before.
-/

namespace ComponentFile

universe u v

variable {κ : Type u} {α : Type v} [DecidableEq κ]

namespace Entries

/-- Give `key` the value `value`, in place when the key is present and at the end otherwise. -/
def insert (key : κ) (value : α) : List (κ × α) → List (κ × α)
  | [] => [(key, value)]
  | entry :: rest =>
    if entry.1 = key then (key, value) :: rest else entry :: insert key value rest

/-- The value of the first entry with the key. -/
def get? (key : κ) (entries : List (κ × α)) : Option α :=
  (entries.find? fun entry => decide (entry.1 = key)).map Prod.snd

theorem keys_insert (key : κ) (value : α) (entries : List (κ × α)) :
    (insert key value entries).map Prod.fst =
      if key ∈ entries.map Prod.fst then entries.map Prod.fst
      else entries.map Prod.fst ++ [key] := by
  induction entries with
  | nil => simp [insert]
  | cons entry rest ih =>
    by_cases h : entry.1 = key
    · simp [insert, h]
    · simp only [insert, if_neg h, List.map_cons, ih, List.mem_cons]
      by_cases hm : key ∈ rest.map Prod.fst
      · simp [hm]
      · have hne : key ≠ entry.1 := fun e => h e.symm
        simp [hm, hne]

theorem nodup_keys_insert (key : κ) (value : α) {entries : List (κ × α)}
    (h : (entries.map Prod.fst).Nodup) : ((insert key value entries).map Prod.fst).Nodup := by
  rw [keys_insert]
  split
  · exact h
  · next hm =>
    refine List.nodup_append.mpr
      ⟨h, List.nodup_cons.mpr ⟨List.not_mem_nil, List.nodup_nil⟩, ?_⟩
    intro a ha b hb hab
    simp only [List.mem_singleton] at hb
    exact hm (hb ▸ hab ▸ ha)

theorem get?_insert (key other : κ) (value : α) (entries : List (κ × α)) :
    get? other (insert key value entries) =
      if other = key then some value else get? other entries := by
  induction entries with
  | nil =>
    by_cases h : key = other
    · simp [insert, get?, h]
    · have hne : other ≠ key := fun e => h e.symm
      simp [insert, get?, h, hne]
  | cons entry rest ih =>
    simp only [get?] at ih ⊢
    by_cases h : entry.1 = key
    · by_cases ho : other = key
      · simp [insert, h, ho]
      · have hk : key ≠ other := fun e => ho e.symm
        simp [insert, h, ho, hk]
    · by_cases ho : entry.1 = other
      · have hne : other ≠ key := fun e => h (ho.trans e)
        simp [insert, ho, hne]
      · simp only [insert, if_neg h]
        rw [List.find?_cons_of_neg (by simpa using ho), ih]
        rw [List.find?_cons_of_neg (by simpa using ho)]

theorem insert_of_notMem {key : κ} (value : α) {entries : List (κ × α)}
    (h : key ∉ entries.map Prod.fst) : insert key value entries = entries ++ [(key, value)] := by
  induction entries with
  | nil => rfl
  | cons entry rest ih =>
    rw [List.map_cons, List.mem_cons, not_or] at h
    have hne : entry.1 ≠ key := fun e => h.1 e.symm
    rw [insert, if_neg hne, ih h.2, List.cons_append]

theorem get?_of_notMem {key : κ} {entries : List (κ × α)} (h : key ∉ entries.map Prod.fst) :
    get? key entries = none := by
  have hfind : entries.find? (fun entry => decide (entry.1 = key)) = none :=
    List.find?_eq_none.mpr fun entry hentry hkey =>
      h (of_decide_eq_true hkey ▸ List.mem_map_of_mem hentry)
  rw [get?, hfind, Option.map_none]

end Entries

/-- Entries with distinct keys, in the order of their first insertion. -/
structure OrderedMap (κ : Type u) (α : Type v) where
  entries : List (κ × α)
  nodup_keys : (entries.map Prod.fst).Nodup
  deriving DecidableEq

/-- A dictionary whose keys are texts. -/
abbrev Dict (α : Type v) := OrderedMap Text α

namespace OrderedMap

omit [DecidableEq κ] in
@[ext] theorem ext {d e : OrderedMap κ α} (h : d.entries = e.entries) : d = e := by
  cases d; cases e; cases h; rfl

/-- The dictionary without entries. -/
def empty : OrderedMap κ α := ⟨[], List.nodup_nil⟩

instance : EmptyCollection (OrderedMap κ α) := ⟨empty⟩

instance : Inhabited (OrderedMap κ α) := ⟨empty⟩

/-- The keys, in the order of their first insertion. -/
def keys (d : OrderedMap κ α) : List κ :=
  d.entries.map Prod.fst

/-- The value of a key. -/
def get? (d : OrderedMap κ α) (key : κ) : Option α :=
  Entries.get? key d.entries

/-- Whether the key has a value. -/
def contains (d : OrderedMap κ α) (key : κ) : Bool :=
  (d.get? key).isSome

/-- Give a key a value; a key that is present keeps its place. -/
def insert (d : OrderedMap κ α) (key : κ) (value : α) : OrderedMap κ α :=
  ⟨Entries.insert key value d.entries, Entries.nodup_keys_insert key value d.nodup_keys⟩

/-- Give a key a value unless it has one. -/
def insertNew (d : OrderedMap κ α) (key : κ) (value : α) : OrderedMap κ α :=
  if d.contains key then d else d.insert key value

/-- Give each key of the list its value, from left to right. -/
def insertAll (d : OrderedMap κ α) (entries : List (κ × α)) : OrderedMap κ α :=
  entries.foldl (fun d entry => d.insert entry.1 entry.2) d

/-- The entries whose keys have a property. -/
def filterKeys (keep : κ → Bool) (d : OrderedMap κ α) : OrderedMap κ α :=
  ⟨d.entries.filter fun entry => keep entry.1,
    d.nodup_keys.sublist (List.filter_sublist.map Prod.fst)⟩

/-- The dictionary of a list of entries: the last value of a key, at the place of its first. -/
def ofList (entries : List (κ × α)) : OrderedMap κ α :=
  empty.insertAll entries

/-- A key that is present keeps its place, a new key comes last. -/
theorem keys_insert (d : OrderedMap κ α) (key : κ) (value : α) :
    (d.insert key value).keys = if key ∈ d.keys then d.keys else d.keys ++ [key] :=
  Entries.keys_insert key value d.entries

/-- The inserted value is found, all others are as before. -/
theorem get?_insert (d : OrderedMap κ α) (key other : κ) (value : α) :
    (d.insert key value).get? other = if other = key then some value else d.get? other :=
  Entries.get?_insert key other value d.entries

/-- A new key comes last with its value. -/
theorem entries_insertNew_of_notMem {d : OrderedMap κ α} {key : κ} (value : α)
    (h : key ∉ d.keys) : (d.insertNew key value).entries = d.entries ++ [(key, value)] := by
  have hcontains : d.contains key = false := by
    rw [contains, get?, Entries.get?_of_notMem h, Option.isSome_none]
  rw [insertNew, hcontains]
  exact Entries.insert_of_notMem value h

end OrderedMap

end ComponentFile
