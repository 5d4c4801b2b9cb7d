import ComponentFile.Dict
import Mathlib.Data.List.Nodup

/-!
# Entries of dictionaries

## Main definitions

* `OrderedMap.mapValues` : the same keys with other values.

## Main results

* `OrderedMap.get?_eq_some_iff` : the value of a key stands in its entry.
* `OrderedMap.get?_insertAll` : of two dictionaries the one that is added decides first.
* `OrderedMap.get?_mapValues` : a key has the other value.
* `OrderedMap.entries_foldl_insertNew_empty` : of several entries with one key the first is kept.
* `OrderedMap.mapValues_insertNew` : a key is new whatever the values are.
* `OrderedMap.keys_ofList` : the keys of entries stand in the order in which they come first.
* `OrderedMap.ext_get?` : keys in their order and their values make a dictionary.
* `OrderedMap.insertAll_entries_of_isPrefix` : a dictionary that begins with the keys of another one
  replaces it.
-/

namespace ComponentFile

universe u v w

variable {κ : Type u} {α : Type v} {β : Type w}

/-- The first entry decides about its key. -/
theorem Entries.get?_cons [DecidableEq κ] (key : κ) (entry : κ × α) (rest : List (κ × α)) :
    get? key (entry :: rest) = if key = entry.1 then some entry.2 else get? key rest := by
  by_cases h : key = entry.1
  · rw [get?, List.find?_cons_of_pos (by simpa using h.symm), if_pos h, Option.map_some]
  · rw [get?, List.find?_cons_of_neg (by simpa using fun e ↦ h e.symm), if_neg h, get?]

namespace OrderedMap

/-- The dictionary with each value replaced by what `f` makes of it. -/
def mapValues (f : α → β) (d : OrderedMap κ α) : OrderedMap κ β where
  entries := d.entries.map fun entry => (entry.1, f entry.2)
  nodup_keys := by
    rw [List.map_map]
    exact d.nodup_keys

@[simp] theorem keys_mapValues (f : α → β) (d : OrderedMap κ α) :
    (d.mapValues f).keys = d.keys := by
  rw [keys, mapValues, List.map_map]
  rfl

@[simp] theorem mapValues_empty (f : α → β) :
    (∅ : OrderedMap κ α).mapValues f = ∅ := rfl

theorem filterKeys_filterKeys (keep : κ → Bool) (d : OrderedMap κ α) :
    (d.filterKeys keep).filterKeys keep = d.filterKeys keep := by
  apply ext
  simp [filterKeys, List.filter_filter]

variable [DecidableEq κ]

/-- The value of a key stands in its entry. -/
theorem get?_eq_some_iff {d : OrderedMap κ α} {key : κ} {value : α} :
    d.get? key = some value ↔ (key, value) ∈ d.entries := by
  rw [get?, Entries.get?, Option.map_eq_some_iff]
  constructor
  · rintro ⟨⟨found, _⟩, hfound, rfl⟩
    obtain rfl : found = key := by simpa using List.find?_some hfound
    exact List.mem_of_find?_eq_some hfound
  · intro hmem
    have hsome : (d.entries.find? fun entry ↦ decide (entry.1 = key)).isSome = true :=
      List.find?_isSome.mpr ⟨_, hmem, by simp⟩
    obtain ⟨entry, hentry⟩ := Option.isSome_iff_exists.mp hsome
    have hkey : entry.1 = key := by simpa using List.find?_some hentry
    have heq : entry = (key, value) :=
      List.inj_on_of_nodup_map d.nodup_keys (List.mem_of_find?_eq_some hentry) hmem hkey
    exact ⟨entry, hentry, by rw [heq]⟩

theorem exists_get?_of_mem_keys {d : OrderedMap κ α} {key : κ} (h : key ∈ d.keys) :
    ∃ value, d.get? key = some value := by
  obtain ⟨⟨_, value⟩, hentry, rfl⟩ := List.mem_map.mp h
  exact ⟨value, get?_eq_some_iff.mpr hentry⟩

/-- The keys of a dictionary and of the entries that are added. -/
theorem mem_keys_insertAll {d : OrderedMap κ α} {entries : List (κ × α)} {key : κ} :
    key ∈ (d.insertAll entries).keys ↔ key ∈ d.keys ∨ key ∈ entries.map Prod.fst := by
  induction entries generalizing d with
  | nil => simp [insertAll]
  | cons entry rest ih =>
    have hinsert : key ∈ (d.insert entry.1 entry.2).keys ↔ key ∈ d.keys ∨ key = entry.1 := by
      rw [keys_insert]
      split
      · next h => exact ⟨.inl, fun hkey ↦ hkey.elim id fun heq ↦ heq ▸ h⟩
      · rw [List.mem_append, List.mem_singleton]
    rw [insertAll, List.foldl_cons, ← insertAll, ih, hinsert, List.map_cons, List.mem_cons,
      or_assoc]

/-- A value was there, or it is among the entries that are added. -/
theorem eq_some_or_mem_of_get?_insertAll {d : OrderedMap κ α} {entries : List (κ × α)} {key : κ}
    {value : α} (h : (d.insertAll entries).get? key = some value) :
    d.get? key = some value ∨ (key, value) ∈ entries := by
  induction entries generalizing d with
  | nil => exact .inl h
  | cons entry rest ih =>
    rw [insertAll, List.foldl_cons, ← insertAll] at h
    obtain hfound | hmem := ih h
    · rw [get?_insert] at hfound
      split at hfound
      · next hkey =>
        obtain rfl := Option.some.inj hfound
        exact .inr (hkey ▸ List.mem_cons_self)
      · exact .inl hfound
    · exact .inr (List.mem_cons_of_mem _ hmem)

/-- Of two dictionaries the one that is added decides first. -/
theorem get?_insertAll (d e : OrderedMap κ α) (key : κ) :
    (d.insertAll e.entries).get? key = (e.get? key).or (d.get? key) := by
  obtain ⟨entries, hnodup⟩ := e
  change _ = (Entries.get? key entries).or (d.get? key)
  induction entries generalizing d with
  | nil => rfl
  | cons entry rest ih =>
    obtain ⟨hentry, hrest⟩ := List.nodup_cons.mp hnodup
    rw [insertAll, List.foldl_cons, ← insertAll, ih _ hrest, get?_insert, Entries.get?,
      Entries.get?]
    by_cases h : entry.1 = key
    · have hnone := Entries.get?_of_notMem (h ▸ hentry)
      rw [Entries.get?] at hnone
      rw [hnone, List.find?_cons_of_pos (by simpa using h), if_pos h.symm]
      rfl
    · rw [List.find?_cons_of_neg (by simpa using h), if_neg fun heq ↦ h heq.symm]

/-- A key has what `f` makes of its value. -/
@[simp] theorem get?_mapValues (f : α → β) (d : OrderedMap κ α) (key : κ) :
    (d.mapValues f).get? key = (d.get? key).map f := by
  rw [get?, get?, mapValues, Entries.get?, Entries.get?, List.find?_map, Option.map_map,
    Option.map_map]
  rfl

@[simp] theorem contains_mapValues (f : α → β) (d : OrderedMap κ α) (key : κ) :
    (d.mapValues f).contains key = d.contains key := by
  rw [contains, get?_mapValues, Option.isSome_map, contains]

theorem insertNew_of_mem {d : OrderedMap κ α} {key : κ} (value : α) (h : key ∈ d.keys) :
    d.insertNew key value = d :=
  if_pos (Option.isSome_iff_exists.mpr (exists_get?_of_mem_keys h))

/-- Entries are added unless their keys are there, and of several entries with one key the first
is kept. -/
theorem entries_foldl_insertNew (d : OrderedMap κ α) (entries : List (κ × α)) :
    (entries.foldl (fun d entry ↦ d.insertNew entry.1 entry.2) d).entries =
      d.entries ++ (entries.filter fun entry ↦ entry.1 ∉ d.keys).eraseDupsBy
        fun a b ↦ decide (a.1 = b.1) := by
  induction entries generalizing d with
  | nil => simp
  | cons entry rest ih =>
    rw [List.foldl_cons, ih]
    by_cases h : entry.1 ∈ d.keys
    · rw [insertNew_of_mem entry.2 h, List.filter_cons_of_neg (by simpa using h)]
    · have hentries := entries_insertNew_of_notMem entry.2 h
      have hkeys : (d.insertNew entry.1 entry.2).keys = d.keys ++ [entry.1] := by
        simp [keys, hentries]
      rw [List.filter_cons_of_pos (by simpa using h), List.eraseDupsBy_cons, List.filter_filter,
        hentries, hkeys, List.append_assoc, List.singleton_append]
      -- behind this entry, its key counts as one that is there
      have hfilter : (rest.filter fun other ↦ other.1 ∉ d.keys ++ [entry.1]) =
          rest.filter fun other ↦ decide (decide (other.1 = entry.1) = false) &&
            decide (other.1 ∉ d.keys) :=
        List.filter_congr fun other _ ↦ by simp [and_comm]
      rw [hfilter]

/-- Of several entries with one key the first is kept, in its place. -/
theorem entries_foldl_insertNew_empty (entries : List (κ × α)) :
    (entries.foldl (fun (d : OrderedMap κ α) entry ↦ d.insertNew entry.1 entry.2) ∅).entries =
      entries.eraseDupsBy fun a b ↦ decide (a.1 = b.1) := by
  have hnew : ∀ entry ∈ entries, decide (entry.1 ∉ (∅ : OrderedMap κ α).keys) = true :=
    fun _ _ ↦ decide_eq_true List.not_mem_nil
  rw [entries_foldl_insertNew, List.filter_eq_self.mpr hnew]
  rfl

/-- Entries with distinct keys are all kept. -/
theorem eraseDupsBy_of_nodup {entries : List (κ × α)} (h : (entries.map Prod.fst).Nodup) :
    entries.eraseDupsBy (fun a b ↦ decide (a.1 = b.1)) = entries := by
  induction entries with
  | nil => rfl
  | cons entry rest ih =>
    obtain ⟨hentry, hrest⟩ := List.nodup_cons.mp h
    have hother : ∀ other ∈ rest, other.1 ≠ entry.1 := fun other hmem heq ↦
      hentry (List.mem_map.mpr ⟨other, hmem, heq⟩)
    rw [List.eraseDupsBy_cons, List.filter_eq_self.mpr (by simpa using hother), ih hrest]

/-- A key is new whatever the values are. -/
theorem mapValues_insertNew (f : α → β) (d : OrderedMap κ α) (key : κ) (value : α) :
    (d.insertNew key value).mapValues f = (d.mapValues f).insertNew key (f value) := by
  by_cases h : key ∈ d.keys
  · rw [insertNew_of_mem value h, insertNew_of_mem (f value) (by rwa [keys_mapValues])]
  · apply ext
    rw [entries_insertNew_of_notMem (f value) (by simpa using h)]
    simp only [mapValues, entries_insertNew_of_notMem value h, List.map_append, List.map_cons,
      List.map_nil]

/-- The keys of a list of entries. -/
theorem mem_keys_ofList {entries : List (κ × α)} {key : κ} :
    key ∈ (ofList entries).keys ↔ key ∈ entries.map Prod.fst := by
  rw [ofList, mem_keys_insertAll]
  exact or_iff_right List.not_mem_nil

theorem mem_of_get?_ofList {entries : List (κ × α)} {key : κ} {value : α}
    (h : (ofList entries).get? key = some value) : (key, value) ∈ entries :=
  (eq_some_or_mem_of_get?_insertAll h).resolve_left nofun

/-- Keys are added in the order in which they come first. -/
theorem keys_insertAll [BEq κ] [LawfulBEq κ] (d : OrderedMap κ α) (entries : List (κ × α)) :
    (d.insertAll entries).keys =
      d.keys ++ ((entries.map Prod.fst).filter fun key ↦ decide (key ∉ d.keys)).eraseDups := by
  induction entries generalizing d with
  | nil => simp [insertAll]
  | cons entry rest ih =>
    rw [insertAll, List.foldl_cons, ← insertAll, ih, keys_insert, List.map_cons]
    by_cases h : entry.1 ∈ d.keys
    · rw [if_pos h, List.filter_cons_of_neg (by simpa using h)]
    · rw [if_neg h, List.filter_cons_of_pos (by simpa using h), List.eraseDups_cons,
        List.append_assoc, List.singleton_append, List.filter_filter]
      -- behind this entry, its key counts as one that is there
      have hfilter : ((rest.map Prod.fst).filter fun key ↦ decide (key ∉ d.keys ++ [entry.1])) =
          (rest.map Prod.fst).filter fun key ↦ !(key == entry.1) && decide (key ∉ d.keys) :=
        List.filter_congr fun key _ ↦ by
          rw [Bool.eq_iff_iff]
          simp [and_comm]
      rw [hfilter]

/-- The keys of a dictionary that is made of entries stand in the order in which they come first. -/
theorem keys_ofList [BEq κ] [LawfulBEq κ] (entries : List (κ × α)) :
    (ofList entries).keys = (entries.map Prod.fst).eraseDups := by
  have hnew : ∀ key ∈ entries.map Prod.fst, decide (key ∉ (empty : OrderedMap κ α).keys) = true :=
    fun _ _ ↦ decide_eq_true List.not_mem_nil
  rw [ofList, keys_insertAll, List.filter_eq_self.mpr hnew]
  rfl

omit [DecidableEq κ] in
theorem eraseDups_of_nodup [BEq κ] [LawfulBEq κ] {l : List κ} (h : l.Nodup) : l.eraseDups = l := by
  induction l with
  | nil => rfl
  | cons a l ih =>
    obtain ⟨ha, hl⟩ := List.nodup_cons.mp h
    have hother : ∀ b ∈ l, b ≠ a := fun b hb heq ↦ ha (heq ▸ hb)
    rw [List.eraseDups_cons, List.filter_eq_self.mpr (by simpa using hother), ih hl]

/-- The new keys of a dictionary that is added come last, in their order. -/
theorem keys_insertAll_entries (d e : OrderedMap κ α) :
    (d.insertAll e.entries).keys = d.keys ++ e.keys.filter fun key ↦ decide (key ∉ d.keys) := by
  rw [keys_insertAll]
  exact congrArg (d.keys ++ ·) (eraseDups_of_nodup (e.nodup_keys.filter _))

/-- Keys in their order and their values make a dictionary. -/
theorem ext_get? {d e : OrderedMap κ α} (hkeys : d.keys = e.keys)
    (hget : ∀ key, d.get? key = e.get? key) : d = e := by
  have hlength : d.entries.length = e.entries.length := by
    simpa [keys] using congrArg List.length hkeys
  refine ext (List.ext_getElem hlength fun n hd he ↦ ?_)
  have hkey : d.entries[n].1 = e.entries[n].1 := by
    have hd' : n < d.keys.length := by simpa [keys] using hd
    simpa [keys] using List.getElem_of_eq hkeys hd'
  have hvalue : d.get? d.entries[n].1 = some d.entries[n].2 :=
    get?_eq_some_iff.mpr (List.getElem_mem hd)
  have hother : e.get? e.entries[n].1 = some e.entries[n].2 :=
    get?_eq_some_iff.mpr (List.getElem_mem he)
  rw [hget, hkey, hother] at hvalue
  exact Prod.ext hkey (Option.some.inj hvalue).symm

/-- A key that is given the value that it has changes nothing. -/
theorem insert_of_get? {d : OrderedMap κ α} {key : κ} {value : α} (h : d.get? key = some value) :
    d.insert key value = d := by
  have hmem : key ∈ d.keys := List.mem_map_of_mem (get?_eq_some_iff.mp h)
  refine ext_get? (by rw [keys_insert, if_pos hmem]) fun other ↦ ?_
  rw [get?_insert]
  split
  · next heq => rw [heq, h]
  · rfl

theorem insertAll_of_forall_get? {d : OrderedMap κ α} {entries : List (κ × α)}
    (h : ∀ entry ∈ entries, d.get? entry.1 = some entry.2) : d.insertAll entries = d := by
  induction entries with
  | nil => rfl
  | cons entry rest ih =>
    obtain ⟨hentry, hrest⟩ := List.forall_mem_cons.mp h
    rw [insertAll, List.foldl_cons, insert_of_get? hentry, ← insertAll, ih hrest]

/-- A dictionary that begins with the keys of another one replaces it. -/
theorem insertAll_entries_of_isPrefix {d e : OrderedMap κ α} (h : d.keys <+: e.keys) :
    d.insertAll e.entries = e := by
  obtain ⟨rest, hrest⟩ := h
  have hnodup : (d.keys ++ rest).Nodup := hrest ▸ e.nodup_keys
  refine ext_get? ?_ fun key ↦ ?_
  · have hold : d.keys.filter (fun key ↦ decide (key ∉ d.keys)) = [] := by simp
    have hnew : ∀ key ∈ rest, decide (key ∉ d.keys) = true := fun key hkey ↦
      decide_eq_true fun hd ↦ List.disjoint_of_nodup_append hnodup hd hkey
    rw [keys_insertAll_entries, ← hrest, List.filter_append, hold, List.nil_append,
      List.filter_eq_self.mpr hnew]
  · rw [get?_insertAll]
    cases hget : e.get? key with
    | some value => rfl
    | none =>
      have hnot : key ∉ d.keys := fun hd ↦ by
        have hmem : key ∈ e.keys := hrest ▸ List.mem_append_left rest hd
        obtain ⟨value, hvalue⟩ := exists_get?_of_mem_keys hmem
        rw [hget] at hvalue
        cases hvalue
      exact Entries.get?_of_notMem hnot

end OrderedMap

end ComponentFile
