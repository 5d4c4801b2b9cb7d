import ComponentFile.Proofs.Dict
import ComponentFile.Proofs.Settings.Record

/-!
# The order of keys in settings

A dictionary has its keys in the order in which they come first in the object that gives it, and
what a member of a record gives is what the record has.

## Main definitions

* `Outline.keys` : the keys of an object, in the order in which they come first.

## Main results

* `keys_of_readEntries` : a dictionary has the keys of its object in their order.
* `Form.IsSound.read_eq_of_member?` : what a member says is what the record has.
-/

namespace ComponentFile

/-- The keys of an object, in the order in which they come first. -/
def Json.Outline.keys (o : Json.Outline) : List Text :=
  (o.members.filterMap fun m ↦ m.1.text?).eraseDups

namespace Settings

open Json (Key Outline)

variable {α σ : Type} {room : Nat} {key : Text} {o d : Outline}

theorem keys_of_readMembers {read : Outline → Reading α} {members : List (Key × Outline)}
    {entries : List (Text × α)} (h : readMembers read members = .ok entries) :
    entries.map Prod.fst = members.filterMap fun m ↦ m.1.text? := by
  induction members generalizing entries with
  | nil =>
    obtain rfl := Except.ok.inj h
    rfl
  | cons m members ih =>
    obtain ⟨key, o⟩ := m
    rw [readMembers] at h
    obtain ⟨t, hkey, h⟩ := bind_eq_ok_iff.mp h
    obtain ⟨a, -, h⟩ := bind_eq_ok_iff.mp h
    obtain ⟨rest, hrest, h⟩ := bind_eq_ok_iff.mp h
    obtain rfl := Except.ok.inj h
    have htext : key.text? = some t := by
      cases key with
      | text key => exact congrArg some (Except.ok.inj hkey)
      | unpaired => cases hkey
      | missing => cases hkey
    rw [List.map_cons, ih hrest, List.filterMap_cons, htext]

/-- A dictionary has the keys of its object in the order in which they come first. -/
theorem keys_of_readEntries {read : Nat → Outline → Reading α} {entries : Dict α}
    (h : readEntries read room d = .ok entries) : entries.keys = d.keys := by
  cases d with
  | scalar v =>
    have hreject : (reject .map (.scalar v) : Reading (Dict α)) = .ok entries := by
      cases room <;> exact h
    rcases reject_eq_error .map (.scalar v) with ⟨found, herror⟩ | herror <;>
      cases hreject.symm.trans herror
  | array items closed => cases room <;> cases h
  | broken => cases room <;> cases h
  | object members closed =>
    cases room with
    | zero => cases h
    | succ room =>
      obtain ⟨found, hfound, hend⟩ := bind_eq_ok_iff.mp h
      obtain ⟨-, rfl⟩ := ending_eq_ok_iff.mp hend
      rw [OrderedMap.keys_ofList, keys_of_readMembers hfound]
      rfl

/-- What a member of a record says is what the record has. -/
theorem Form.IsSound.read_eq_of_member? {F : Form σ} {name : Text} {aliases : List Text}
    {read : Nat → Outline → Reading α} {set : α → σ → σ} {s : σ} (hF : F.IsSound) (get : σ → α)
    (hfield : fieldNamed? F.fields key =
      some ⟨name, aliases, fun room o ↦ (read room o).map set⟩)
    (hget : ∀ a s, get (set a s) = a) (hmember : o.member? key = some d)
    (h : F.read (room + 1) o = .ok s) : read room d = .ok (get s) := by
  obtain ⟨⟨key', d'⟩, hfind, rfl⟩ := Option.map_eq_some_iff.mp hmember
  have hmem := List.mem_of_find?_eq_some hfind
  obtain rfl : key' = .text key := by simpa using List.find?_some hfind
  cases o with
  | scalar v => cases hmem
  | array items closed => cases hmem
  | broken => cases hmem
  | object members closed =>
    obtain rfl : closed = true := F.isComplete_of_read h
    rw [F.read_object] at h
    obtain ⟨u, s', hread, rfl⟩ := hF.exists_eq_of_mem hfield hmem h
    obtain ⟨a, ha, rfl⟩ := map_eq_ok_iff.mp hread
    rw [hget]
    exact ha

end Settings

end ComponentFile
