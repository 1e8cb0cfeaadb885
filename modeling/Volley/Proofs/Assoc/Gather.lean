import Mathlib.Data.List.Induction
import Volley.Assoc

/-!
# Collecting by key

Items are collected in a map under keys of their own. Whatever their values become, every key is
there once, and the keys stand in the order in which they first come up.

## Main definitions

- `Assoc.gather`: the map that collects items by key.

## Main results

- `find?_of_mem`, `find?_eq_none_iff`: looking up and being an entry.
- `keys_gather`, `nodup_keys_gather`: the keys of what is collected.
- `find?_ofList_of_last`, `keys_ofList`: of entries for one key the last one counts.
-/

namespace Volley

namespace Assoc

variable {κ ν : Type} [DecidableEq κ]

theorem keys_update (m : Assoc κ ν) (k : κ) (start : ν) (change : ν → ν) :
    (m.update k start change).keys = if k ∈ m.keys then m.keys else m.keys ++ [k] :=
  keys_set m k _

/-- With distinct keys every entry is found under its key. -/
theorem find?_of_mem {m : Assoc κ ν} (distinct : m.keys.Nodup) {k : κ} {v : ν}
    (member : (k, v) ∈ m) : m.find? k = some v := by
  induction m with
  | nil => cases member
  | cons entry rest ih =>
    obtain ⟨k', v'⟩ := entry
    obtain ⟨new, distinct⟩ := List.nodup_cons.1 distinct
    rcases List.mem_cons.1 member with here | there
    · cases here
      simp [find?]
    · -- Were the first key the same, it would be there twice.
      have other : k' ≠ k := fun same => new (same ▸ List.mem_map.2 ⟨(k, v), there, rfl⟩)
      simp [find?, other, ih distinct there]

theorem find?_eq_none_iff {m : Assoc κ ν} {k : κ} : m.find? k = none ↔ k ∉ m.keys := by
  induction m with
  | nil => simp [find?, keys]
  | cons entry rest ih =>
    obtain ⟨k', v⟩ := entry
    simp only [keys] at ih
    by_cases here : k' = k
    · simp [find?, keys, here]
    · simp [find?, keys, here, ih, Ne.symm here]

theorem isSome_find?_iff {m : Assoc κ ν} {k : κ} : (m.find? k).isSome = true ↔ k ∈ m.keys := by
  rw [← Option.ne_none_iff_isSome, ne_eq, find?_eq_none_iff, not_not]

/-- The map that collects items by key, each key with a value that its items change in turn. -/
def gather {α : Type} (key : α → κ) (start : α → ν) (change : α → ν → ν) (xs : List α) :
    Assoc κ ν :=
  xs.foldl (fun (m : Assoc κ ν) x => m.update (key x) (start x) (change x)) []

section Gathering

variable {α : Type} (key : α → κ) (start : α → ν) (change : α → ν → ν)

theorem gather_concat (xs : List α) (x : α) :
    gather key start change (xs ++ [x]) =
      (gather key start change xs).update (key x) (start x) (change x) := by
  simp [gather]

/-- Every key comes up once, in the order in which the items first have it. -/
theorem keys_gather (xs : List α) :
    (gather key start change xs).keys = (xs.map key).eraseDups := by
  induction xs using List.reverseRecOn with
  | nil => rfl
  | append_singleton xs x ih =>
    rw [gather_concat, keys_update, ih, List.map_append, List.eraseDups_append]
    -- A key that was there keeps its place, and a new one comes last.
    by_cases old : key x ∈ xs.map key
    · simp [old, List.cons_removeAll]
    · simp [old, List.cons_removeAll, List.eraseDups_cons]

theorem nodup_keys_gather (xs : List α) : (gather key start change xs).keys.Nodup := by
  induction xs using List.reverseRecOn with
  | nil => exact List.nodup_nil
  | append_singleton xs x ih =>
    rw [gather_concat, keys_update]
    split
    · exact ih
    next new =>
      refine List.nodup_append.2 ⟨ih, by simp, ?_⟩
      rintro k old _ (_ | ⟨_, ⟨⟩⟩) rfl
      exact new old

end Gathering

/-! ### Maps from entries -/

theorem ofList_concat (entries : List (κ × ν)) (entry : κ × ν) :
    ofList (entries ++ [entry]) = (ofList entries).set entry.1 entry.2 := by
  simp [ofList, overlay]

/-- A map from entries collects them, each one taking the place of an earlier one of its key. -/
theorem keys_ofList (entries : List (κ × ν)) :
    (ofList entries).keys = (entries.map Prod.fst).eraseDups :=
  keys_gather Prod.fst Prod.snd (fun entry _ => entry.2) entries

theorem nodup_keys_ofList (entries : List (κ × ν)) : (ofList entries).keys.Nodup :=
  nodup_keys_gather Prod.fst Prod.snd (fun entry _ => entry.2) entries

/-- Of the entries for a key the last one counts. -/
theorem find?_ofList_of_last (before : List (κ × ν)) {k : κ} (v : ν) {after : List (κ × ν)}
    (last : ∀ entry ∈ after, entry.1 ≠ k) :
    (ofList (before ++ (k, v) :: after)).find? k = some v := by
  induction after using List.reverseRecOn with
  | nil => simp [ofList_concat, find?_set]
  | append_singleton after entry ih =>
    -- What is written after it goes to other keys.
    have others := ih fun other member => last other (List.mem_append_left _ member)
    have other : entry.1 ≠ k := last entry (by simp)
    rw [← List.cons_append, ← List.append_assoc, ofList_concat, find?_set, if_neg other, others]

end Assoc

end Volley
