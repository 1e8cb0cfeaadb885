/-!
# Insertion-ordered maps

A map as the list of its entries in the order in which their keys came in. Setting a key that is
present replaces its value in place; a new key goes to the end.

## Main definitions

- `Assoc`: the map type.
- `Assoc.find?`, `Assoc.set`, `Assoc.erase`, `Assoc.update`: one key.
- `Assoc.ofList`, `Assoc.overlay`: many entries, the later ones winning.

## Main results

- `find?_set`: a map answers with the value that was set last.
- `keys_set`: setting keeps the order of the keys that are present.
- `ofList_eq_self`: entries with distinct keys are the map that they describe.
-/

namespace Volley

abbrev Assoc (κ ν : Type) := List (κ × ν)

namespace Assoc

variable {κ ν : Type} [DecidableEq κ]

def find? (m : Assoc κ ν) (k : κ) : Option ν :=
  match m with
  | [] => none
  | (k', v) :: rest => if k' = k then some v else find? rest k

/-- Puts a value under a key: in place if the key is present, else at the end. -/
def set (m : Assoc κ ν) (k : κ) (v : ν) : Assoc κ ν :=
  match m with
  | [] => [(k, v)]
  | (k', v') :: rest => if k' = k then (k', v) :: rest else (k', v') :: set rest k v

def erase (m : Assoc κ ν) (k : κ) : Assoc κ ν :=
  List.filter (fun entry => entry.1 ≠ k) m

/-- Changes the value under a key, starting from `start` if the key is new. -/
def update (m : Assoc κ ν) (k : κ) (start : ν) (change : ν → ν) : Assoc κ ν :=
  m.set k (change ((m.find? k).getD start))

def overlay (base upper : Assoc κ ν) : Assoc κ ν :=
  upper.foldl (fun m entry => m.set entry.1 entry.2) base

/-- The map that a list of entries describes; of two entries for a key the later one counts. -/
def ofList (entries : List (κ × ν)) : Assoc κ ν :=
  overlay [] entries

def keys (m : Assoc κ ν) : List κ :=
  List.map Prod.fst m

def values (m : Assoc κ ν) : List ν :=
  List.map Prod.snd m

def contains (m : Assoc κ ν) (k : κ) : Bool :=
  (m.find? k).isSome

theorem find?_set (m : Assoc κ ν) (k j : κ) (v : ν) :
    (m.set k v).find? j = if k = j then some v else m.find? j := by
  induction m with
  | nil => simp [set, find?]
  | cons entry rest ih =>
    obtain ⟨k', v'⟩ := entry
    by_cases same : k' = k
    · subst same
      by_cases hit : k' = j <;> simp [set, find?, hit]
    · by_cases hit : k' = j
      · subst hit
        have other : ¬ k = k' := fun eq => same eq.symm
        simp [set, find?, same, other]
      · simp [set, find?, same, hit, ih]

theorem keys_set (m : Assoc κ ν) (k : κ) (v : ν) :
    (m.set k v).keys = if k ∈ m.keys then m.keys else m.keys ++ [k] := by
  induction m with
  | nil => simp [set, keys]
  | cons entry rest ih =>
    obtain ⟨k', v'⟩ := entry
    by_cases same : k' = k
    · subst same
      simp [set, keys]
    · have other : ¬ k = k' := fun eq => same eq.symm
      simp only [keys] at ih
      by_cases inside : k ∈ List.map Prod.fst rest <;>
        simp [set, keys, same, other, inside, ih]

theorem set_of_notMem {m : Assoc κ ν} {k : κ} (new : k ∉ m.keys) (v : ν) :
    m.set k v = m ++ [(k, v)] := by
  induction m with
  | nil => rfl
  | cons entry rest ih =>
    obtain ⟨k', v'⟩ := entry
    simp only [keys, List.map_cons, List.mem_cons, not_or] at new
    have other : ¬ k' = k := fun eq => new.1 eq.symm
    rw [set, if_neg other, ih new.2, List.cons_append]

theorem overlay_eq_append (base : Assoc κ ν) {upper : Assoc κ ν}
    (distinct : (keys (base ++ upper)).Nodup) :
    base.overlay upper = base ++ upper := by
  induction upper generalizing base with
  | nil => exact (List.append_nil base).symm
  | cons entry rest ih =>
    have new : entry.1 ∉ base.keys := by
      intro old
      rw [keys, List.map_append, List.map_cons] at distinct
      exact (List.nodup_append.1 distinct).2.2 _ old _ (.head _) rfl
    have moved : base ++ entry :: rest = (base ++ [entry]) ++ rest := by simp
    rw [moved] at distinct ⊢
    rw [overlay, List.foldl_cons, set_of_notMem new]
    exact ih (base ++ [entry]) distinct

theorem ofList_eq_self {entries : List (κ × ν)} (distinct : (keys entries).Nodup) :
    ofList entries = entries :=
  overlay_eq_append [] distinct

end Assoc

end Volley
