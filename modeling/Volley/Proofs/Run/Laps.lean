import Mathlib.Data.List.Nodup
import Mathlib.Data.List.Perm.Basic
import Volley.Run.World

/-!
# Beginnings and ends of iterations

The history of a run tells when an iteration began and how it ended. A history is orderly if numbers
are given out one after another, each to a user whose last iteration was settled, and if only an
iteration that is under way ends. An iteration is settled by a return or an ordinary fault. The
books of an orderly history balance: every number that was given out is that of a settled iteration
or of the last iteration of exactly one user, which was not settled.

## Main definitions

- `Run.Lap`, `Run.World.laps`: beginnings and ends, the latest first.
- `Run.Lap.begun`, `Run.Lap.settled`: what was given out, and what was settled.
- `Run.Lap.current`, `Run.Lap.unsettled`: the iteration of a user that is under way, and the last
  one unless it was settled.
- `Run.Lap.Orderly`.

## Main results

- `Orderly.numbers`: the numbers are given out in order.
- `Orderly.balance`: begun iterations are settled or left over.
-/

namespace Volley

namespace Run

/-- The beginning or the end of an iteration. -/
inductive Lap where
  | began (vu iteration : Int)
  | ended (vu iteration : Int) (fault : Option Fault)
  deriving DecidableEq, Repr

/-- Beginnings and ends of iterations are laps, and no other events. -/
def Event.lap? {τ : Type} : Event τ → Option Lap
  | .began vu iteration => some (.began vu iteration)
  | .ended vu iteration _ fault => some (.ended vu iteration fault)
  | _ => none

/-- The laps of the history, the latest of them first. -/
def World.laps {τ : Type} (w : World τ) : List Lap :=
  w.history.filterMap Event.lap?

namespace Lap

open List (Perm)
open scoped List

/-- An iteration that returned is settled, and so is one that failed by an ordinary fault. -/
def settles (fault : Option Fault) : Bool :=
  fault.all Fault.isOrdinary

/-- Users and numbers of the iterations that began, the first of them first. -/
def begun : List Lap → List (Int × Int)
  | [] => []
  | .began vu iteration :: earlier => begun earlier ++ [(vu, iteration)]
  | .ended _ _ _ :: earlier => begun earlier

/-- Numbers and faults of the settled iterations, the first of them first. -/
def settled : List Lap → List (Int × Option Fault)
  | [] => []
  | .began _ _ :: earlier => settled earlier
  | .ended _ iteration fault :: earlier =>
    if settles fault then settled earlier ++ [(iteration, fault)] else settled earlier

/-- The faults of the iterations that failed and were settled. -/
def faults (laps : List Lap) : List Fault :=
  (settled laps).filterMap Prod.snd

/-- The number of the iteration of a user that is under way. -/
def current (user : Int) : List Lap → Option Int
  | [] => none
  | .began vu iteration :: earlier => if vu = user then some iteration else current user earlier
  | .ended vu _ _ :: earlier => if vu = user then none else current user earlier

/-- The number of the last iteration of a user, unless that was settled. -/
def unsettled (user : Int) : List Lap → Option Int
  | [] => none
  | .began vu iteration :: earlier => if vu = user then some iteration else unsettled user earlier
  | .ended vu iteration fault :: earlier =>
    if vu = user then if settles fault then none else some iteration else unsettled user earlier

/-- The numbers of those iterations that were the last of their user and were not settled. -/
def leftOver (vus : Nat) (laps : List Lap) : List Int :=
  (List.range vus).filterMap fun vu : Nat => unsettled vu laps

/-- Numbers are given out one after another to so many users, each time to one whose last iteration
was settled, and only an iteration that is under way ends. -/
inductive Orderly (vus : Nat) : List Lap → Prop
  | nil : Orderly vus []
  | began {earlier : List Lap} {vu : Nat} (orderly : Orderly vus earlier) (known : vu < vus)
      (free : unsettled vu earlier = none) :
      Orderly vus (.began vu (begun earlier).length :: earlier)
  | ended {earlier : List Lap} {vu : Nat} {iteration : Int} (orderly : Orderly vus earlier)
      (known : vu < vus) (under_way : current vu earlier = some iteration)
      (fault : Option Fault) : Orderly vus (.ended vu iteration fault :: earlier)

/-- Whose lap it is. -/
def user : Lap → Int
  | .began vu _ => vu
  | .ended vu _ _ => vu

/-- A lap of another user settles nothing. -/
theorem unsettled_cons_of_other {lap : Lap} {someone : Int} (other : lap.user ≠ someone)
    (earlier : List Lap) : unsettled someone (lap :: earlier) = unsettled someone earlier := by
  cases lap with
  | began vu iteration => exact if_neg other
  | ended vu iteration fault => exact if_neg other

/-- A lap of another user begins and ends nothing. -/
theorem current_cons_of_other {lap : Lap} {someone : Int} (other : lap.user ≠ someone)
    (earlier : List Lap) : current someone (lap :: earlier) = current someone earlier := by
  cases lap with
  | began vu iteration => exact if_neg other
  | ended vu iteration fault => exact if_neg other

/-- What is under way is not settled. -/
theorem unsettled_of_current {user iteration : Int} {laps : List Lap}
    (under_way : current user laps = some iteration) : unsettled user laps = some iteration := by
  -- The latest lap of the user decides both, and the laps of others are passed over.
  induction laps with
  | nil => cases under_way
  | cons lap earlier ih =>
    cases lap with
    | began vu number =>
      simp only [current, unsettled] at under_way ⊢
      split
      next same => rwa [if_pos same] at under_way
      next other => rw [if_neg other] at under_way; exact ih under_way
    | ended vu number fault =>
      simp only [current, unsettled] at under_way ⊢
      split
      next same => rw [if_pos same] at under_way; cases under_way
      next other => rw [if_neg other] at under_way; exact ih under_way

/-- Nothing is under way for a user whose last iteration was settled. -/
theorem current_of_unsettled {user : Int} {laps : List Lap} (free : unsettled user laps = none) :
    current user laps = none := by
  cases under_way : current user laps with
  | none => rfl
  | some iteration => rw [unsettled_of_current under_way] at free; cases free

namespace Orderly

variable {vus : Nat} {laps : List Lap}

/-- Numbers are given out in order. -/
theorem numbers (orderly : Orderly vus laps) :
    (begun laps).map Prod.snd = (List.range (begun laps).length).map Nat.cast := by
  induction orderly with
  | nil => rfl
  | began orderly known free ih =>
    simp only [begun, List.map_append, List.length_append, List.length_singleton, ih]
    rw [List.range_succ]
    simp
  | ended orderly known under_way fault ih => exact ih

/-- Only the users of the run are given numbers. -/
theorem known_user (orderly : Orderly vus laps) {user iteration : Int}
    (member : (user, iteration) ∈ begun laps) : 0 ≤ user ∧ user < vus := by
  induction orderly with
  | nil => cases member
  | began orderly known free ih =>
    simp only [begun, List.mem_append, List.mem_singleton, Prod.mk.injEq] at member
    rcases member with member | ⟨rfl, -⟩
    · exact ih member
    · omega
  | ended orderly known under_way fault ih => exact ih member

/-- Whoever begins has nothing under way. -/
theorem one_at_a_time {later earlier : List Lap} {user iteration : Int}
    (orderly : Orderly vus (later ++ .began user iteration :: earlier)) :
    current user earlier = none := by
  -- Laps that came later are taken off one by one, which leaves the others orderly.
  induction later with
  | nil =>
    cases orderly with
    | began orderly known free => exact current_of_unsettled free
  | cons lap later ih =>
    cases orderly with
    | began orderly known free => exact ih orderly
    | ended orderly known under_way fault => exact ih orderly

/-- The numbers of one user increase. -/
theorem increasing (orderly : Orderly vus laps) (user : Int) :
    (((begun laps).filter fun start => start.1 = user).map Prod.snd).Pairwise (· < ·) := by
  -- All numbers increase, so those of one user do.
  have all : ((begun laps).map Prod.snd).Pairwise (· < ·) := by
    rw [orderly.numbers, List.pairwise_map]
    exact List.pairwise_lt_range.imp fun less => by simpa using less
  exact all.sublist (List.filter_sublist.map Prod.snd)

end Orderly

/-- If a partial function on distinct items gets one more value, it has that value besides. -/
theorem filterMap_gain {α β : Type} (before after : α → Option β) {xs : List α}
    (distinct : xs.Nodup) {x : α} (member : x ∈ xs) {value : β} (gone : before x = none)
    (gained : after x = some value) (same : ∀ y, y ≠ x → after y = before y) :
    (xs.filterMap after).Perm (value :: xs.filterMap before) := by
  induction xs with
  | nil => cases member
  | cons y rest ih =>
    have distinct_rest := List.nodup_cons.mp distinct
    by_cases here : y = x
    · subst here
      -- The item does not come again, so behind it nothing changes.
      have unchanged : rest.filterMap after = rest.filterMap before :=
        List.filterMap_congr fun z inside => same z fun eq => distinct_rest.1 (eq ▸ inside)
      simp [gained, gone, unchanged]
    · have inside : x ∈ rest := by simpa [Ne.symm here] using member
      have smaller := ih distinct_rest.2 inside
      cases value_here : before y with
      | none =>
        simpa [List.filterMap_cons, same y here, value_here] using smaller
      | some other =>
        simp only [List.filterMap_cons, same y here, value_here]
        exact (smaller.cons other).trans (.swap value other _)

namespace Orderly

variable {vus : Nat} {laps : List Lap}

/-- Every number that was given out is that of a settled iteration or of the last iteration of one
user, which was not settled. -/
theorem balance (orderly : Orderly vus laps) :
    ((begun laps).map Prod.snd).Perm
      ((settled laps).map Prod.fst ++ leftOver vus laps) := by
  induction orderly with
  | nil => simp [begun, settled, leftOver, unsettled]
  | @began earlier vu orderly known free ih =>
    -- The new number is left over until its iteration ends.
    have gained : leftOver vus (.began vu (begun earlier).length :: earlier) ~
        ((begun earlier).length : Int) :: leftOver vus earlier := by
      apply filterMap_gain (fun user : Nat => unsettled user earlier)
        (fun user : Nat => unsettled user (.began vu (begun earlier).length :: earlier))
        List.nodup_range (List.mem_range.mpr known) free
      · simp [unsettled]
      · intro other different
        apply unsettled_cons_of_other
        simp only [user]
        omega
    simp only [begun, settled, List.map_append]
    calc (begun earlier).map Prod.snd ++ [((begun earlier).length : Int)]
        ~ ((begun earlier).length : Int) :: (begun earlier).map Prod.snd :=
          List.perm_append_singleton _ _
      _ ~ ((begun earlier).length : Int) ::
            ((settled earlier).map Prod.fst ++ leftOver vus earlier) :=
          ih.cons _
      _ ~ (settled earlier).map Prod.fst ++
            ((begun earlier).length : Int) :: leftOver vus earlier :=
          List.perm_middle.symm
      _ ~ _ := gained.symm.append_left _
  | @ended earlier vu iteration orderly known under_way fault ih =>
    have open_ := unsettled_of_current under_way
    cases settling : settles fault with
    | true =>
      -- Its number goes from what is left over to what is settled.
      have lost : leftOver vus earlier ~
          iteration :: leftOver vus (.ended vu iteration fault :: earlier) := by
        apply filterMap_gain
          (fun user : Nat => unsettled user (.ended vu iteration fault :: earlier))
          (fun user : Nat => unsettled user earlier)
          List.nodup_range (List.mem_range.mpr known) _ open_
        · intro other different
          symm
          apply unsettled_cons_of_other
          simp only [user]
          omega
        · simp [unsettled, settling]
      simp only [begun, settled, settling, if_true, List.map_append, List.append_assoc]
      exact Perm.trans ih (Perm.append_left ((settled earlier).map Prod.fst) lost)
    | false =>
      -- It was left over while it was under way, and it stays so.
      have kept : leftOver vus (.ended vu iteration fault :: earlier) = leftOver vus earlier := by
        apply List.filterMap_congr
        intro other _
        by_cases here : vu = other
        · subst here
          simp [unsettled, settling, open_]
        · apply unsettled_cons_of_other
          simp only [user]
          omega
      simpa [begun, settled, settling, kept] using ih

/-- As many iterations began as are settled or left over. -/
theorem length_begun (orderly : Orderly vus laps) :
    (begun laps).length = (settled laps).length + (leftOver vus laps).length := by
  simpa using orderly.balance.length_eq

/-- No number is settled twice, since none is given out twice. -/
theorem settled_nodup (orderly : Orderly vus laps) : ((settled laps).map Prod.fst).Nodup := by
  have distinct : ((begun laps).map Prod.snd).Nodup := by
    rw [orderly.numbers]
    exact List.nodup_range.map fun a b same => Int.natCast_inj.mp same
  exact (List.nodup_append.mp (orderly.balance.nodup_iff.mp distinct)).1

/-- Only a number that was given out is that of a settled iteration. -/
theorem lt_of_settled (orderly : Orderly vus laps) {iteration : Int}
    (member : iteration ∈ (settled laps).map Prod.fst) :
    0 ≤ iteration ∧ iteration < (begun laps).length := by
  have started : iteration ∈ (begun laps).map Prod.snd :=
    orderly.balance.mem_iff.mpr (List.mem_append_left _ member)
  rw [orderly.numbers, List.mem_map] at started
  obtain ⟨number, inside, rfl⟩ := started
  have below := List.mem_range.mp inside
  omega

/-- As many iterations are settled as there are numbers just if all of them are. -/
theorem settled_all_iff (orderly : Orderly vus laps) {total : Nat}
    (bound : (begun laps).length ≤ total) :
    total ≤ (settled laps).length ↔
      ∀ number < total, (number : Int) ∈ (settled laps).map Prod.fst := by
  -- Settled numbers are distinct and lie within the range, so they fill it just if there are as
  -- many of them.
  have within : (settled laps).map Prod.fst ⊆ (List.range total).map Nat.cast := by
    intro iteration member
    obtain ⟨positive, below⟩ := orderly.lt_of_settled member
    exact List.mem_map.mpr
      ⟨iteration.toNat, List.mem_range.mpr (by omega), Int.toNat_of_nonneg positive⟩
  have distinct : ((List.range total).map (Nat.cast : Nat → Int)).Nodup :=
    List.nodup_range.map fun a b same => Int.natCast_inj.mp same
  constructor
  · intro enough number below
    have whole : ((settled laps).map Prod.fst).Perm ((List.range total).map Nat.cast) :=
      (List.subperm_of_subset orderly.settled_nodup within).perm_of_length_le
        (by simpa using enough)
    exact whole.mem_iff.mpr (List.mem_map.mpr ⟨number, by simpa using below, rfl⟩)
  · intro all
    have covered : (List.range total).map Nat.cast ⊆ (settled laps).map Prod.fst := by
      intro iteration member
      obtain ⟨number, below, rfl⟩ := List.mem_map.mp member
      exact all number (List.mem_range.mp below)
    simpa using (List.subperm_of_subset distinct covered).length_le

end Orderly

end Lap

end Run

end Volley
