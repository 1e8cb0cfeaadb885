import Mathlib.Algebra.Group.Basic
import Mathlib.Algebra.Group.Nat.Defs
import Mathlib.Data.List.Induction
import Volley.Metric.Collector

/-!
# Counting by name

The collector counts the faults of iterations by the name of their kind and the results of checks by
their label, each in a map that keeps the order in which the names first came up. Looked at as a map
it depends only on how often everything came up, so what users recorded at the same time may be
counted in any order.

## Main definitions

- `Collector.blame`: faults counted by name.
- `CheckResult.seen`: what a tally sees of a check result.
- `Summary.totals`: the part of a summary that no order shows in.

## Main results

- `sum_update`: what counting under a key does to a sum over all keys.
- `find?_blame`, `sum_blame`, `find?_tally`, `tally_of_label`, `length_eq_total`: the counts.
- `totals_of_perm`: collectors with the same content in another order have the same totals.
-/

namespace Volley

namespace Assoc

variable {κ ν : Type} [DecidableEq κ]

theorem find?_update (m : Assoc κ ν) (k j : κ) (start : ν) (change : ν → ν) :
    (m.update k start change).find? j =
      if k = j then some (change ((m.find? j).getD start)) else m.find? j := by
  rw [update, find?_set]
  split
  next same => rw [same]
  next => rfl

theorem find?_map {μ : Type} (f : ν → μ) (m : Assoc κ ν) (k : κ) :
    find? (List.map (fun entry => (entry.1, f entry.2)) m) k = (m.find? k).map f := by
  induction m with
  | nil => rfl
  | cons entry rest ih =>
    obtain ⟨k', v⟩ := entry
    by_cases here : k' = k <;> simp [find?, here, ih]

/-- A sum over the values grows by what a change adds to the value that it changes. -/
theorem sum_update {M : Type} [AddCommMonoid M] (weight : ν → M) {start : ν} {change : ν → ν}
    {d : M} (fresh : weight start = 0) (grows : ∀ v, weight (change v) = weight v + d)
    (m : Assoc κ ν) (k : κ) :
    ((m.update k start change).values.map weight).foldr (· + ·) 0 =
      (m.values.map weight).foldr (· + ·) 0 + d := by
  unfold update
  induction m with
  | nil => simp [set, find?, values, grows, fresh]
  | cons entry rest ih =>
    obtain ⟨k', v⟩ := entry
    -- At the key the change is counted once; at any other the rest of the map decides.
    by_cases here : k' = k
    · simp [set, find?, here, values, grows, add_right_comm]
    · simp only [set, find?, here, values, if_false, List.map_cons, List.foldr_cons] at ih ⊢
      rw [ih, add_assoc]

end Assoc

def CheckResult.seen (r : CheckResult) : String × Bool :=
  (r.name, r.passed)

namespace Collector

/-! ### Faults by name -/

/-- How often each kind of fault came up. -/
def blame (faults : List Fault) : Assoc String Nat :=
  faults.foldl (fun counts f => counts.update f.name 0 (· + 1)) []

theorem blame_concat (faults : List Fault) (fault : Fault) :
    blame (faults ++ [fault]) = (blame faults).update fault.name 0 (· + 1) := by
  simp [blame]

/-- A name has the number of its faults, if it has come up at all. -/
theorem find?_blame (faults : List Fault) (name : String) :
    (blame faults).find? name =
      if faults.countP (·.name = name) = 0 then none
      else some (faults.countP (·.name = name)) := by
  induction faults using List.reverseRecOn with
  | nil => rfl
  | append_singleton faults fault ih =>
    -- By induction from the back, as counting adds the latest fault last.
    rw [blame_concat, Assoc.find?_update, ih, List.countP_append]
    by_cases here : fault.name = name
    · by_cases unknown : faults.countP (·.name = name) = 0 <;> simp [here, unknown]
    · simp [here]

theorem sum_blame (faults : List Fault) :
    (blame faults).values.foldr (· + ·) 0 = faults.length := by
  induction faults using List.reverseRecOn with
  | nil => rfl
  | append_singleton faults fault ih =>
    have grows (n : Nat) : id (n + 1) = id n + 1 := rfl
    have counted := Assoc.sum_update id rfl grows (blame faults) fault.name
    rw [List.map_id, List.map_id, ih] at counted
    rw [blame_concat, counted, List.length_append, List.length_singleton]

/-! ### Checks by label -/

theorem tally_concat (results : List CheckResult) (r : CheckResult) :
    tally (results ++ [r]) =
      (tally results).update r.name { name := r.name } fun t => t.count r.passed := by
  simp [tally]

/-- A label has its passes and fails, if it has come up at all. -/
theorem find?_tally (results : List CheckResult) (label : String) :
    (tally results).find? label =
      if (results.map CheckResult.seen).count (label, true) = 0 ∧
          (results.map CheckResult.seen).count (label, false) = 0 then none
      else some
        { name := label
          passes := (results.map CheckResult.seen).count (label, true)
          fails := (results.map CheckResult.seen).count (label, false) } := by
  induction results using List.reverseRecOn with
  | nil => rfl
  | append_singleton results r ih =>
    obtain ⟨name, passed, vu, iteration⟩ := r
    rw [tally_concat, Assoc.find?_update, ih]
    by_cases here : name = label
    · subst here
      -- The first result under a label starts its tally.
      by_cases unknown : (results.map CheckResult.seen).count (name, true) = 0 ∧
          (results.map CheckResult.seen).count (name, false) = 0
      · rw [if_pos rfl, if_pos unknown]
        cases passed <;> simp [Tally.count, CheckResult.seen, unknown]
      · rw [if_pos rfl, if_neg unknown]
        cases passed <;> simp [Tally.count, CheckResult.seen]
    · simp [here, CheckResult.seen]

/-- Results that all have one label make one tally, if there are any. -/
theorem tally_of_label {results : List CheckResult} {label : String}
    (same : ∀ r ∈ results, r.name = label) :
    tally results = if results = [] then []
      else [(label, { name := label
                      passes := results.countP (·.passed)
                      fails := results.countP fun r => !r.passed })] := by
  induction results using List.reverseRecOn with
  | nil => rfl
  | append_singleton results r ih =>
    have before := ih fun r' member => same r' (List.mem_append_left _ member)
    obtain ⟨name, passed, vu, iteration⟩ := r
    obtain rfl : name = label := same ⟨name, passed, vu, iteration⟩ (by simp)
    rw [tally_concat, before]
    -- The first result starts the tally, and any other is counted in it.
    by_cases first : results = []
    · subst first
      cases passed <;> simp [Assoc.update, Assoc.set, Assoc.find?, Tally.count]
    · rw [if_neg first]
      cases passed <;> simp [Assoc.update, Assoc.set, Assoc.find?, Tally.count]

/-! ### Responses by status -/

/-- Wherever a status stands, counting it adds one to the sum. -/
theorem total_countStatus (status : Int) (counts : Assoc Int Int) :
    Summary.total (countStatus status counts).values = Summary.total counts.values + 1 := by
  induction counts with
  | nil => rfl
  | cons entry rest ih =>
    obtain ⟨s, n⟩ := entry
    simp only [Summary.total, Assoc.values] at ih ⊢
    unfold countStatus
    -- Before the first one, at it, or after it.
    split
    · simp only [List.map_cons, List.foldr_cons]
      omega
    · split
      · simp only [List.map_cons, List.foldr_cons]
        omega
      · simp only [List.map_cons, List.foldr_cons, ih]
        omega

theorem statusCounts_concat {τ : Type} (requests : List (Metric τ)) (m : Metric τ) :
    statusCounts (requests ++ [m]) = if isRequestError m then statusCounts requests
      else countStatus m.status (statusCounts requests) := by
  simp [statusCounts]

/-- Every request either failed before there was a response or is counted under a status. -/
theorem length_eq_total {τ : Type} (requests : List (Metric τ)) :
    (requests.length : Int) =
      requests.countP isRequestError + Summary.total (statusCounts requests).values := by
  induction requests using List.reverseRecOn with
  | nil => rfl
  | append_singleton requests m ih =>
    rw [statusCounts_concat, List.length_append, List.countP_append, List.countP_singleton]
    cases failed : isRequestError m with
    | true =>
      simp only [if_true, List.length_singleton]
      omega
    | false =>
      simp only [Bool.false_eq_true, if_false, total_countStatus, List.length_singleton]
      omega

end Collector

/-! ### Totals -/

/-- The part of a summary that no order shows in. -/
structure Totals where
  iterations : Int
  iterationErrors : Int
  errorsByType : String → Option Int
  checks : String → Option Tally

def Summary.totals {τ : Type} (s : Summary τ) : Totals :=
  { iterations := s.iterations
    iterationErrors := s.iterationErrors
    errorsByType := fun name => s.errorsByType.find? name
    checks := fun label => s.checks.find? label }

namespace Collector

variable {τ : Type} [Scalar τ]

/-- Collectors that counted the same iterations, and the same faults and checks in any order, have
the same totals. -/
theorem totals_of_perm {c c' : Collector τ} {faults faults' : List Fault} (elapsed elapsed' : τ)
    (iterations : c.iterations = c'.iterations)
    (blamed : c.iterationErrors = blame faults) (blamed' : c'.iterationErrors = blame faults')
    (sameFaults : faults.Perm faults')
    (sameChecks : (c.checks.map CheckResult.seen).Perm (c'.checks.map CheckResult.seen)) :
    (c.summarize elapsed).totals = (c'.summarize elapsed').totals := by
  simp only [Summary.totals, summarize, Totals.mk.injEq]
  refine ⟨congrArg _ iterations, ?_, funext ?_, funext ?_⟩
  · rw [errorCount, errorCount, blamed, blamed', sum_blame, sum_blame, sameFaults.length_eq]
  · intro name
    rw [Assoc.find?_map, Assoc.find?_map, blamed, blamed', find?_blame, find?_blame,
      sameFaults.countP_eq]
  · -- A tally has counts only, and its label from the key.
    intro label
    rw [find?_tally, find?_tally, sameChecks.count_eq, sameChecks.count_eq]

end Collector

end Volley
