import Mathlib.Algebra.Order.Field.Rat
import Mathlib.Data.List.DropRight
import Mathlib.Data.List.ReduceOption
import Volley.Proofs.Assoc.Gather
import Volley.Proofs.Metric.Tally
import Volley.Scalar.Rational

/-!
# What a summary counts

A collector is told of requests, checks and ends of iterations in any order, is asked for summaries
in between and may be reset. What it holds are the records since the last reset, kind by kind, and a
summary counts them exactly: every request is a failure or has its status, every end of an iteration
is a return or has the kind of its fault, every check has passed or failed under its label.

## Main definitions

- `Records`, `Collector.recorded`: the records since the last reset, kind by kind.
- `Collector.perform`: a collector under a sequence of acts, with the summaries that it gives.
- `IsShare`: a rate as a rational number.
- `Summary.Counts`: a summary that counts records exactly.
- `Collector.Gives`: the summary that is asked for at a place.

## Main results

- `ascending_statusCounts`, `find?_statusCounts`: statuses ascend, and each has its requests.
- `recorded_concat`, `perform_eq`: a collector holds the records since the last reset.
- `summarize_counts`: a summary at any place counts these records and depends on nothing else.
-/

namespace Volley

namespace Collector

variable {τ : Type}

/-! ### Statuses -/

/-- Counting a status adds its key, and no other. -/
theorem mem_keys_countStatus {status code : Int} {counts : Assoc Int Int} :
    code ∈ (countStatus status counts).keys ↔ code = status ∨ code ∈ counts.keys := by
  induction counts with
  | nil => simp [countStatus, Assoc.keys]
  | cons entry rest ih =>
    obtain ⟨s, n⟩ := entry
    simp only [Assoc.keys] at ih
    simp only [countStatus, Assoc.keys]
    split
    · simp
    · split
      next same => simp [same]
      next => simp [ih, or_left_comm]

theorem ascending_countStatus (status : Int) {counts : Assoc Int Int}
    (ascending : counts.keys.Pairwise (· < ·)) :
    (countStatus status counts).keys.Pairwise (· < ·) := by
  induction counts with
  | nil => simp [countStatus, Assoc.keys]
  | cons entry rest ih =>
    obtain ⟨s, n⟩ := entry
    obtain ⟨above, later⟩ := List.pairwise_cons.1 ascending
    unfold countStatus
    split
    -- A status below the first one goes before it, and so below all.
    next less =>
      refine List.pairwise_cons.2 ⟨?_, ascending⟩
      intro code member
      rcases List.mem_cons.1 member with rfl | member
      · exact less
      · exact less.trans (above code member)
    · split
      · exact ascending
      next notLess other =>
        refine List.pairwise_cons.2 ⟨?_, ih later⟩
        intro code member
        rcases mem_keys_countStatus.1 member with rfl | member
        · change s < code
          omega
        · exact above code member

/-- Only the count of the status itself changes. In ascending order no count of it is passed over
on the way to its place. -/
theorem find?_countStatus (status code : Int) {counts : Assoc Int Int}
    (ascending : counts.keys.Pairwise (· < ·)) :
    (countStatus status counts).find? code =
      if status = code then some ((counts.find? code).getD 0 + 1) else counts.find? code := by
  induction counts with
  | nil => simp [countStatus, Assoc.find?]
  | cons entry rest ih =>
    obtain ⟨s, n⟩ := entry
    obtain ⟨above, later⟩ := List.pairwise_cons.1 ascending
    unfold countStatus
    split
    next less =>
      by_cases here : status = code
      · -- What is above the first one of an ascending list is not the status below it.
        have absent : status ∉ Assoc.keys ((s, n) :: rest) := by
          intro member
          rcases List.mem_cons.1 member with same | member
          · exact less.ne same
          · exact (less.trans (above status member)).false
        subst here
        rw [Assoc.find?_eq_none_iff.2 absent]
        simp [Assoc.find?]
      · simp [Assoc.find?, here]
    · split
      next same =>
        subst same
        by_cases here : status = code <;> simp [Assoc.find?, here]
      next notLess other =>
        by_cases first : s = code
        · have notCode : status ≠ code := fun same => other (same.trans first.symm)
          simp [Assoc.find?, first, notCode]
        · simp [Assoc.find?, first, ih later]

theorem ascending_statusCounts (requests : List (Metric τ)) :
    (statusCounts requests).keys.Pairwise (· < ·) := by
  induction requests using List.reverseRecOn with
  | nil => exact .nil
  | append_singleton requests m ih =>
    rw [statusCounts_concat]
    split
    · exact ih
    · exact ascending_countStatus _ ih

/-- A status has the number of the requests that did not fail before it came, if there are any. -/
theorem find?_statusCounts (requests : List (Metric τ)) (code : Int) :
    (statusCounts requests).find? code =
      if requests.countP (fun m => !isRequestError m && m.status == code) = 0 then none
      else some (requests.countP fun m => !isRequestError m && m.status == code) := by
  induction requests using List.reverseRecOn with
  | nil => rfl
  | append_singleton requests m ih =>
    rw [statusCounts_concat, List.countP_append, List.countP_singleton]
    cases failed : isRequestError m with
    | true => simpa [failed] using ih
    | false =>
      rw [if_neg (by simp), find?_countStatus _ _ (ascending_statusCounts requests), ih]
      by_cases here : m.status = code
      · -- The first one of a status makes its entry, the others count it up.
        by_cases unknown :
          requests.countP (fun m => !isRequestError m && m.status == code) = 0 <;>
        simp [here, unknown]
      · simp [here]

/-! ### Acts and records -/

@[simp] def Act.request? : Act τ → Option (Metric τ)
  | .request metric => some metric
  | _ => none

@[simp] def Act.check? : Act τ → Option CheckResult
  | .check result => some result
  | _ => none

@[simp] def Act.iteration? : Act τ → Option (Option Fault)
  | .iteration fault => some fault
  | _ => none

@[simp] def Act.isReset : Act τ → Bool
  | .reset => true
  | _ => false

/-- The acts since the last reset. -/
def recent (acts : List (Act τ)) : List (Act τ) :=
  acts.rtakeWhile fun act => !act.isReset

theorem recent_concat (acts : List (Act τ)) (act : Act τ) :
    recent (acts ++ [act]) = if act.isReset then [] else recent acts ++ [act] := by
  rw [recent, List.rtakeWhile_concat]
  cases act.isReset <;> rfl

end Collector

/-- Records kind by kind, each kind in its order. An iteration is recorded by the fault that ended
it, if there was one. -/
structure Records (τ : Type) where
  requests : List (Metric τ)
  checks : List CheckResult
  ends : List (Option Fault)

namespace Collector

variable {τ : Type}

/-- What was recorded since the last reset. -/
def recorded (acts : List (Act τ)) : Records τ :=
  { requests := (recent acts).filterMap Act.request?
    checks := (recent acts).filterMap Act.check?
    ends := (recent acts).filterMap Act.iteration? }

/-- An act other than a reset joins the records of its kind. -/
theorem recorded_concat (acts : List (Act τ)) {act : Act τ} (kept : act.isReset = false) :
    recorded (acts ++ [act]) =
      { requests := (recorded acts).requests ++ act.request?.toList
        checks := (recorded acts).checks ++ act.check?.toList
        ends := (recorded acts).ends ++ act.iteration?.toList } := by
  cases act <;> simp_all [recorded, recent_concat]

/-- The collector that holds these records. -/
def holding (r : Records τ) : Collector τ :=
  { requests := r.requests
    checks := r.checks
    iterations := r.ends.countP Option.isNone
    iterationErrors := blame (r.ends.reduceOption) }

variable [Scalar τ]

/-- A collector under a sequence of acts: how it is left, and the summaries that it gives. -/
def perform (c : Collector τ) : List (Act τ) → Collector τ × List (Summary τ)
  | [] => (c, [])
  | act :: rest =>
    let next := c.act act
    let others := perform next.1 rest
    (others.1, next.2.toList ++ others.2)

theorem perform_append (c : Collector τ) (before after : List (Act τ)) :
    c.perform (before ++ after) =
      (((c.perform before).1.perform after).1,
        (c.perform before).2 ++ ((c.perform before).1.perform after).2) := by
  induction before generalizing c with
  | nil => rfl
  | cons act rest ih => simp [perform, ih]

/-- A new collector holds what was recorded since the last reset. -/
theorem perform_eq (acts : List (Act τ)) :
    (perform {} acts).1 = holding (recorded acts) := by
  induction acts using List.reverseRecOn with
  | nil => rfl
  | append_singleton acts act ih =>
    rw [perform_append, ih]
    cases act with
    | request | check | summarize =>
      rw [recorded_concat acts rfl]
      simp [perform, act, recordRequest, recordCheck, holding]
    | iteration fault =>
      rw [recorded_concat acts rfl]
      cases fault <;>
        simp [perform, act, recordIteration, holding, List.reduceOption_append, blame_concat]
    | reset => simp [perform, act, reset, holding, recorded, recent_concat, blame]

end Collector

/-! ### Rates -/

/-- A rate as a rational number: the part of a whole that something is, and zero of nothing. -/
structure IsShare (rate : Rat) (part whole : Nat) : Prop where
  product : rate * whole = part
  nonneg : 0 ≤ rate
  le_one : rate ≤ 1
  nothing : whole = 0 → rate = 0

theorem Scalar.share_isShare {part whole : Nat} (le : part ≤ whole) :
    ∃ rate : Rat, Scalar.share (part : Int) (whole : Int) = .ok rate ∧ IsShare rate part whole := by
  rcases Nat.eq_zero_or_pos whole with rfl | some_
  · -- Of nothing there is nothing, and the rate is zero by convention.
    obtain rfl := Nat.le_zero.1 le
    exact ⟨0, rfl, by simp, le_rfl, zero_le_one, fun _ => rfl⟩
  · have positive : (0 : Rat) < whole := by exact_mod_cast some_
    have inside : (part : Rat) ≤ whole := by exact_mod_cast le
    refine ⟨(part : Rat) / whole, ?_, ?_, ?_, ?_, ?_⟩
    · rw [share, if_neg (by omega)]
      simp [reaches, ratio]
    · exact div_mul_cancel₀ _ positive.ne'
    · exact div_nonneg (Nat.cast_nonneg _) positive.le
    · exact (div_le_one₀ positive).2 inside
    · omega

/-! ### Summaries -/

/-- A summary that counts these records exactly. -/
structure Summary.Counts {τ : Type} (s : Summary τ) (elapsed : τ) (r : Records τ) : Prop where
  elapsed : s.elapsed = elapsed
  requests : s.totalRequests = r.requests.length
  requestErrors : s.requestErrors =
    r.requests.countP fun m => m.error.isSome && m.status == 0
  /-- Every request is a failure or has its status. -/
  balance : s.totalRequests = s.requestErrors + total s.statusCounts.values
  ascending : s.statusCounts.keys.Pairwise (· < ·)
  positive : ∀ n ∈ s.statusCounts.values, 0 < n
  status : ∀ code, (s.statusCounts.find? code).getD 0 =
    r.requests.countP fun m => !(m.error.isSome && m.status == 0) && m.status == code
  iterations : s.iterations = r.ends.countP Option.isNone
  ends : s.iterations + s.iterationErrors = r.ends.length
  errors : s.iterationErrors = total s.errorsByType.values
  errorTypes : s.errorsByType.keys = (r.ends.reduceOption.map Fault.name).eraseDups
  errorType : ∀ name, (s.errorsByType.find? name).getD 0 =
    r.ends.reduceOption.countP (·.name = name)
  distinct : s.checks.keys.Nodup
  labels : s.checks.keys = (r.checks.map CheckResult.name).eraseDups
  /-- Every tally stands under its own name, with the passes and fails of that label. -/
  tallies : ∀ entry ∈ s.checks, entry.2 =
    { name := entry.1
      passes := (r.checks.map CheckResult.seen).count (entry.1, true)
      fails := (r.checks.map CheckResult.seen).count (entry.1, false) }
  passed : s.checksPassed = r.checks.countP (·.passed)
  checks : s.checksPassed + s.checksFailed = r.checks.length
  passRate : ∀ entry ∈ s.checks, ∃ rate : Rat, entry.2.passRate = .ok rate ∧
    IsShare rate ((r.checks.map CheckResult.seen).count (entry.1, true))
      (r.checks.countP (·.name = entry.1))
  /-- The rate of failures, read as a rational number. -/
  failureRate : ∀ exact : Summary Rat, exact.checks = s.checks →
    ∃ rate, exact.checkFailureRate = .ok rate ∧
      IsShare rate (r.checks.countP fun c => !c.passed) r.checks.length

namespace Collector

theorem total_map_ofNat (counts : List Nat) :
    Summary.total (counts.map Int.ofNat) = (counts.foldr (· + ·) 0 : Nat) := by
  induction counts with
  | nil => rfl
  | cons n rest ih =>
    simp only [Summary.total, List.map_cons, List.foldr_cons, Int.ofNat_eq_natCast] at ih ⊢
    omega

/-- The checks of a tally that ended so. -/
def part (outcome : Bool) (t : Tally) : Int :=
  if outcome then t.passes else t.fails

theorem part_count (outcome passed : Bool) (t : Tally) :
    part outcome (t.count passed) = part outcome t + if passed = outcome then 1 else 0 := by
  cases outcome <;> cases passed <;> simp [part, Tally.count]

theorem total_part (outcome : Bool) (results : List CheckResult) :
    Summary.total ((tally results).values.map (part outcome)) =
      results.countP (·.passed = outcome) := by
  induction results using List.reverseRecOn with
  | nil => rfl
  | append_singleton results r ih =>
    have fresh : part outcome { name := r.name } = 0 := by cases outcome <;> rfl
    have grows :=
      Assoc.sum_update (part outcome) fresh (part_count outcome r.passed) (tally results) r.name
    unfold Summary.total at ih ⊢
    rw [tally_concat, grows, ih, List.countP_append, List.countP_singleton]
    by_cases counts : r.passed = outcome <;> simp [counts]

/-- A check has passed or failed. -/
theorem passed_add_failed (results : List CheckResult) :
    results.countP (·.passed) + results.countP (fun r => !r.passed) = results.length := by
  simpa using (List.length_eq_countP_add_countP (fun r : CheckResult => r.passed)).symm

/-- So has a check under a label. -/
theorem count_seen (results : List CheckResult) (label : String) :
    (results.map CheckResult.seen).count (label, true) +
      (results.map CheckResult.seen).count (label, false) =
        results.countP (·.name = label) := by
  induction results with
  | nil => rfl
  | cons r rest ih =>
    -- A check is counted under its label once, as passed or as failed.
    rw [List.map_cons, List.count_cons, List.count_cons, List.countP_cons, ← ih]
    by_cases here : r.name = label <;> cases passed : r.passed <;>
      simp [CheckResult.seen, here, passed] <;> omega

variable {τ : Type}

theorem checksPassed_of_tally {s : Summary τ} (results : List CheckResult)
    (tallied : s.checks = tally results) : s.checksPassed = results.countP (·.passed) := by
  rw [Summary.checksPassed, tallied]
  exact (total_part true results).trans (by simp)

theorem checksFailed_of_tally {s : Summary τ} (results : List CheckResult)
    (tallied : s.checks = tally results) : s.checksFailed = results.countP fun r => !r.passed := by
  rw [Summary.checksFailed, tallied]
  exact (total_part false results).trans (by simp)

theorem tally_eq_gather (results : List CheckResult) :
    tally results = Assoc.gather CheckResult.name (fun r => ({ name := r.name } : Tally))
      (fun r t => t.count r.passed) results :=
  rfl

theorem blame_eq_gather (faults : List Fault) :
    blame faults = Assoc.gather Fault.name (fun _ => 0) (fun _ n => n + 1) faults :=
  rfl

theorem keys_tally (results : List CheckResult) :
    (tally results).keys = (results.map CheckResult.name).eraseDups := by
  rw [tally_eq_gather, Assoc.keys_gather]

theorem nodup_keys_tally (results : List CheckResult) : (tally results).keys.Nodup := by
  rw [tally_eq_gather]
  exact Assoc.nodup_keys_gather _ _ _ results

/-- Every tally stands under its own name and has the passes and fails of that label. -/
theorem eq_of_mem_tally {results : List CheckResult} {entry : String × Tally}
    (member : entry ∈ tally results) : entry.2 =
      { name := entry.1
        passes := (results.map CheckResult.seen).count (entry.1, true)
        fails := (results.map CheckResult.seen).count (entry.1, false) } := by
  -- A key has one entry only, so what is found under it is what stands there.
  have found := Assoc.find?_of_mem (nodup_keys_tally results) member
  rw [find?_tally] at found
  split at found
  · cases found
  · exact (Option.some.inj found).symm

theorem pos_of_mem_statusCounts {requests : List (Metric τ)} {n : Int}
    (member : n ∈ (statusCounts requests).values) : 0 < n := by
  obtain ⟨⟨code, _⟩, inside, rfl⟩ := List.mem_map.1 member
  have distinct := (ascending_statusCounts requests).imp fun less => ne_of_lt less
  have found := Assoc.find?_of_mem distinct inside
  rw [find?_statusCounts] at found
  split at found
  · cases found
  next some_ =>
    cases found
    exact Int.natCast_pos.2 (Nat.pos_of_ne_zero some_)

variable [Scalar τ]

theorem counts_summarize (r : Records τ) (elapsed : τ) :
    ((holding r).summarize elapsed).Counts elapsed r where
  elapsed := rfl
  requests := rfl
  requestErrors := rfl
  balance := length_eq_total r.requests
  ascending := ascending_statusCounts r.requests
  positive _ := pos_of_mem_statusCounts
  status code := by
    change ((statusCounts r.requests).find? code).getD 0 = _
    rw [find?_statusCounts]
    split
    next none_ => exact congrArg Int.ofNat none_.symm
    next => rfl
  iterations := rfl
  ends := by
    -- Every end is a return or names a fault, and the faults are what the kinds sum up to.
    have counted : errorCount (holding r) = r.ends.reduceOption.length := sum_blame _
    change ((r.ends.countP Option.isNone : Nat) : Int) + (errorCount (holding r) : Nat) = _
    rw [counted, List.length_eq_reduceOption_length_add_filter_none, ← List.countP_eq_length_filter]
    omega
  errors := by
    change ((errorCount (holding r) : Nat) : Int) = Summary.total (Assoc.values (List.map _ _))
    rw [Assoc.values, List.map_map, errorCount, ← total_map_ofNat, Assoc.values, List.map_map]
    rfl
  errorTypes := by
    change Assoc.keys (List.map _ (blame _)) = _
    rw [Assoc.keys, List.map_map]
    exact (congrArg Assoc.keys (blame_eq_gather _)).trans (Assoc.keys_gather _ _ _ _)
  errorType name := by
    change (Assoc.find? (List.map _ (blame _)) name).getD 0 = _
    rw [Assoc.find?_map, find?_blame]
    split
    next none_ => exact congrArg Int.ofNat none_.symm
    next => rfl
  distinct := nodup_keys_tally r.checks
  labels := keys_tally r.checks
  tallies _ := eq_of_mem_tally
  passed := checksPassed_of_tally r.checks rfl
  checks := by
    rw [checksPassed_of_tally r.checks rfl,
      checksFailed_of_tally r.checks rfl, ← Int.natCast_add, passed_add_failed]
  passRate entry member := by
    rw [eq_of_mem_tally member, Tally.passRate, Tally.total, ← Int.natCast_add, count_seen]
    exact Scalar.share_isShare ((Nat.le_add_right _ _).trans_eq (count_seen _ _))
  failureRate exact_ same := by
    have tallied : exact_.checks = tally r.checks := same
    rw [Summary.checkFailureRate, checksPassed_of_tally _ tallied, checksFailed_of_tally _ tallied,
      ← Int.natCast_add, passed_add_failed]
    exact Scalar.share_isShare List.countP_le_length

/-- A summary that is asked for after these acts is this one, whatever comes later. -/
def Gives (before : List (Act τ)) (elapsed : τ) (s : Summary τ) : Prop :=
  ∀ after, (perform {} (before ++ .summarize elapsed :: after)).2 =
    (perform {} before).2 ++ s :: ((perform {} before).1.perform after).2

theorem gives_summarize (before : List (Act τ)) (elapsed : τ) :
    Gives before elapsed ((holding (recorded before)).summarize elapsed) := by
  intro after
  rw [perform_append, ← perform_eq]
  simp [perform, act]

/-- A summary counts what was recorded since the last reset. It depends on its time and on these
records only, and of these on the order within each kind only. -/
theorem summarize_counts (before : List (Act τ)) (elapsed : τ) :
    ∃ s : Summary τ, Gives before elapsed s ∧ s.Counts elapsed (recorded before) ∧
      ∀ other, recorded other = recorded before → Gives other elapsed s := by
  refine ⟨_, gives_summarize before elapsed, counts_summarize _ elapsed, ?_⟩
  intro other same
  rw [← same]
  exact gives_summarize other elapsed

namespace Sample

/-- A response with a status, after a hundred milliseconds. -/
def request (status : Int) : Metric Rat :=
  { timestamp := 0, name := "/", method := "GET", url := "/", status, latency := 100,
    contentLength := 2 }

def acts : List (Act Rat) :=
  [.request (request 500), .iteration none, .reset, .request (request 200),
    .check { name := "fine", passed := true }, .check { name := "fine", passed := false },
    .iteration (some .cancelled), .request (request 404)]

/-- Nothing to forget, a summary in between, and another order of requests, checks and ends. -/
def shuffled : List (Act Rat) :=
  [.iteration (some .cancelled), .check { name := "fine", passed := true },
    .request (request 200), .summarize 1, .request (request 404),
    .check { name := "fine", passed := false }]

/-- One summary counts the records of both. -/
theorem summarize_counts_shuffled :
    recorded shuffled = recorded acts ∧
      ∃ s, Gives acts 2 s ∧ s.Counts 2 (recorded acts) ∧ Gives shuffled 2 s := by
  obtain ⟨s, gives, counts, others⟩ := summarize_counts acts 2
  exact ⟨rfl, s, gives, counts, others shuffled rfl⟩

end Sample

end Collector

end Volley
