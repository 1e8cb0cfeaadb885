import Mathlib.Data.List.Nodup
import Volley.Metric.Export
import Volley.Proofs.FileTree.Writing
import Volley.Proofs.Json.Reader
import Volley.Text.Numeral

/-!
# A summary file loses nothing

The text of a summary file is read as the value that it was written from, and the result is rebuilt
from that value. Apart from the totals of the checks and their pass rates the value is the plain
record of the result.

## Main definitions

- `RunResult.shown`: the value of a result, whose checks all have a pass rate; `RunResult.integers`
  and `RunResult.floats` are the numbers in it.
- `RunResult.record`: the fields of a result alone; `Json.stripped` takes away what an export adds.
- `RunResult.ofJson?`: the result that a value was made from.
- `RunResult.Exportable`: whether a result has a text.
- `RunResult.Restorable`: its keys are distinct, its status codes are within the limit of digits,
  and a decoder gives its numbers for their texts.
- `RunResult.Exported`: what the value in a file tells of a result.

## Main results

- `Tally.rated_of_nonneg`: a check that was counted up from zero has a pass rate.
- `toJson_eq_ok`, `fileText_eq_ok`: which results have a value and a text.
- `ofJson?_shown`: a result is rebuilt from its value.
- `export_restores`: a result is exported whenever it can be, and nothing is lost.
-/

namespace Volley

open Decimal (NumberError)

/-! ### Parts of a value -/

namespace Json

def entries? : Json → Option (List (String × Json))
  | object entries => some entries
  | _ => none

/-- The entry of an object under a key. -/
def field? (value : Json) (key : String) : Option Json :=
  value.entries?.bind fun entries => Assoc.find? entries key

/-- The part of a value that some keys lead to. -/
def at? (value : Json) : List String → Option Json
  | [] => some value
  | key :: rest => (value.field? key).bind fun part => part.at? rest

def int? : Json → Option Int
  | int n => some n
  | _ => none

def float? : Json → Option Float
  | float x => some x
  | _ => none

def text? : Json → Option String
  | text s => some s
  | _ => none

def bool? : Json → Option Bool
  | bool b => some b
  | _ => none

/-- An object without the entries for some keys. -/
def without (keys : List String) : Json → Json
  | object entries => object (entries.filter fun entry => entry.1 ∉ keys)
  | value => value

/-- An object with the values of some of its entries changed. -/
def mapWhere (changed : String → Bool) (f : Json → Json) : Json → Json
  | object entries =>
    object (entries.map fun entry => (entry.1, if changed entry.1 then f entry.2 else entry.2))
  | value => value

theorem without_object (keys : List String) (entries : List (String × Json)) :
    without keys (object entries) = object (entries.filter fun entry => entry.1 ∉ keys) :=
  rfl

theorem mapWhere_object (changed : String → Bool) (f : Json → Json)
    (entries : List (String × Json)) :
    mapWhere changed f (object entries) = object
      (entries.map fun entry => (entry.1, if changed entry.1 then f entry.2 else entry.2)) :=
  rfl

/-- The value of a result without the totals of the checks and their pass rates. -/
def stripped : Json → Json :=
  mapWhere (· == "summary") fun summary =>
    (summary.without ["checks_passed", "checks_failed"]).mapWhere (· == "checks")
      (mapWhere (fun _ => true) (without ["pass_rate"]))

/-- The sum of one of the counts of all checks in the value of a result. -/
def checkTotal? (value : Json) (count : String) : Option Int := do
  let checks ← value.at? ["summary", "checks"]
  let entries ← checks.entries?
  let counts ← entries.mapM fun entry => (entry.2.field? count).bind int?
  return Summary.total counts

end Json

/-! ### The value of a result -/

/-- The pass rate of a check that has one. -/
def Tally.rate (t : Tally) : Float :=
  match (t.passRate : Except NumberError Float) with
  | .ok rate => rate
  | .error _ => 0

/-- A check with a pass rate within the range of numbers. -/
def Tally.Rated (t : Tally) : Prop :=
  t.passRate = .ok t.rate

def Tally.record (t : Tally) : Json :=
  .object [("name", .text t.name), ("passes", .int t.passes), ("fails", .int t.fails)]

def Tally.shown (t : Tally) : Json :=
  .object [("name", .text t.name), ("passes", .int t.passes), ("fails", .int t.fails),
    ("pass_rate", .float t.rate)]

namespace Summary

/-- The fields of a summary, with a value for each check. -/
def fields (s : Summary Float) (check : Tally → Json) : List (String × Json) :=
  [("elapsed_seconds", .float s.elapsed),
    ("iterations", .int s.iterations),
    ("iteration_errors", .int s.iterationErrors),
    ("total_requests", .int s.totalRequests),
    ("request_errors", .int s.requestErrors),
    ("requests_per_second", .float s.requestsPerSecond),
    ("latency_min", .float s.latency.min),
    ("latency_max", .float s.latency.max),
    ("latency_avg", .float s.latency.avg),
    ("latency_p50", .float s.latency.p50),
    ("latency_p90", .float s.latency.p90),
    ("latency_p95", .float s.latency.p95),
    ("latency_p99", .float s.latency.p99),
    ("status_counts", .object (List.map (fun entry => (Decimal.integer entry.1, .int entry.2))
      s.statusCounts)),
    ("errors_by_type", .object (List.map (fun entry => (entry.1, .int entry.2)) s.errorsByType)),
    ("checks", .object (List.map (fun entry => (entry.1, check entry.2)) s.checks))]

def record (s : Summary Float) : Json :=
  .object (s.fields Tally.record)

def shown (s : Summary Float) : Json :=
  .object (s.fields Tally.shown ++
    [("checks_passed", .int s.checksPassed), ("checks_failed", .int s.checksFailed)])

def integers (s : Summary Float) : List Int :=
  [s.iterations, s.iterationErrors, s.totalRequests, s.requestErrors] ++ s.statusCounts.values ++
    s.errorsByType.values ++ s.checks.values.flatMap (fun t => [t.passes, t.fails]) ++
    [s.checksPassed, s.checksFailed]

def floats (s : Summary Float) : List Float :=
  [s.elapsed, s.requestsPerSecond, s.latency.min, s.latency.max, s.latency.avg, s.latency.p50,
    s.latency.p90, s.latency.p95, s.latency.p99] ++ s.checks.values.map Tally.rate

end Summary

namespace RunResult

/-- The fields of a result alone. -/
def record (r : RunResult Float) : Json :=
  r.toJsonWith ((r.summary.map Summary.record).getD .null)

def shown (r : RunResult Float) : Json :=
  r.toJsonWith ((r.summary.map Summary.shown).getD .null)

/-- The integers in the value of a result, other than the status codes, which are keys. -/
def integers (r : RunResult Float) : List Int :=
  [r.vus, r.iterationsPlanned] ++ (r.summary.map Summary.integers).getD []

def floats (r : RunResult Float) : List Float :=
  [r.startTime, r.endTime, r.duration] ++ (r.summary.map Summary.floats).getD []

/-- A result that has a text: every check has a pass rate within the range of numbers, and no
integer is too long. -/
structure Exportable (r : RunResult Float) : Prop where
  rated : ∀ s, r.summary = some s →
    ∀ t ∈ s.checks.values, t.Rated
  short : ∀ n ∈ r.integers, Decimal.isWritable n = true

end RunResult

section Values

/-- A value that a map is applied to is there under the same condition as before. -/
theorem map_eq_ok_iff {ε α ν : Type} {x : Except ε α} {p : Prop} {made : α} (f : α → ν)
    (ok : ∀ {a}, x = .ok a ↔ p ∧ a = made) {result : ν} :
    x.map f = .ok result ↔ p ∧ result = f made := by
  cases x with
  | error e =>
    have none : ¬ p := by
      intro holds
      cases ok.2 ⟨holds, rfl⟩
    simp only [Except.map, none, false_and, reduceCtorEq]
  | ok a =>
    obtain ⟨holds, rfl⟩ := ok.1 rfl
    simp only [Except.map, Except.ok.injEq]
    exact ⟨fun eq => ⟨holds, eq.symm⟩, fun ⟨_, eq⟩ => eq.symm⟩

/-- The quotient of no checks is zero, and any other one may be beyond the range. -/
theorem Tally.rated_iff {t : Tally} :
    t.Rated ↔ t.total = 0 ∨ Scalar.reaches Float t.passes t.total = true := by
  unfold Tally.Rated Tally.rate Tally.passRate Scalar.share
  by_cases none : t.total = 0
  · simp [none]
  · by_cases reached : Scalar.reaches Float t.passes t.total = true <;> simp [none, reached]

/-- A check that was counted up from zero has a pass rate. -/
theorem Tally.rated_of_nonneg {t : Tally} (passes : 0 ≤ t.passes) (fails : 0 ≤ t.fails) :
    t.Rated := by
  -- A part that is no larger than the whole is not beyond the range.
  have small : t.passes.natAbs ≤ t.total.natAbs := by
    unfold Tally.total
    omega
  exact Tally.rated_iff.2 (.inr (decide_eq_true (Decimal.Binary64.nearestBits_lt_of_le small)))

theorem Tally.toJson_eq_ok {t : Tally} {value : Json} :
    t.toJson = .ok value ↔ t.Rated ∧ value = t.shown := by
  unfold Tally.toJson Tally.Rated Tally.shown Tally.rate
  cases (t.passRate : Except NumberError Float) with
  | error e => simp [Except.map]
  | ok rate => simp [Except.map, eq_comm]

theorem Tally.entriesToJson_eq_ok {checks : List (String × Tally)}
    {entries : List (String × Json)} :
    Tally.entriesToJson checks = .ok entries ↔
      (∀ t ∈ checks.map Prod.snd, t.Rated) ∧
        entries = checks.map fun check => (check.1, check.2.shown) := by
  induction checks generalizing entries with
  | nil => simp [Tally.entriesToJson, eq_comm]
  | cons check rest ih =>
    obtain ⟨label, t⟩ := check
    rw [Tally.entriesToJson]
    cases first : t.toJson with
    | error e =>
      -- The first check without a pass rate decides, whatever comes after it.
      have unrated : ¬ t.Rated := by
        intro rated
        have ok := Tally.toJson_eq_ok.2 ⟨rated, rfl⟩
        rw [first] at ok
        cases ok
      simp [unrated]
    | ok value =>
      obtain ⟨rated, rfl⟩ := Tally.toJson_eq_ok.1 first
      dsimp only
      rw [map_eq_ok_iff _ ih, List.map_cons, List.forall_mem_cons]
      exact ⟨fun ⟨all, eq⟩ => ⟨⟨rated, all⟩, eq⟩, fun ⟨⟨_, all⟩, eq⟩ => ⟨all, eq⟩⟩

theorem Summary.toJson_eq_ok {s : Summary Float} {value : Json} :
    s.toJson = .ok value ↔
      (∀ t ∈ s.checks.values, t.Rated) ∧ value = s.shown := by
  exact map_eq_ok_iff _ Tally.entriesToJson_eq_ok

namespace RunResult

variable {r : RunResult Float}

/-- A result has a value if all its checks have a pass rate. -/
theorem toJson_eq_ok {value : Json} :
    r.toJson = .ok value ↔
      (∀ s, r.summary = some s →
        ∀ t ∈ s.checks.values, t.Rated) ∧ value = r.shown := by
  unfold toJson shown
  cases r.summary with
  | none => simp [eq_comm]
  | some s =>
    simp only [Option.some.injEq, forall_eq', Option.map_some, Option.getD_some]
    exact map_eq_ok_iff r.toJsonWith Summary.toJson_eq_ok

end RunResult

end Values

/-! ### Integers within the limit -/

section Integers

theorem haveWritable_map {α : Type} (xs : List α) (key : α → String) (value : α → Json) :
    Json.haveWritable (xs.map fun x => (key x, value x)) =
      xs.all fun x => (value x).isWritable := by
  induction xs with
  | nil => rfl
  | cons x rest ih => simp [Json.haveWritable, ih]

theorem Summary.isWritable_shown (s : Summary Float) :
    s.shown.isWritable = true ↔ ∀ n ∈ s.integers, Decimal.isWritable n = true := by
  -- In a check only the two counts are integers that a caller may have chosen.
  have tally (t : Tally) : t.shown.isWritable = true ↔
      Decimal.isWritable t.passes = true ∧ Decimal.isWritable t.fails = true := by
    simp [Tally.shown, Json.isWritable, Json.haveWritable]
  simp only [Summary.shown, Summary.fields, Summary.integers, Json.isWritable, Json.haveWritable,
    List.cons_append, List.nil_append, haveWritable_map, Assoc.values, Bool.and_eq_true,
    Bool.true_and, Bool.and_true, List.all_eq_true, List.forall_mem_cons, List.forall_mem_append,
    tally, List.forall_mem_map, List.forall_mem_flatMap, List.not_mem_nil, false_imp_iff,
    implies_true, and_true, and_assoc]

namespace RunResult

variable {r : RunResult Float}

theorem isWritable_shown :
    r.shown.isWritable = true ↔ ∀ n ∈ r.integers, Decimal.isWritable n = true := by
  unfold shown integers
  cases r.summary with
  | none => simp [toJsonWith, Json.isWritable, Json.haveWritable]
  | some s =>
    have summary := s.isWritable_shown
    simp only [toJsonWith, Json.isWritable, Json.haveWritable, Option.map_some, Option.getD_some,
      List.cons_append, List.nil_append, List.forall_mem_cons, Bool.and_eq_true, Bool.true_and,
      Bool.and_true, summary]

/-- Which results have a text, and which text it is. -/
theorem fileText_eq_ok {text : String} :
    r.fileText = .ok text ↔ r.Exportable ∧ text = r.shown.pretty ++ "\n" := by
  unfold fileText
  cases shown : r.toJson with
  | error e =>
    have unrated : ¬ r.Exportable := by
      intro exportable
      rw [toJson_eq_ok.2 ⟨exportable.rated, rfl⟩] at shown
      cases shown
    simp only [unrated, false_and, reduceCtorEq]
  | ok value =>
    obtain ⟨rated, rfl⟩ := toJson_eq_ok.1 shown
    -- The pass rates decide whether there is a value, and the integers whether it has a text.
    by_cases short : r.shown.isWritable = true
    · simp only [short, if_true, Except.ok.injEq]
      exact ⟨fun eq => ⟨⟨rated, isWritable_shown.1 short⟩, eq.symm⟩, fun ⟨_, eq⟩ => eq.symm⟩
    · have unwritable : ¬ r.Exportable := fun exportable =>
        short (isWritable_shown.2 exportable.short)
      simp only [short, Bool.false_eq_true, if_false, unwritable, false_and, reduceCtorEq]

end RunResult

end Integers

/-! ### Rebuilding a result -/

namespace Json

/-- What is under a key of an object, converted. -/
def get? {α : Type} (value : Json) (key : String) (convert : Json → Option α) : Option α :=
  (value.field? key).bind convert

section Get

variable {α : Type} {key : String} {value : Json} {rest : List (String × Json)}
  {convert : Json → Option α}

theorem get?_cons_self : (object ((key, value) :: rest)).get? key convert = convert value := by
  simp [get?, field?, entries?, Assoc.find?]

theorem get?_cons_of_ne {other : String} (ne : other ≠ key) :
    (object ((other, value) :: rest)).get? key convert = (object rest).get? key convert := by
  simp [get?, field?, entries?, Assoc.find?, ne]

end Get

/-- An object as a map, its keys and values converted. -/
def map? {κ ν : Type} (key : String → Option κ) (convert : Json → Option ν) (value : Json) :
    Option (Assoc κ ν) := do
  let entries ← value.entries?
  entries.mapM fun entry => do return (← key entry.1, ← convert entry.2)

/-- What may be absent, converted. -/
def nullable? {α : Type} (convert : Json → Option α) : Json → Option (Option α)
  | null => some none
  | value => (convert value).map some

theorem map?_map {κ ν : Type} {key : String → Option κ} (write : κ → String)
    {convert : Json → Option ν} (value : ν → Json) {m : Assoc κ ν}
    (keys : ∀ k ∈ m.keys, key (write k) = some k)
    (values : ∀ v ∈ m.values, convert (value v) = some v) :
    map? key convert (object (m.map fun entry => (write entry.1, value entry.2))) = some m := by
  simp only [map?, entries?, Option.bind_eq_bind, Option.bind_some, Option.pure_def]
  induction m with
  | nil => rfl
  | cons entry rest ih =>
    have k := keys entry.1 (.head _)
    have v := values entry.2 (.head _)
    have more := ih (fun k' member => keys k' (.tail _ member))
      fun v' member => values v' (.tail _ member)
    simp only [List.map_cons, List.mapM_cons, k, v, more, Option.bind_eq_bind, Option.bind_some,
      Option.pure_def]

end Json

open Json

def Tally.ofJson? (value : Json) : Option Tally := do
  return {
    name := ← value.get? "name" text?
    passes := ← value.get? "passes" int?
    fails := ← value.get? "fails" int? }

def Summary.ofJson? (value : Json) : Option (Summary Float) := do
  return {
    elapsed := ← value.get? "elapsed_seconds" float?
    iterations := ← value.get? "iterations" int?
    iterationErrors := ← value.get? "iteration_errors" int?
    totalRequests := ← value.get? "total_requests" int?
    requestErrors := ← value.get? "request_errors" int?
    requestsPerSecond := ← value.get? "requests_per_second" float?
    latency := {
      min := ← value.get? "latency_min" float?
      max := ← value.get? "latency_max" float?
      avg := ← value.get? "latency_avg" float?
      p50 := ← value.get? "latency_p50" float?
      p90 := ← value.get? "latency_p90" float?
      p95 := ← value.get? "latency_p95" float?
      p99 := ← value.get? "latency_p99" float? }
    statusCounts := ← value.get? "status_counts" (map? (fun code => integer? code.toList) int?)
    errorsByType := ← value.get? "errors_by_type" (map? some int?)
    checks := ← value.get? "checks" (map? some Tally.ofJson?) }

/-- The result that a value was made from. The keys of the status counts are read as integers; the
totals of the checks and their pass rates are not needed. -/
def RunResult.ofJson? (value : Json) : Option (RunResult Float) := do
  return {
    scenarioName := ← value.get? "scenario_name" text?
    vus := ← value.get? "vus" int?
    iterationsPlanned := ← value.get? "iterations_planned" int?
    startTime := ← value.get? "start_time" float?
    endTime := ← value.get? "end_time" float?
    duration := ← value.get? "duration_seconds" float?
    interrupted := ← value.get? "interrupted" bool?
    summary := ← value.get? "summary" (nullable? Summary.ofJson?) }

section Rebuilding

theorem Tally.ofJson?_shown (t : Tally) : Tally.ofJson? t.shown = some t := by
  rw [Tally.ofJson?, Tally.shown]
  simp only [get?_cons_self, get?_cons_of_ne, ne_eq, String.reduceEq, not_false_eq_true, text?,
    int?, Option.bind_some, Option.pure_def, Option.bind_eq_bind]

theorem Summary.ofJson?_shown {s : Summary Float}
    (codes : ∀ code ∈ s.statusCounts.keys, Decimal.isWritable code = true) :
    Summary.ofJson? s.shown = some s := by
  -- The maps are rebuilt entry by entry; a status code is read back from its digits.
  have counts : map? (fun code => integer? code.toList) int?
      (object (List.map (fun entry => (Decimal.integer entry.1, int entry.2)) s.statusCounts)) =
      some s.statusCounts :=
    map?_map Decimal.integer int (fun code member => integer?_integer (codes code member))
      fun _ _ => rfl
  have errors : map? some int?
      (object (List.map (fun entry => (entry.1, int entry.2)) s.errorsByType)) =
      some s.errorsByType :=
    map?_map id int (fun _ _ => rfl) fun _ _ => rfl
  have checks : map? some Tally.ofJson?
      (object (List.map (fun entry => (entry.1, entry.2.shown)) s.checks)) = some s.checks :=
    map?_map id Tally.shown (fun _ _ => rfl) fun t _ => t.ofJson?_shown
  rw [Summary.ofJson?, Summary.shown, Summary.fields]
  simp only [List.cons_append, List.nil_append, get?_cons_self, get?_cons_of_ne, ne_eq,
    String.reduceEq, not_false_eq_true, int?, float?, counts, errors, checks, Option.bind_some,
    Option.pure_def, Option.bind_eq_bind]

theorem RunResult.ofJson?_shown {r : RunResult Float}
    (codes : ∀ s, r.summary = some s → ∀ code ∈ s.statusCounts.keys,
      Decimal.isWritable code = true) :
    RunResult.ofJson? r.shown = some r := by
  obtain ⟨name, vus, planned, startTime, endTime, duration, interrupted, summary⟩ := r
  cases summary with
  | none =>
    rw [RunResult.ofJson?, RunResult.shown, toJsonWith]
    simp only [get?_cons_self, get?_cons_of_ne, ne_eq, String.reduceEq, not_false_eq_true, text?,
      int?, float?, bool?, nullable?, Option.map_none, Option.getD_none, Option.bind_some,
      Option.pure_def, Option.bind_eq_bind]
  | some s =>
    have summary : nullable? Summary.ofJson? s.shown = some (some s) :=
      congrArg (Option.map some) (Summary.ofJson?_shown (codes s rfl))
    rw [RunResult.ofJson?, RunResult.shown, toJsonWith]
    simp only [get?_cons_self, get?_cons_of_ne, ne_eq, String.reduceEq, not_false_eq_true, text?,
      int?, float?, bool?, summary, Option.map_some, Option.getD_some, Option.bind_some,
      Option.pure_def, Option.bind_eq_bind]

end Rebuilding

/-! ### Reading a file -/

/-- A result that its text can be rebuilt from: its maps have one entry for each key, its status
codes are within the limit of digits, and a decoder gives its numbers for their texts. -/
structure RunResult.Restorable (decode : String → Option Float) (r : RunResult Float) : Prop where
  statuses : ∀ s, r.summary = some s → s.statusCounts.keys.Nodup
  errors : ∀ s, r.summary = some s → s.errorsByType.keys.Nodup
  checks : ∀ s, r.summary = some s → s.checks.keys.Nodup
  codes : ∀ s, r.summary = some s → ∀ code ∈ s.statusCounts.keys, Decimal.isWritable code = true
  floats : ∀ x ∈ r.floats, Denotes decode x

section Reading

variable {decode : String → Option Float}

theorem readableEntries_map {α : Type} {xs : List α} {key : α → String} {value : α → Json} :
    ReadableEntries decode (xs.map fun x => (key x, value x)) ↔
      ∀ x ∈ xs, Readable decode (value x) := by
  induction xs with
  | nil => simp [ReadableEntries]
  | cons x rest ih => simp only [List.map_cons, ReadableEntries, ih, List.forall_mem_cons]

theorem Tally.readable_shown {t : Tally} (passes : Decimal.isWritable t.passes = true)
    (fails : Decimal.isWritable t.fails = true) (rate : Denotes decode t.rate) :
    Readable decode t.shown := by
  simp [Tally.shown, Readable, ReadableEntries, passes, fails, rate]

theorem Summary.readable_shown {s : Summary Float} (statuses : s.statusCounts.keys.Nodup)
    (errors : s.errorsByType.keys.Nodup) (checks : s.checks.keys.Nodup)
    (codes : ∀ code ∈ s.statusCounts.keys, Decimal.isWritable code = true)
    (floats : ∀ x ∈ s.floats, Denotes decode x)
    (short : ∀ n ∈ s.integers, Decimal.isWritable n = true) : Readable decode s.shown := by
  -- Two status codes with the same digits are the same, since the digits can be read back.
  have keys : (s.statusCounts.keys.map Decimal.integer).Nodup := by
    apply List.Nodup.map_on _ statuses
    intro code member code' member' same
    have back := integer?_integer (codes code member)
    rw [same, integer?_integer (codes code' member')] at back
    exact (Option.some.inj back).symm
  simp only [Summary.integers, List.cons_append, List.nil_append, List.forall_mem_cons,
    List.forall_mem_append, Assoc.values, List.forall_mem_map, List.forall_mem_flatMap] at short
  simp only [Summary.floats, List.cons_append, List.nil_append, List.forall_mem_cons,
    Assoc.values, List.forall_mem_map] at floats
  simp only [Assoc.keys, List.map_map] at keys errors checks
  obtain ⟨⟨⟨counts, kinds⟩, tallies⟩, -⟩ := short.2.2.2.2
  have rates := floats.2.2.2.2.2.2.2.2.2
  have counted : Readable decode
      (.object (List.map (fun entry => (Decimal.integer entry.1, .int entry.2)) s.statusCounts)) :=
    ⟨by rw [List.map_map]; exact keys, readableEntries_map.2 counts⟩
  have failed : Readable decode
      (.object (List.map (fun entry => (entry.1, .int entry.2)) s.errorsByType)) :=
    ⟨by rw [List.map_map]; exact errors, readableEntries_map.2 kinds⟩
  have checked : Readable decode
      (.object (List.map (fun entry => (entry.1, entry.2.shown)) s.checks)) := by
    refine ⟨by rw [List.map_map]; exact checks, readableEntries_map.2 fun check member => ?_⟩
    obtain ⟨passes, fails, -⟩ := tallies check member
    exact Tally.readable_shown passes fails (rates check member)
  have int (n : Int) : Readable decode (.int n) ↔ Decimal.isWritable n = true := Iff.rfl
  have float (x : Float) : Readable decode (.float x) ↔ Denotes decode x := Iff.rfl
  refine ⟨by simp [Summary.fields], ?_⟩
  simp only [Summary.fields, List.cons_append, List.nil_append, ReadableEntries, counted, failed,
    checked, int, float, short, floats, and_true]

/-- The value of a result can be read from its text. -/
theorem RunResult.readable_shown {r : RunResult Float} (restorable : r.Restorable decode)
    (exportable : r.Exportable) : Readable decode r.shown := by
  obtain ⟨statuses, errors, checks, codes, floats⟩ := restorable
  have short := exportable.short
  simp only [RunResult.floats, List.cons_append, List.nil_append, List.forall_mem_cons] at floats
  simp only [RunResult.integers, List.cons_append, List.nil_append, List.forall_mem_cons] at short
  have summary : Readable decode ((r.summary.map Summary.shown).getD .null) := by
    cases held : r.summary with
    | none => trivial
    | some s =>
      rw [held] at floats short
      exact s.readable_shown (statuses s held) (errors s held) (checks s held) (codes s held)
        floats.2.2.2 short.2.2
  refine ⟨by simp, ?_⟩
  simp only [ReadableEntries, Readable, floats, short, summary, and_true]

end Reading

/-! ### What the file tells -/

/-- What the value in a file tells of a result. The result is rebuilt from it; without the totals of
the checks and their pass rates it is the plain record of the result; and those follow from the
counts beside them. -/
structure RunResult.Exported (r : RunResult Float) (value : Json) : Prop where
  rebuilt : RunResult.ofJson? value = some r
  plain : value.stripped = r.record
  totals : ∀ s, r.summary = some s → ∃ passed failed : Int,
    value.checkTotal? "passes" = some passed ∧
      value.at? ["summary", "checks_passed"] = some (.int passed) ∧
    value.checkTotal? "fails" = some failed ∧
      value.at? ["summary", "checks_failed"] = some (.int failed)
  rates : ∀ s, r.summary = some s → ∃ entries : List (String × Json),
    value.at? ["summary", "checks"] = some (.object entries) ∧
      entries.map Prod.fst = s.checks.keys ∧
      ∀ entry ∈ entries, ∃ (passes fails : Int) (rate : Float),
        entry.2.field? "passes" = some (.int passes) ∧
          entry.2.field? "fails" = some (.int fails) ∧
          Scalar.share passes (passes + fails) = .ok rate ∧
          entry.2.field? "pass_rate" = some (.float rate)

section Exporting

theorem Tally.without_shown (t : Tally) : t.shown.without ["pass_rate"] = t.record := by
  simp [Tally.shown, Tally.record, without_object]

/-- What an export adds to a summary are the two totals, and one rate for each check. -/
theorem Summary.stripped_shown (s : Summary Float) :
    (s.shown.without ["checks_passed", "checks_failed"]).mapWhere (· == "checks")
      (mapWhere (fun _ => true) (without ["pass_rate"])) = s.record := by
  simp [Summary.shown, Summary.record, Summary.fields, without_object, mapWhere_object,
    Tally.without_shown]

theorem RunResult.stripped_shown (r : RunResult Float) : r.shown.stripped = r.record := by
  unfold RunResult.shown RunResult.record
  cases r.summary with
  | none => simp [toJsonWith, stripped, mapWhere, without]
  | some s => simp [toJsonWith, stripped, mapWhere_object, Summary.stripped_shown]

theorem RunResult.at?_summary {r : RunResult Float} {s : Summary Float}
    (held : r.summary = some s) (key : String) :
    r.shown.at? ["summary", key] = s.shown.field? key := by
  rw [RunResult.shown, held]
  simp [toJsonWith, at?, field?, entries?, Assoc.find?]

theorem Summary.checks_shown (s : Summary Float) :
    s.shown.field? "checks" =
      some (.object (List.map (fun entry => (entry.1, entry.2.shown)) s.checks)) := by
  simp [Summary.shown, Summary.fields, field?, entries?, Assoc.find?]

/-- The counts of the checks in a file add up to the totals in it. -/
theorem RunResult.checkTotal?_shown {r : RunResult Float} {s : Summary Float}
    (held : r.summary = some s) {count : String} {part : Tally → Int}
    (each : ∀ t : Tally, (t.shown.field? count).bind int? = some (part t)) :
    r.shown.checkTotal? count = some (Summary.total (s.checks.values.map part)) := by
  -- No check is missing a count, so the sum does not fail on the way.
  have counts (checks : List (String × Tally)) :
      (checks.map fun entry => (entry.1, entry.2.shown)).mapM
        (fun entry => (entry.2.field? count).bind int?) =
      some (checks.map fun entry => part entry.2) := by
    induction checks with
    | nil => rfl
    | cons check rest ih =>
      simp only [List.map_cons, List.mapM_cons, each, ih, Option.bind_eq_bind, Option.bind_some,
        Option.pure_def]
  simp only [checkTotal?, RunResult.at?_summary held, Summary.checks_shown, entries?, counts,
    Option.bind_eq_bind, Option.bind_some, Option.pure_def, Assoc.values, List.map_map]
  rfl

theorem RunResult.exported_shown {r : RunResult Float}
    (codes : ∀ s, r.summary = some s → ∀ code ∈ s.statusCounts.keys,
      Decimal.isWritable code = true)
    (rated : ∀ s, r.summary = some s → ∀ t ∈ s.checks.values, t.Rated) :
    r.Exported r.shown where
  rebuilt := RunResult.ofJson?_shown codes
  plain := r.stripped_shown
  totals := by
    intro s held
    have passes (t : Tally) : (t.shown.field? "passes").bind int? = some t.passes := by
      simp [Tally.shown, field?, entries?, Assoc.find?, int?]
    have fails (t : Tally) : (t.shown.field? "fails").bind int? = some t.fails := by
      simp [Tally.shown, field?, entries?, Assoc.find?, int?]
    refine ⟨s.checksPassed, s.checksFailed, RunResult.checkTotal?_shown held passes, ?_,
      RunResult.checkTotal?_shown held fails, ?_⟩ <;>
    · rw [RunResult.at?_summary held]
      simp [Summary.shown, Summary.fields, field?, entries?, Assoc.find?]
  rates := by
    intro s held
    refine ⟨_, by rw [RunResult.at?_summary held, Summary.checks_shown], ?_, ?_⟩
    · rw [List.map_map]
      rfl
    · intro entry member
      obtain ⟨⟨label, t⟩, inside, rfl⟩ := List.mem_map.1 member
      have rate := rated s held t (List.mem_map_of_mem inside)
      refine ⟨t.passes, t.fails, t.rate, ?_, ?_, rate, ?_⟩ <;>
      simp [Tally.shown, field?, entries?, Assoc.find?]

/-- What was written to a file is the text of the result. -/
theorem RunResult.textAt?_of_write {α : Type} {r : RunResult Float}
    {files files' : FileTree α} {path : Path} {remark : Journal.Entry Float}
    (wrote : r.write files path = .ok (files', remark)) :
    ∃ text, r.fileText = .ok text ∧ files'.textAt? path = some text := by
  -- Of the three ways to fail none is left.
  unfold RunResult.write at wrote
  split at wrote
  · cases wrote
  · split at wrote
    · cases wrote
    next text shown =>
      split at wrote
      · cases wrote
      next there =>
        cases wrote
        exact ⟨text, shown, FileTree.textAt?_write there⟩

/-- The text of a summary file can be written for every result whose numbers are within the limits,
and it loses nothing: it is read as the value of the result, the result is rebuilt from that value,
and so two different results have different texts. What is written to a file is that text. -/
theorem RunResult.export_restores {decode : String → Option Float} {r : RunResult Float}
    (restorable : r.Restorable decode) :
    ((∃ text, r.fileText = .ok text) ↔ r.Exportable) ∧
    (∀ text, r.fileText = .ok text → ∃ value, r.toJson = .ok value ∧
      Json.read decode text = some value ∧ r.Exported value) ∧
    (∀ (r' : RunResult Float) (text : String), r'.Restorable decode →
      r.fileText = .ok text → r'.fileText = .ok text → r' = r) ∧
    ∀ (α : Type) (files files' : FileTree α) (path : Path) (remark : Journal.Entry Float),
      r.write files path = .ok (files', remark) →
        ∃ text, r.fileText = .ok text ∧ files'.textAt? path = some text := by
  -- What follows the value in a file is a line end only, which the reader skips.
  have reads (r : RunResult Float) (restorable : r.Restorable decode) (text : String)
      (shown : r.fileText = .ok text) : Json.read decode text = some r.shown := by
    obtain ⟨exportable, rfl⟩ := RunResult.fileText_eq_ok.1 shown
    exact read_pretty (RunResult.readable_shown restorable exportable) ['\n']
      (List.all_eq_true.1 (by decide))
  refine ⟨?_, ?_, ?_, ?_⟩
  · constructor
    · rintro ⟨text, shown⟩
      exact (RunResult.fileText_eq_ok.1 shown).1
    · intro exportable
      exact ⟨_, RunResult.fileText_eq_ok.2 ⟨exportable, rfl⟩⟩
  · intro text shown
    have rated := (RunResult.fileText_eq_ok.1 shown).1.rated
    exact ⟨r.shown, RunResult.toJson_eq_ok.2 ⟨rated, rfl⟩, reads r restorable text shown,
      RunResult.exported_shown restorable.codes rated⟩
  · -- One text has one value, and that gives one result.
    intro r' text restorable' shown shown'
    have same := (reads r restorable text shown).symm.trans (reads r' restorable' text shown')
    have back := RunResult.ofJson?_shown restorable'.codes
    rw [← Option.some.inj same, RunResult.ofJson?_shown restorable.codes] at back
    exact (Option.some.inj back).symm
  · intro α files files' path remark wrote
    exact RunResult.textAt?_of_write wrote

/-- A result with texts that are escaped, with integers of both signs and with every kind of
number. -/
def Mixed.result : RunResult Float where
  scenarioName := "Störung \"5\\x\"\n\t😀"
  vus := -3
  iterationsPlanned := 1000000000000000000000000000000
  startTime := Float.ofBits 0x7FF8000000000000
  endTime := Float.ofBits 0xFFF0000000000000
  duration := 2.5
  interrupted := true
  summary := some {
    elapsed := -0.0
    iterations := 7
    iterationErrors := 1
    totalRequests := 8
    requestErrors := 0
    requestsPerSecond := 1e22
    latency := { min := 0.1, max := Float.ofBits 0x7FF0000000000000, avg := 5e-324, p50 := 1.5,
                 p90 := 123456.789, p95 := 1e16, p99 := 0.0001 }
    statusCounts := [(200, 5), (-404, 2), (0, 1)]
    errorsByType := [("ValueError", 1), ("", -1)]
    checks := [("status is valid", { name := "status is valid", passes := 5, fails := 2 }),
      ("\u0000\uE000😀", { name := "other" })] }

theorem Mixed.restorable : Mixed.result.Restorable Text.Numeral.decimal? := by
  have decoded : ∀ x ∈ Mixed.result.floats,
      Text.Numeral.decimal? (Decimal.Shortest.text x) = some x := by
    decide +kernel
  refine ⟨?_, ?_, ?_, ?_, fun x member _ => decoded x member⟩ <;>
  · rintro s held
    cases held
    decide

/-- The text of such a result is read back. -/
theorem Mixed.export_restores_mixed :
    ∃ text, Mixed.result.fileText = .ok text ∧
      Json.read Text.Numeral.decimal? text = some Mixed.result.shown ∧
      RunResult.ofJson? Mixed.result.shown = some Mixed.result := by
  obtain ⟨writes, reads, -⟩ := RunResult.export_restores Mixed.restorable
  have exportable : Mixed.result.Exportable := by
    refine ⟨?_, by decide +kernel⟩
    rintro s held t member
    cases held
    apply Tally.rated_of_nonneg <;> revert t <;> decide
  obtain ⟨text, shown⟩ := writes.2 exportable
  obtain ⟨value, made, read, exported⟩ := reads text shown
  obtain rfl := (RunResult.toJson_eq_ok.1 made).2
  exact ⟨text, shown, read, exported.rebuilt⟩

end Exporting

end Volley
