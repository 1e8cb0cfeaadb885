import Volley.Check
import Volley.Journal
import Volley.Metric
import Volley.Metric.Summary

/-!
# The collector

Collects what the virtual users of a run record: request metrics, check results and the ends of
iterations. A summary counts what was collected so far and leaves the collection as it is.

## Main definitions

- `Collector`, with `recordRequest`, `recordCheck`, `recordIteration` and `reset`.
- `Collector.summarize`: the summary over a time.
- `Collector.Act`, `Collector.act`: what is asked of a collector, and what it does then.
-/

namespace Volley

/-- Everything recorded in a run, in order. -/
structure Collector (τ : Type) where
  requests : List (Metric τ) := []
  checks : List CheckResult := []
  iterations : Nat := 0
  iterationErrors : Assoc String Nat := []

namespace Collector

variable {τ : Type}

def recordRequest (c : Collector τ) (m : Metric τ) : Collector τ :=
  { c with requests := c.requests ++ [m] }

def recordCheck (c : Collector τ) (r : CheckResult) : Collector τ :=
  { c with checks := c.checks ++ [r] }

/-- Records the end of an iteration, by the kind of its fault if there was one. -/
def recordIteration (c : Collector τ) (fault : Option Fault) : Collector τ :=
  match fault with
  | none => { c with iterations := c.iterations + 1 }
  -- The kinds stand in the order in which they first came up.
  | some f => { c with iterationErrors := c.iterationErrors.update f.name 0 (· + 1) }

/-- Forgets everything that was recorded. -/
def reset (_ : Collector τ) : Collector τ := {}

/-- Tallies check results under their labels, in the order in which the labels first come up. -/
def tally (results : List CheckResult) : Assoc String Tally :=
  results.foldl (fun tallies r =>
    tallies.update r.name { name := r.name } fun t => t.count r.passed) []

/-- Whether a request failed before there was a response. -/
def isRequestError (m : Metric τ) : Bool :=
  m.error.isSome && m.status == 0

/-- Counts one more response under its status, the statuses ascending. -/
def countStatus (status : Int) : Assoc Int Int → Assoc Int Int
  | [] => [(status, 1)]
  | (s, n) :: rest =>
    -- The list ascends, so a status that is passed by is not in it.
    if status < s then (status, 1) :: (s, n) :: rest
    else if status = s then (s, n + 1) :: rest
    else (s, n) :: countStatus status rest

/-- Counts the responses of a list of requests by status. -/
def statusCounts (requests : List (Metric τ)) : Assoc Int Int :=
  requests.foldl (fun counts m =>
    -- Requests that failed before a response have no status to count.
    if isRequestError m then counts else countStatus m.status counts) []

def errorCount (c : Collector τ) : Nat :=
  c.iterationErrors.values.foldr (· + ·) 0

/-- The time that the rate of requests refers to: at least a millisecond. -/
def rateInterval [Scalar τ] (elapsed : τ) : τ :=
  if elapsed < Scalar.ratio 1 1000 then Scalar.ratio 1 1000 else elapsed

def summarize [Scalar τ] (c : Collector τ) (elapsed : τ) : Summary τ :=
  { elapsed
    iterations := c.iterations
    iterationErrors := c.errorCount
    totalRequests := c.requests.length
    requestErrors := c.requests.countP isRequestError
    requestsPerSecond := Scalar.ofNat c.requests.length / rateInterval elapsed
    latency := Latency.ofList (c.requests.map Metric.latency)
    statusCounts := statusCounts c.requests
    errorsByType := List.map (fun entry => (entry.1, (entry.2 : Int))) c.iterationErrors
    checks := tally c.checks }

/-- What is asked of a collector: to record something, to sum up what it holds, or to forget it. -/
inductive Act (τ : Type) where
  | request (metric : Metric τ)
  | check (result : CheckResult)
  | iteration (fault : Option Fault)
  | summarize (elapsed : τ)
  | reset

/-- The collector after an act, and the summary if one was asked for. -/
def act [Scalar τ] (c : Collector τ) : Act τ → Collector τ × Option (Summary τ)
  | .request metric => (c.recordRequest metric, none)
  | .check result => (c.recordCheck result, none)
  | .iteration fault => (c.recordIteration fault, none)
  -- What was recorded stays, so that a collector may be summed up again.
  | .summarize elapsed => (c, some (c.summarize elapsed))
  | .reset => (c.reset, none)

def summaryEntry (c : Collector τ) : Journal.Entry τ :=
  .summarizing c.requests.length c.checks.length c.iterations

end Collector

end Volley
