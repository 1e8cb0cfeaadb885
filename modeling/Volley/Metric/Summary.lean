import Volley.Assoc
import Volley.Metric.Latency

/-!
# Summaries and results

The aggregate of everything that was recorded in a run, and the result that a run gives.

## Main definitions

- `Tally`: how often a check passed and failed.
- `Summary`, with `Summary.checksPassed`, `Summary.checksFailed` and `Summary.checkFailureRate`.
- `RunResult`.
-/

namespace Volley

/-- How often a check passed and failed. -/
structure Tally where
  name : String
  passes : Int := 0
  fails : Int := 0
  deriving DecidableEq, Repr

namespace Tally

def total (t : Tally) : Int :=
  t.passes + t.fails

/-- The part of the checks that passed; zero if there were none. -/
def passRate {τ : Type} [Scalar τ] (t : Tally) : Except Decimal.NumberError τ :=
  Scalar.share t.passes t.total

def count (t : Tally) (passed : Bool) : Tally :=
  if passed then { t with passes := t.passes + 1 } else { t with fails := t.fails + 1 }

end Tally

/-- The aggregate of a run. Status codes ascend; error types and check labels stand in the order in
which they first came up. -/
structure Summary (τ : Type) where
  elapsed : τ
  iterations : Int
  iterationErrors : Int
  totalRequests : Int
  requestErrors : Int
  requestsPerSecond : τ
  latency : Latency τ
  statusCounts : Assoc Int Int
  errorsByType : Assoc String Int
  checks : Assoc String Tally

namespace Summary

variable {τ : Type}

def total (counts : List Int) : Int :=
  counts.foldr (· + ·) 0

def checksPassed (s : Summary τ) : Int :=
  total (s.checks.values.map Tally.passes)

def checksFailed (s : Summary τ) : Int :=
  total (s.checks.values.map Tally.fails)

/-- The part of all checks that failed; zero if there were none. -/
def checkFailureRate [Scalar τ] (s : Summary τ) : Except Decimal.NumberError τ :=
  Scalar.share s.checksFailed (s.checksPassed + s.checksFailed)

end Summary

/-- The result of a run. It is interrupted if it ended before all iterations had been finished. -/
structure RunResult (τ : Type) where
  scenarioName : String
  vus : Int
  iterationsPlanned : Int
  startTime : τ
  endTime : τ
  duration : τ
  interrupted : Bool := false
  summary : Option (Summary τ) := none

end Volley
