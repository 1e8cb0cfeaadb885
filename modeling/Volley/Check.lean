import Volley.Assoc
import Volley.Fault

/-!
# Checks

A check is a label and a predicate on a value. Every check is evaluated and reported, in order. A
predicate that fails by an ordinary fault counts as not holding; any other fault of a predicate, and
any fault of the one who receives the results, ends the evaluation at once.

## Main definitions

- `CheckResult`: the reported outcome of one check.
- `Predicate`, `Predicate.statusIn`, `Predicate.statusBelow`; `Predicate.asking` for answers that
  are not yet true or false.
- `Checks.evaluate`: evaluates checks by label and reports what happened.
- `Checks.Context`: where checks are made and who receives their results.
-/

namespace Volley

/-- The outcome of one named check in one iteration. -/
structure CheckResult where
  name : String
  passed : Bool
  vu : Int := 0
  iteration : Int := 0
  deriving DecidableEq, Repr

/-- A question about a value, which may fail instead of having an answer. -/
abbrev Predicate (α : Type) := α → Except Fault Bool

/-- A value that checks are made on, as far as its status goes. -/
inductive Subject where
  | statusless
  | status (code : Int)
  | oddStatus
  deriving DecidableEq, Repr

namespace Predicate

/-- The fault of asking a value without a status for its status. -/
def noStatus : Fault :=
  .ordinary "AttributeError" "no status"

def notComparable : Fault :=
  .ordinary "TypeError" "status is not a number"

/-- Holds of responses whose status is one of the accepted codes, exactly. -/
def statusIn (accepted : List Int) : Predicate Subject
  | .statusless => .error noStatus
  | .status code => .ok (accepted.contains code)
  -- Whatever it is, it is not among the codes.
  | .oddStatus => .ok false

def statusBelow (bound : Int) : Predicate Subject
  | .statusless => .error noStatus
  | .status code => .ok (decide (code < bound))
  | .oddStatus => .error notComparable

/-- Puts a question, and then asks of its answer whether it counts as true. Both may fail. -/
def asking {α β : Type} (question : α → Except Fault β) (truth : β → Except Fault Bool) :
    Predicate α :=
  fun value =>
    match question value with
    | .ok answer => truth answer
    | .error fault => .error fault

def always {α : Type} (answer : Bool) : Predicate α :=
  fun _ => .ok answer

def fails {α : Type} (fault : Fault) : Predicate α :=
  fun _ => .error fault

end Predicate

namespace Checks

/-- What an evaluation did: the results that were received, the labels whose predicate failed by an
ordinary fault, and whether all checks passed or which fault ended the evaluation. -/
structure Report where
  delivered : List CheckResult := []
  raised : List String := []
  outcome : Except Fault Bool := .ok true

variable {α : Type}

/-- Hands a result to its receiver, who sees what was received before and may fail. -/
def Report.deliver (report : Report) (receive : List CheckResult → CheckResult → Option Fault)
    (allPassed : Bool) (result : CheckResult) : Report :=
  match receive report.delivered result with
  -- A result that its receiver failed on is not among those that were received.
  | some fault => { report with outcome := .error fault }
  | none =>
    { report with
      delivered := report.delivered ++ [result], outcome := .ok (allPassed && result.passed) }

/-- Evaluates one more check unless the evaluation has ended. -/
def Report.next (report : Report) (receive : List CheckResult → CheckResult → Option Fault)
    (value : α) (vu iteration : Int) (check : String × Predicate α) : Report :=
  match report.outcome with
  | .error _ => report
  | .ok allPassed =>
    match check.2 value with
    | .ok passed => report.deliver receive allPassed { name := check.1, passed, vu, iteration }
    | .error fault =>
      -- A check that fails ordinarily is remarked on, and counts as one that did not pass.
      if fault.isOrdinary then
        { report with raised := report.raised ++ [check.1] }.deliver receive allPassed
          { name := check.1, passed := false, vu, iteration }
      else { report with outcome := .error fault }

def evaluate (receive : List CheckResult → CheckResult → Option Fault) (value : α)
    (vu iteration : Int) (checks : Assoc String (Predicate α)) : Report :=
  checks.foldl (fun report check => report.next receive value vu iteration check) {}

def receiveAll : List CheckResult → CheckResult → Option Fault :=
  fun _ _ => none

/-- Where checks are made, by whom in which iteration, and who receives their results. -/
structure Context where
  vu : Int := 0
  iteration : Int := 0
  receive : List CheckResult → CheckResult → Option Fault := receiveAll

def Context.check (c : Context) (value : α) (checks : Assoc String (Predicate α)) : Report :=
  evaluate c.receive value c.vu c.iteration checks

section Ended

variable (receive : List CheckResult → CheckResult → Option Fault) (value : α) (vu iteration : Int)

/-- An evaluation that has ended evaluates nothing more. -/
theorem foldl_next_of_ended (checks : List (String × Predicate α)) {report : Report} (fault : Fault)
    (ended : report.outcome = .error fault) :
    checks.foldl (fun r check => r.next receive value vu iteration check) report = report := by
  induction checks with
  | nil => rfl
  | cons check rest ih =>
    have same : report.next receive value vu iteration check = report := by
      simp [Report.next, ended]
    rw [List.foldl_cons, same, ih]

theorem evaluate_append (earlier later : List (String × Predicate α)) :
    evaluate receive value vu iteration (earlier ++ later) =
      later.foldl (fun r check => r.next receive value vu iteration check)
        (evaluate receive value vu iteration earlier) := by
  rw [evaluate, List.foldl_append]
  rfl

end Ended

end Checks

/-- The label under which the products scenario reports its check. -/
def statusCheck : String := "status is valid"

end Volley
