import Volley.Proofs.Metric.Tally
import Volley.Run.World

/-!
# Bodies one after another

A body may be so made that what it records and how it ends depend on the iteration number only,
however it sleeps, looks around and requests in between. What such bodies record when they run one
after another is a plain fold over the numbers.

## Main definitions

- `Run.Yield`: what an iteration comes to.
- `Run.Yields`: from a cue on, a body makes these checks and ends so.
- `Run.inSequence`: what iterations record one after another.

## Main results

- `Yields.settles`: what a body comes to settles its iteration.
- `alike_evaluate`: who evaluates checks does not show in what they say.
-/

namespace Volley

namespace Run

/-- What an iteration comes to: the labels and answers of its checks in order, and the fault it ends
by. -/
structure Yield where
  checks : List (String × Bool) := []
  fault : Option Fault := none
  deriving DecidableEq, Repr

/-! ### Checks -/

def seenOf (report : Checks.Report) : List (String × Bool) :=
  report.delivered.map CheckResult.seen

def toldOf (report : Checks.Report) : Cue :=
  match report.outcome with
  | .ok passed => .checked passed
  | .error fault => .faulted fault

/-- Two evaluations say the same. -/
structure Alike (report report' : Checks.Report) : Prop where
  seen : seenOf report = seenOf report'
  outcome : report.outcome = report'.outcome

/-- One check is told in the same way to both, and both stop where one of them does. -/
theorem alike_next {α : Type} {report report' : Checks.Report} (alike : Alike report report')
    (value : α) (vu iteration vu' iteration' : Int) (check : String × Predicate α) :
    Alike (report.next Checks.receiveAll value vu iteration check)
      (report'.next Checks.receiveAll value vu' iteration' check) := by
  obtain ⟨seen, outcome⟩ := alike
  unfold Checks.Report.next
  -- After a fault no further check is evaluated.
  rw [outcome]
  split
  · exact ⟨seen, outcome⟩
  · split
    · refine ⟨?_, rfl⟩
      simpa [Checks.Report.deliver, Checks.receiveAll, seenOf, CheckResult.seen] using seen
    · split
      · refine ⟨?_, rfl⟩
        simpa [Checks.Report.deliver, Checks.receiveAll, seenOf, CheckResult.seen] using seen
      · exact ⟨seen, rfl⟩

theorem alike_evaluate {α : Type} (value : α) (vu iteration vu' iteration' : Int)
    (checks : Assoc String (Predicate α)) :
    Alike (Checks.evaluate Checks.receiveAll value vu iteration checks)
      (Checks.evaluate Checks.receiveAll value vu' iteration' checks) := by
  -- By induction on the checks, from any two reports that say the same.
  have each (report report' : Checks.Report) (alike : Alike report report') :
      Alike
        (checks.foldl (fun r check => r.next Checks.receiveAll value vu iteration check) report)
        (checks.foldl (fun r check => r.next Checks.receiveAll value vu' iteration' check)
          report') := by
    induction checks generalizing report report' with
    | nil => exact alike
    | cons check rest ih => exact ih _ _ (alike_next alike value vu iteration vu' iteration' check)
  exact each {} {} ⟨rfl, rfl⟩

/-! ### Bodies -/

/-- From a cue on, a body makes these checks and ends by this fault, if by any, whatever it is
answered to requests and looks. It does not wait for ever, and leaves the run alone. -/
inductive Yields {τ β : Type} (body : Body τ β) :
    β → Cue → List (String × Bool) → Option Fault → Prop
  | finish {state : β} {cue : Cue} (move : (body.respond state cue).move = .finish) :
      Yields body state cue [] none
  | fail {state : β} {cue : Cue} {fault : Fault}
      (move : (body.respond state cue).move = .fail fault) (ordinary : fault.isOrdinary = true) :
      Yields body state cue [] (some fault)
  | check {state : β} {cue : Cue} {subject : Subject} {checks : Assoc String (Predicate Subject)}
      {rest : List (String × Bool)} {fault : Option Fault}
      (move : (body.respond state cue).move = .check subject checks)
      (next : Yields body (body.respond state cue).state
        (toldOf (Checks.evaluate Checks.receiveAll subject 0 0 checks)) rest fault) :
      Yields body state cue
        (seenOf (Checks.evaluate Checks.receiveAll subject 0 0 checks) ++ rest) fault
  | sleep {state : β} {cue : Cue} {time : τ} {rest : List (String × Bool)} {fault : Option Fault}
      (move : (body.respond state cue).move = .sleep time)
      (next : Yields body (body.respond state cue).state .rested rest fault) :
      Yields body state cue rest fault
  | get {state : β} {cue : Cue} {path : String} {headers : Headers} {name : Option String}
      {rest : List (String × Bool)} {fault : Option Fault}
      (move : (body.respond state cue).move = .get path headers name)
      (answered : ∀ response,
        Yields body (body.respond state cue).state (.answered response) rest fault)
      (faulted : ∀ f, Yields body (body.respond state cue).state (.faulted f) rest fault) :
      Yields body state cue rest fault
  | look {state : β} {cue : Cue} {rest : List (String × Bool)} {fault : Option Fault}
      (move : (body.respond state cue).move = .look)
      (next : ∀ lifecycle active claimed,
        Yields body (body.respond state cue).state (.looked lifecycle active claimed) rest fault) :
      Yields body state cue rest fault

namespace Yields

variable {τ β : Type} {body : Body τ β} {state : β} {cue : Cue}
  {checks : List (String × Bool)} {fault : Option Fault}

/-- A body that yields something ends by itself, with an ordinary fault at worst. -/
theorem settles (yields : Yields body state cue checks fault) :
    fault.all Fault.isOrdinary = true := by
  induction yields with
  | finish move => rfl
  | fail move ordinary => exact ordinary
  | check move next ih => exact ih
  | sleep move next ih => exact ih
  -- It comes to the same whatever it is answered, so any response will do.
  | get move answered faulted ih _ => exact ih { status := 0, body := "" }
  | look move next ih => exact ih .running 0 0

end Yields

/-! ### The sequence -/

section Sequence

variable {τ : Type}

/-- What one more iteration adds to what was collected. -/
def gather (c : Collector τ) (iteration : Nat) (yield : Yield) : Collector τ :=
  (yield.checks.foldl
    (fun c check => c.recordCheck { name := check.1, passed := check.2, iteration }) c)
    |>.recordIteration yield.fault

/-- What is collected of the first iterations, one after another. -/
def inSequence (yield : Nat → Yield) (n : Nat) : Collector τ :=
  (List.range n).foldl (fun c iteration => gather c iteration (yield iteration)) {}

theorem inSequence_succ (yield : Nat → Yield) (n : Nat) :
    (inSequence yield (n + 1) : Collector τ) = gather (inSequence yield n) n (yield n) := by
  simp [inSequence, List.range_succ]

/-- Checks are recorded one after another, and nothing else is. -/
theorem foldl_recordCheck (c : Collector τ) (iteration : Nat) (checks : List (String × Bool)) :
    let c' := checks.foldl
      (fun c check => c.recordCheck { name := check.1, passed := check.2, iteration }) c
    c'.checks.map CheckResult.seen = c.checks.map CheckResult.seen ++ checks ∧
      c'.iterations = c.iterations ∧ c'.iterationErrors = c.iterationErrors := by
  induction checks generalizing c with
  | nil => simp
  | cons check rest ih =>
    -- Recording one check changes nothing but the list of checks.
    obtain ⟨seen, iterations, errors⟩ :=
      ih (c.recordCheck { name := check.1, passed := check.2, iteration })
    refine ⟨seen.trans ?_, iterations, errors⟩
    simp [Collector.recordCheck, CheckResult.seen]

theorem gather_checks (c : Collector τ) (iteration : Nat) (yield : Yield) :
    (gather c iteration yield).checks.map CheckResult.seen =
      c.checks.map CheckResult.seen ++ yield.checks := by
  obtain ⟨seen, -, -⟩ := foldl_recordCheck c iteration yield.checks
  unfold gather Collector.recordIteration
  split <;> exact seen

theorem gather_fault (c : Collector τ) (iteration : Nat) (yield : Yield) :
    (gather c iteration yield).iterations =
        c.iterations + (if yield.fault.isNone then 1 else 0) ∧
      (gather c iteration yield).iterationErrors = match yield.fault with
        | none => c.iterationErrors
        | some f => c.iterationErrors.update f.name 0 (· + 1) := by
  obtain ⟨-, iterations, errors⟩ := foldl_recordCheck c iteration yield.checks
  unfold gather Collector.recordIteration
  cases yield.fault with
  | none => exact ⟨congrArg (· + 1) iterations, errors⟩
  | some f => exact ⟨iterations, congrArg (fun m => m.update f.name 0 (· + 1)) errors⟩

theorem inSequence_checks (yield : Nat → Yield) (n : Nat) :
    (inSequence yield n : Collector τ).checks.map CheckResult.seen =
      (List.range n).flatMap fun iteration => (yield iteration).checks := by
  induction n with
  | zero => rfl
  | succ n ih => rw [inSequence_succ, gather_checks, ih, List.range_succ]; simp

theorem inSequence_iterations (yield : Nat → Yield) (n : Nat) :
    (inSequence yield n : Collector τ).iterations =
      (List.range n).countP fun iteration => (yield iteration).fault.isNone := by
  induction n with
  | zero => rfl
  | succ n ih =>
    rw [inSequence_succ, (gather_fault _ _ _).1, ih, List.range_succ, List.countP_append]
    simp [List.countP_singleton]

theorem inSequence_errors (yield : Nat → Yield) (n : Nat) :
    (inSequence yield n : Collector τ).iterationErrors =
      Collector.blame ((List.range n).filterMap fun iteration => (yield iteration).fault) := by
  induction n with
  | zero => rfl
  | succ n ih =>
    rw [inSequence_succ, (gather_fault _ _ _).2, ih, List.range_succ, List.filterMap_append]
    -- A fault is blamed after all that came before it, as both lists grow at their end.
    cases fault : (yield n).fault with
    | none => simp [fault]
    | some f => simp [fault, Collector.blame_concat]

end Sequence

end Run

end Volley
