import Mathlib.Data.List.Induction
import Volley.Json
import Volley.Proofs.Run.Ledger

/-!
# How an evaluation of checks ends

A check puts a question to a value and asks of the answer whether it counts as true. If either fails
by an ordinary fault the check has not passed. So every check has a result, and all of them are
delivered in order, unless a question or a test of an answer fails by another fault, or the receiver
of the results does. Then that fault ends the evaluation, the results before it have been delivered,
and no later check is made.

## Main definitions

- `Checks.asking`: checks from questions and a test of their answers.
- `Checks.Settles`, `Checks.Breaks`: what comes of one check.
- `Checks.Delivers`: checks that all have a result, and a receiver that takes them.
- `Checks.Ends`: how an evaluation ends.

## Main results

- `next_of_settles`, `next_of_breaks`: one check; `next_of_taken`, `next_of_refused`: its result.
- `check_of_delivers`: checks that all deliver their results.
- `ends_check`, `check_of_ends`: an evaluation ends in exactly one way.
- `check_perform`: the checks of an iteration are those of its user and its number.
- `check_reports`: all of it.
-/

namespace Volley

namespace Checks

variable {α β : Type}

/-- The checks that put these questions. -/
def asking (truth : β → Except Fault Bool) (questions : Assoc String (α → Except Fault β)) :
    Assoc String (Predicate α) :=
  List.map (fun check => (check.1, Predicate.asking check.2 truth)) questions

/-! ### One check -/

/-- A check has this result in a context: the answer counts as true or not, or there is none because
of an ordinary fault. -/
inductive Settles (truth : β → Except Fault Bool) (value : α) (c : Context) :
    String × (α → Except Fault β) → CheckResult → Prop
  | answered {label : String} {question : α → Except Fault β} {answer : β} {passed : Bool}
      (answers : question value = .ok answer) (counts : truth answer = .ok passed) :
      Settles truth value c (label, question)
        { name := label, passed, vu := c.vu, iteration := c.iteration }
  | unanswered {label : String} {question : α → Except Fault β} {fault : Fault}
      (fails : question value = .error fault) (ordinary : fault.isOrdinary = true) :
      Settles truth value c (label, question)
        { name := label, passed := false, vu := c.vu, iteration := c.iteration }
  | untested {label : String} {question : α → Except Fault β} {answer : β} {fault : Fault}
      (answers : question value = .ok answer) (fails : truth answer = .error fault)
      (ordinary : fault.isOrdinary = true) :
      Settles truth value c (label, question)
        { name := label, passed := false, vu := c.vu, iteration := c.iteration }

/-- A check fails by a fault that nothing holds up. -/
inductive Breaks (truth : β → Except Fault Bool) (value : α) (question : α → Except Fault β)
    (fault : Fault) : Prop
  | question (fails : question value = .error fault) (grave : fault.isOrdinary = false)
  | truth {answer : β} (answers : question value = .ok answer)
      (fails : truth answer = .error fault) (grave : fault.isOrdinary = false)

section One

variable (truth : β → Except Fault Bool) (value : α) (c : Context)

/-- A check has a result or breaks. -/
theorem settles_or_breaks (label : String) (question : α → Except Fault β) :
    (∃ result, Settles truth value c (label, question) result) ∨
      ∃ fault, Breaks truth value question fault := by
  cases answers : question value with
  | error fault =>
    cases ordinary : fault.isOrdinary with
    | true => exact .inl ⟨_, .unanswered answers ordinary⟩
    | false => exact .inr ⟨fault, .question answers ordinary⟩
  | ok answer =>
    -- An answer that cannot be tested is like none.
    cases counts : truth answer with
    | ok passed => exact .inl ⟨_, .answered answers counts⟩
    | error fault =>
      cases ordinary : fault.isOrdinary with
      | true => exact .inl ⟨_, .untested answers counts ordinary⟩
      | false => exact .inr ⟨fault, .truth answers counts ordinary⟩

variable {truth value c}

/-- A check that has a result hands it to the receiver. -/
theorem next_of_settles {report : Report} {allPassed : Bool} {label : String}
    {question : α → Except Fault β} {result : CheckResult} (open_ : report.outcome = .ok allPassed)
    (settles : Settles truth value c (label, question) result) :
    ∃ raised, report.next c.receive value c.vu c.iteration (label, .asking question truth) =
      { report with raised }.deliver c.receive allPassed result := by
  cases settles with
  | @answered _ _ _ passed answers counts =>
    have delivers : report.next c.receive value c.vu c.iteration (label, .asking question truth) =
        report.deliver c.receive allPassed
          { name := label, passed, vu := c.vu, iteration := c.iteration } := by
      simp [Report.next, open_, Predicate.asking, answers, counts]
    exact ⟨report.raised, delivers⟩
  | unanswered fails ordinary =>
    exact ⟨report.raised ++ [label],
      by simp [Report.next, open_, Predicate.asking, fails, ordinary]⟩
  | untested answers fails ordinary =>
    exact ⟨report.raised ++ [label],
      by simp [Report.next, open_, Predicate.asking, answers, fails, ordinary]⟩

/-- So a result that is taken is delivered after those before it. -/
theorem next_of_taken {report : Report} {allPassed : Bool} {label : String}
    {question : α → Except Fault β} {result : CheckResult} (open_ : report.outcome = .ok allPassed)
    (settles : Settles truth value c (label, question) result)
    (takes : c.receive report.delivered result = none) :
    let next := report.next c.receive value c.vu c.iteration (label, .asking question truth)
    next.delivered = report.delivered ++ [result] ∧
      next.outcome = .ok (allPassed && result.passed) := by
  obtain ⟨raised, delivers⟩ := next_of_settles open_ settles
  simp [delivers, Report.deliver, takes]

/-- A result that is not taken is not delivered, and the evaluation ends. -/
theorem next_of_refused {report : Report} {allPassed : Bool} {label : String}
    {question : α → Except Fault β} {result : CheckResult} {fault : Fault}
    (open_ : report.outcome = .ok allPassed)
    (settles : Settles truth value c (label, question) result)
    (refuses : c.receive report.delivered result = some fault) :
    let next := report.next c.receive value c.vu c.iteration (label, .asking question truth)
    next.delivered = report.delivered ∧ next.outcome = .error fault := by
  obtain ⟨raised, delivers⟩ := next_of_settles open_ settles
  simp [delivers, Report.deliver, refuses]

variable (c) in
/-- A check that breaks ends the evaluation without a result. -/
theorem next_of_breaks {report : Report} {allPassed : Bool} {fault : Fault}
    {question : α → Except Fault β} (open_ : report.outcome = .ok allPassed) (label : String)
    (breaks : Breaks truth value question fault) :
    report.next c.receive value c.vu c.iteration (label, .asking question truth) =
      { report with outcome := .error fault } := by
  cases breaks with
  | question fails grave => simp [Report.next, open_, Predicate.asking, fails, grave]
  | truth answers fails grave =>
    simp [Report.next, open_, Predicate.asking, answers, fails, grave]

end One

/-! ### All checks -/

/-- Checks that all have a result, each of which the receiver takes after those before it. -/
inductive Delivers (truth : β → Except Fault Bool) (value : α) (c : Context) :
    List (String × (α → Except Fault β)) → List CheckResult → Prop
  | nil : Delivers truth value c [] []
  | concat {earlier : List (String × (α → Except Fault β))} {results : List CheckResult}
      {check : String × (α → Except Fault β)} {result : CheckResult}
      (before : Delivers truth value c earlier results)
      (settles : Settles truth value c check result)
      (takes : c.receive results result = none) :
      Delivers truth value c (earlier ++ [check]) (results ++ [result])

/-- How an evaluation ends: with these results delivered, and with this outcome. -/
inductive Ends (truth : β → Except Fault Bool) (value : α) (c : Context) :
    List (String × (α → Except Fault β)) → List CheckResult → Except Fault Bool → Prop
  | complete {questions : List (String × (α → Except Fault β))} {results : List CheckResult}
      (delivers : Delivers truth value c questions results) :
      Ends truth value c questions results (.ok (results.all (·.passed)))
  /-- A check breaks after those before it have delivered their results. -/
  | broken {earlier later : List (String × (α → Except Fault β))} {results : List CheckResult}
      {label : String} {question : α → Except Fault β} {fault : Fault}
      (delivers : Delivers truth value c earlier results)
      (breaks : Breaks truth value question fault) :
      Ends truth value c (earlier ++ (label, question) :: later) results (.error fault)
  /-- The receiver does not take a result. -/
  | refused {earlier later : List (String × (α → Except Fault β))} {results : List CheckResult}
      {check : String × (α → Except Fault β)} {result : CheckResult} {fault : Fault}
      (delivers : Delivers truth value c earlier results)
      (settles : Settles truth value c check result)
      (refuses : c.receive results result = some fault) :
      Ends truth value c (earlier ++ check :: later) results (.error fault)

section All

variable {truth : β → Except Fault Bool} {value : α} {c : Context}

/-- The checks are made one after another. -/
theorem check_concat (earlier : List (String × (α → Except Fault β))) (label : String)
    (question : α → Except Fault β) :
    c.check value (asking truth (earlier ++ [(label, question)])) =
      (c.check value (asking truth earlier)).next c.receive value c.vu c.iteration
        (label, .asking question truth) := by
  simp [Context.check, asking, evaluate_append]

/-- Once the evaluation has ended no check is made. -/
theorem check_append_of_ended {earlier : List (String × (α → Except Fault β))} {fault : Fault}
    (ended : (c.check value (asking truth earlier)).outcome = .error fault)
    (later : List (String × (α → Except Fault β))) :
    c.check value (asking truth (earlier ++ later)) = c.check value (asking truth earlier) := by
  rw [Context.check, asking, List.map_append, evaluate_append]
  exact foldl_next_of_ended _ _ _ _ _ fault ended

theorem check_of_delivers {questions : List (String × (α → Except Fault β))}
    {results : List CheckResult} (delivers : Delivers truth value c questions results) :
    (c.check value (asking truth questions)).delivered = results ∧
      (c.check value (asking truth questions)).outcome = .ok (results.all (·.passed)) := by
  induction delivers with
  | nil => exact ⟨rfl, rfl⟩
  | @concat _ results _ _ _ settles takes ih =>
    obtain ⟨delivered, outcome⟩ := ih
    -- The receiver was asked with the results that are there by now.
    rw [← delivered] at takes
    rw [check_concat]
    simpa [delivered] using next_of_taken outcome settles takes

/-- What is delivered when a check is the last that is made. -/
theorem check_of_ends {questions : List (String × (α → Except Fault β))}
    {results : List CheckResult} {outcome : Except Fault Bool}
    (ends : Ends truth value c questions results outcome) :
    (c.check value (asking truth questions)).delivered = results ∧
      (c.check value (asking truth questions)).outcome = outcome := by
  -- A check that is the last to be made ends the evaluation, whatever comes later.
  have last (earlier later : List (String × (α → Except Fault β)))
      (check : String × (α → Except Fault β)) (fault : Fault)
      (ended : (c.check value (asking truth (earlier ++ [check]))).outcome = .error fault) :
      c.check value (asking truth (earlier ++ check :: later)) =
        c.check value (asking truth (earlier ++ [check])) := by
    rw [← check_append_of_ended ended later, List.append_assoc, List.singleton_append]
  cases ends with
  | complete delivers => exact check_of_delivers delivers
  | @broken earlier later _ label question fault delivers breaks =>
    obtain ⟨delivered, outcome⟩ := check_of_delivers delivers
    have made := next_of_breaks c outcome label breaks
    rw [← check_concat] at made
    rw [last _ _ _ fault (by rw [made]), made]
    exact ⟨delivered, rfl⟩
  | @refused earlier later _ check _ fault delivers settles refuses =>
    obtain ⟨delivered, outcome⟩ := check_of_delivers delivers
    rw [← delivered] at refuses
    have made := next_of_refused outcome settles refuses
    rw [← check_concat] at made
    rw [last _ _ _ fault made.2]
    exact ⟨made.1.trans delivered, made.2⟩

/-- Every evaluation ends in one of these ways. -/
theorem ends_check (truth : β → Except Fault Bool) (value : α) (c : Context)
    (questions : List (String × (α → Except Fault β))) :
    Ends truth value c questions (c.check value (asking truth questions)).delivered
      (c.check value (asking truth questions)).outcome := by
  obtain ⟨results, outcome, ends⟩ :
      ∃ results outcome, Ends truth value c questions results outcome := by
    -- By induction from the back: another check is made only if all before it were.
    induction questions using List.reverseRecOn with
    | nil => exact ⟨_, _, .complete .nil⟩
    | append_singleton earlier check ih =>
      obtain ⟨label, question⟩ := check
      obtain ⟨results, outcome, ends⟩ := ih
      cases ends with
      -- All before it were made, so this check is made.
      | complete delivers =>
        rcases settles_or_breaks truth value c label question with
          ⟨result, settles⟩ | ⟨fault, breaks⟩
        · cases takes : c.receive results result with
          | none => exact ⟨_, _, .complete (delivers.concat settles takes)⟩
          | some fault => exact ⟨_, _, .refused delivers settles takes⟩
        · exact ⟨_, _, .broken delivers breaks⟩
      -- Where the evaluation has ended already, the check comes later and changes nothing.
      | broken delivers breaks =>
        rw [List.append_assoc, List.cons_append]
        exact ⟨_, _, .broken delivers breaks⟩
      | refused delivers settles refuses =>
        rw [List.append_assoc, List.cons_append]
        exact ⟨_, _, .refused delivers settles refuses⟩
  obtain ⟨delivered, ended⟩ := check_of_ends ends
  rw [delivered, ended]
  exact ends

end All

/-! ### Checks of an iteration -/

/-- What a body is told of an evaluation. -/
def told : Except Fault Bool → Cue
  | .ok passed => .checked passed
  | .error fault => .faulted fault

section Runs

open Run Pool

variable {τ σ : Type} [Scalar τ] (client : Http.Client τ) (iteration : Int) (g : Glance τ)
  (w : World τ) (state : σ) (subject : Subject) (checks : Assoc String (Predicate Subject))

/-- The checks of an iteration are made in its own context: by its user, under its number, and what
is delivered is recorded. -/
theorem check_perform :
    let report := ({ vu := client.vu, iteration } : Context).check subject checks
    let effect := Iteration.perform client iteration g w state (.check subject checks)
    effect.world.collector.checks = w.collector.checks ++ report.delivered ∧
      effect.next = .going (.cued state (told report.outcome)) .goOn := by
  intro report effect
  have performed : effect =
      Iteration.cue (Iteration.recordChecks w report) state (told report.outcome) := by
    unfold effect Iteration.perform
    dsimp only
    split
    next passed => exact congrArg _ (congrArg told passed.symm)
    next failed => exact congrArg _ (congrArg told failed.symm)
  rw [performed]
  exact ⟨congrArg Ledger.checks (ledger_recordChecks w report), rfl⟩

end Runs

/-- An evaluation of checks ends in exactly one way. Once it has ended no check is made. The checks
of an iteration end so too, tagged with its user and its number. -/
theorem check_reports (truth : β → Except Fault Bool) :
    (∀ (questions : Assoc String (α → Except Fault β)) (value : α) (c : Context)
        (results : List CheckResult) (outcome : Except Fault Bool),
      ((c.check value (asking truth questions)).delivered = results ∧
        (c.check value (asking truth questions)).outcome = outcome) ↔
      Ends truth value c questions results outcome) ∧
    (∀ (earlier later : Assoc String (α → Except Fault β)) (value : α) (c : Context)
        (fault : Fault),
      (c.check value (asking truth earlier)).outcome = .error fault →
        c.check value (asking truth (earlier ++ later)) = c.check value (asking truth earlier)) ∧
    ∀ (τ σ : Type) [Scalar τ] (client : Http.Client τ) (iteration : Int) (g : Pool.Glance τ)
        (w : Run.World τ) (state : σ) (subject : Subject)
        (questions : Assoc String (Subject → Except Fault β)),
      ∃ results outcome,
        Ends truth subject { vu := client.vu, iteration } questions results outcome ∧
        let effect := Run.Iteration.perform client iteration g w state
          (.check subject (asking truth questions))
        effect.world.collector.checks = w.collector.checks ++ results ∧
          effect.next = .going (.cued state (told outcome)) .goOn := by
  refine ⟨?_, ?_, ?_⟩
  · intro questions value c results outcome
    constructor
    · rintro ⟨rfl, rfl⟩
      exact ends_check truth value c questions
    · exact check_of_ends
  · intro earlier later value c fault ended
    exact check_append_of_ended ended later
  · intro τ σ _ client iteration g w state subject questions
    exact ⟨_, _, ends_check truth subject { vu := client.vu, iteration } questions,
      check_perform client iteration g w state subject _⟩

namespace Sample

/-- A test of answers that fails on a text. -/
def truth : Json → Except Fault Bool
  | .text _ => .error (.ordinary "TypeError" "a text is no truth")
  | answer => .ok answer.holds

/-- Questions that are answered, answered by nothing, not answered, and answered by a text. -/
def survived : Assoc String (Subject → Except Fault Json) :=
  [("known", fun subject => .ok (.bool (subject == .status 200))),
    ("empty", fun _ => .ok (.list [])),
    ("failing", fun _ => .error (.ordinary "ValueError" "no value")),
    ("text", fun _ => .ok (.text "yes"))]

def cancelled : Assoc String (Subject → Except Fault Json) :=
  [("cancelled", fun _ => .error .cancelled)]

def late : Assoc String (Subject → Except Fault Json) :=
  [("late", fun _ => .ok (.int 1))]

def context : Context :=
  { vu := 3, iteration := 7 }

/-- Four checks deliver their results. The fifth is cancelled, so the sixth is not made. -/
theorem check_reports_cancelled :
    Ends truth (.status 200) context (survived ++ cancelled ++ late)
      [{ name := "known", passed := true, vu := 3, iteration := 7 },
        { name := "empty", passed := false, vu := 3, iteration := 7 },
        { name := "failing", passed := false, vu := 3, iteration := 7 },
        { name := "text", passed := false, vu := 3, iteration := 7 }]
      (.error .cancelled) ∧
    context.check (.status 200) (asking truth (survived ++ cancelled ++ late)) =
      context.check (.status 200) (asking truth (survived ++ cancelled)) := by
  obtain ⟨ends, stops, -⟩ := check_reports (α := Subject) truth
  exact ⟨(ends _ _ _ _ _).1 ⟨by decide, rfl⟩, stops _ _ _ _ .cancelled rfl⟩

end Sample

end Checks

end Volley
