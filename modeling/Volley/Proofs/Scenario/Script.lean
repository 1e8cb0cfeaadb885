import Volley.Proofs.Run.Sequence
import Volley.Scenario.Script

/-!
# Plain scripts

A script is plain if its steps make checks on given values, sleep, look and raise ordinary faults.
What a plain script records and how it ends can be read off it. If users have no scripts of their
own, it depends on the iteration number only.

## Main definitions

- `Script.Step.isPlain`, `Script.yieldOf`.

## Main results

- `yields_script`: a plain script yields what is read off it.
-/

namespace Volley

namespace Script

open Run

variable {τ : Type}

/-- Whether a step leaves the run alone and makes nothing of what it is answered. -/
def Step.isPlain : Step τ → Bool
  | check (some subject) checks =>
    match (Checks.evaluate Checks.receiveAll subject 0 0 checks).outcome with
    | .ok _ => true
    | .error _ => false
  | sleep _ | giveWay | look => true
  | raise fault => fault.isOrdinary
  | _ => false

/-- What is read off a list of steps. A raise ends it, and steps other than checks add nothing. -/
def yieldOf : List (Step τ) → Yield
  | [] => {}
  | .raise fault :: _ => { fault := some fault.leaving }
  | .check (some subject) checks :: rest =>
    { yieldOf rest with
      checks := seenOf (Checks.evaluate Checks.receiveAll subject 0 0 checks) ++
        (yieldOf rest).checks }
  | _ :: rest => yieldOf rest

variable [Zero τ]

/-- Wherever a scripted body goes on with plain steps, it yields what they do. -/
theorem yields_proceed (script : Script τ) (steps : List (Step τ))
    (plain : ∀ step ∈ steps, step.isPlain = true) (s s' : State τ) (cue : Cue) (notes : List Note)
    (goesOn : s.respond cue = s'.proceed notes) (rest : s'.rest = steps) :
    Yields script.body s cue (yieldOf steps).checks (yieldOf steps).fault := by
  induction steps generalizing s s' cue notes with
  | nil =>
    have answer : script.body.respond s cue = _ := goesOn
    apply Yields.finish
    rw [answer, State.proceed, rest]
  | cons step later ih =>
    -- After its first step the script goes on with the others, whatever it is told.
    have answer : script.body.respond s cue = _ := goesOn
    rw [State.proceed, rest] at answer
    have plainLater : ∀ step ∈ later, step.isPlain = true := fun step member =>
      plain step (.tail _ member)
    have plainStep := plain step (.head _)
    have next (cue : Cue) (notes : List Note)
        (waits : State.respond { s' with waiting := .step step, rest := later } cue =
          State.proceed { s' with waiting := .step step, rest := later } notes) :=
      ih plainLater { s' with waiting := .step step, rest := later } _ cue notes waits rfl
    cases step with
    | raise fault =>
      exact .fail (by rw [answer]; rfl) (Fault.isOrdinary_leaving plainStep)
    | check subject checks =>
      cases subject with
      | none => cases plainStep
      | some subject =>
        -- A plain check compares with values that are given, so its outcome is settled before the
        -- run.
        have passes : ∃ passed,
            (Checks.evaluate Checks.receiveAll subject 0 0 checks).outcome = .ok passed := by
          cases outcome : (Checks.evaluate Checks.receiveAll subject 0 0 checks).outcome with
          | ok passed => exact ⟨passed, rfl⟩
          | error fault => simp [Step.isPlain, outcome] at plainStep
        obtain ⟨passed, outcome⟩ := passes
        apply Yields.check
        · rw [answer]
          rfl
        · rw [answer, toldOf, outcome]
          exact next _ _ rfl
    | sleep time =>
      refine .sleep (by rw [answer]; rfl) ?_
      rw [answer]
      exact next _ _ rfl
    | giveWay =>
      refine .sleep (by rw [answer]; rfl) ?_
      rw [answer]
      exact next _ _ rfl
    | look =>
      -- Whatever it is shown, it makes nothing of it.
      refine .look (by rw [answer]; rfl) ?_
      intro lifecycle active claimed
      rw [answer]
      exact next _ _ rfl
    | _ => cases plainStep

/-- A plain script yields what is read off it. -/
theorem yields_script (script : Script τ) (vu iteration : Int)
    (plain : ∀ step ∈ script.steps vu iteration, step.isPlain = true) :
    Yields script.body (script.body.start vu iteration) .began
      (yieldOf (script.steps vu iteration)).checks (yieldOf (script.steps vu iteration)).fault :=
  yields_proceed script _ plain _ _ .began [.began iteration] rfl rfl

end Script

end Volley
