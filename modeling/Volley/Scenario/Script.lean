import Volley.Scenario.Body

/-!
# Scripted bodies

A script lists the steps of an iteration. Different iterations and virtual users may have scripts of
their own. A scripted body writes down every step that it takes and how the iteration ended.

## Main definitions

- `Script.Step`: the steps.
- `Script`: which steps an iteration takes, and `Script.steps`.
- `Script.body`: the body that takes them.
-/

namespace Volley

namespace Script

/-- A step of a script. -/
inductive Step (τ : Type) where
  /-- Makes checks on a value, or on the last response when none is given. -/
  | check (subject : Option Subject) (checks : Assoc String (Predicate Subject))
  | get (path : String) (headers : Headers) (name : Option String)
  /-- Sends a request and goes on after an ordinary failure. -/
  | tryGet (path : String)
  | sleep (time : τ)
  | sleepIgnoring (time : τ)
  /-- Sleeps; when it is cancelled, sleeps some more before it ends. -/
  | sleepLingering (time linger : τ)
  | giveWay
  | hang
  | raise (fault : Fault)
  | stop
  | look
  | signal (name : String)

end Script

/-- The steps of iterations: those for the number of the iteration, else those for the virtual user,
else the common ones. -/
structure Script (τ : Type) where
  common : List (Script.Step τ) := []
  byIteration : Assoc Int (List (Script.Step τ)) := []
  byUser : Assoc Int (List (Script.Step τ)) := []

namespace Script

variable {τ : Type}

/-- The steps that a virtual user takes in an iteration. -/
def steps (script : Script τ) (vu iteration : Int) : List (Step τ) :=
  match script.byIteration.find? iteration with
  | some steps => steps
  -- Without steps for the number those for the user are taken, and only then the common ones.
  | none => (script.byUser.find? vu).getD script.common

/-- What a scripted body waits for. -/
inductive Waiting (τ : Type) where
  | begin
  | step (step : Step τ)
  /-- The end of a sleep after a cancellation, which is then passed on. -/
  | linger (fault : Fault)

/-- The state of a scripted body. -/
structure State (τ : Type) where
  iteration : Int
  waiting : Waiting τ := .begin
  rest : List (Step τ)
  /-- The last response. -/
  last : Subject := .statusless

variable [Zero τ]

def Step.move (last : Subject) : Step τ → Move τ
  | check subject checks => .check (subject.getD last) checks
  | get path headers name => .get path headers name
  | tryGet path => .get path [] none
  | sleep time => .sleep time
  | sleepIgnoring time => .sleep time
  | sleepLingering time _ => .sleep time
  -- The sleep gives way only.
  | giveWay => .sleep 0
  | hang => .hang
  | raise fault => .fail fault.leaving
  | stop => .stop
  | look => .look
  | signal name => .signal name

def State.fail (s : State τ) (notes : List Note) (fault : Fault) : Answer τ (State τ) :=
  let note := if fault.isCancelling then .cancelled else .raised fault.name
  { notes := notes ++ [note], move := .fail fault, state := s }

/-- Takes the next step, or ends the iteration after the last. -/
def State.proceed (s : State τ) (notes : List Note) : Answer τ (State τ) :=
  match s.rest with
  | [] => { notes := notes ++ [.ended], move := .finish, state := s }
  | .raise fault :: _ => s.fail notes fault.leaving
  | step :: rest =>
    { notes, move := step.move s.last, state := { s with waiting := .step step, rest } }

def State.recover (s : State τ) (step : Step τ) (fault : Fault) : Answer τ (State τ) :=
  match step with
  | .tryGet _ =>
    if fault.isOrdinary then s.proceed [.caught fault.name] else s.fail [] fault
  | .sleepIgnoring _ => s.proceed [.cancelSeen, .woke]
  | .sleepLingering _ linger =>
    { notes := [.cancelSeen], move := .sleep linger, state := { s with waiting := .linger fault } }
  | _ => s.fail [] fault

def Step.note (step : Step τ) (cue : Cue) : List Note :=
  match step, cue with
  -- A step that gives way writes down nothing.
  | .giveWay, .rested => []
  | _, .rested => [.woke]
  | _, .answered response => [.status response.status]
  | _, .checked passed => [.checked passed]
  | _, .stopped state => [.stopped state]
  | _, .looked state active claimed => [.looked state active claimed]
  | _, .signalled handled => [.signalled handled]
  | _, _ => []

def State.respond (s : State τ) (cue : Cue) : Answer τ (State τ) :=
  match s.waiting, cue with
  | .begin, _ => s.proceed [.began s.iteration]
  | .step step, .faulted fault => s.recover step fault
  | .step step, .answered response =>
    { s with last := .status response.status }.proceed (step.note cue)
  | .step step, _ => s.proceed (step.note cue)
  -- However the second sleep ends, the first fault or a new one is passed on.
  | .linger _, .faulted fault => s.fail [] fault
  | .linger fault, _ => s.fail [] fault

def body (script : Script τ) : Body τ (State τ) where
  start vu iteration := { iteration, rest := script.steps vu iteration }
  respond := State.respond

end Script

end Volley
