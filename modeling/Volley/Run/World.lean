import Volley.Config.Settings
import Volley.Http.Client
import Volley.Metric.Collector
import Volley.Scenario.Body

/-!
# The world of a run

What the virtual users and the director of a run share: the state of the run, the number of claimed
iterations, the collector, the transport, and a history of all that happened.

## Main definitions

- `Run.Plan`: what is to be run.
- `Run.Event`: what the history records.
- `Run.World`, with `claim`, `requestStop` and `signalled`, and the views `entries`, `notes` and
  `handlerChanges` of its history.
-/

namespace Volley

namespace Run

/-- What is to be run: the name and the options of a scenario, the timeout and the headers of every
client, and whether signals end the run gracefully. -/
structure Plan (τ : Type) where
  scenario : String
  options : RunOptions τ
  requestTimeout : τ
  headers : Headers := []
  handlesSignals : Bool := true

/-- What happened in a run. -/
inductive Event (τ : Type) where
  | logged (entry : Journal.Entry τ)
  | handlerChanged (installed : Bool) (signal : String)
  | noted (vu : Int) (time : τ) (note : Note)
  | opened (vu : Int) (session : Nat)
  | closed (vu : Int) (session : Nat)
  | began (vu iteration : Int)
  | ended (vu iteration : Int) (time : τ) (fault : Option Fault)
  | requested (vu : Int) (session : Nat)
  | checked (result : CheckResult)
  | dismissed (worker : Nat) (time : τ)

/-- The world of a run. The history has its latest event first; `crew` holds the workers of the
latest run. -/
structure World (τ : Type) where
  lifecycle : Lifecycle := .created
  claimed : Nat := 0
  collector : Collector τ := {}
  transport : Http.Transport τ := {}
  handling : Bool := false
  crew : List Nat := []
  history : List (Event τ) := []

def signals : List String := ["SIGINT", "SIGTERM"]

namespace World

variable {τ : Type}

def record (w : World τ) (event : Event τ) : World τ :=
  { w with history := event :: w.history }

def log (w : World τ) (entry : Journal.Entry τ) : World τ :=
  w.record (.logged entry)

def note (w : World τ) (vu : Int) (time : τ) (notes : List Note) : World τ :=
  notes.foldl (fun w note => w.record (.noted vu time note)) w

/-- Installs or removes the handlers of all signals that a run handles. -/
def changeHandlers (w : World τ) (installed : Bool) : World τ :=
  signals.foldl (fun w signal => w.record (.handlerChanged installed signal))
    { w with handling := installed }

/-- Hands out the next iteration number, unless all are taken. -/
def claim (w : World τ) (iterations : Nat) : Option (Nat × World τ) :=
  if w.claimed < iterations then some (w.claimed, { w with claimed := w.claimed + 1 }) else none

/-- Asks a running run to stop; any other is left as it is. Says whether the stop flag is to be
raised. -/
def requestStop (w : World τ) : Bool × World τ :=
  match w.lifecycle with
  | .running => (true, { w.log .stopRequested with lifecycle := .stopping })
  | _ => (false, w)

/-- A signal makes the run a stopping one, whatever its state was. -/
def signalled (w : World τ) : World τ :=
  { w.log .signalReceived with lifecycle := .stopping }

def entries (w : World τ) : List (Journal.Entry τ) :=
  w.history.reverse.filterMap fun event => match event with
    | .logged entry => some entry
    | _ => none

def notes (w : World τ) : List (Int × τ × Note) :=
  w.history.reverse.filterMap fun event => match event with
    | .noted vu time note => some (vu, time, note)
    | _ => none

def handlerChanges (w : World τ) : List (Bool × String) :=
  w.history.reverse.filterMap fun event => match event with
    | .handlerChanged installed signal => some (installed, signal)
    | _ => none

end World

end Run

end Volley
