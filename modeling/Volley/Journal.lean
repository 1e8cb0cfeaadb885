import Volley.Decimal.Fixed
import Volley.Decimal.Shortest
import Volley.Text.Quoted

/-!
# The journal of a run

Every remark that the library makes about its work, with the logger that makes it, its level and its
wording.

## Main definitions

- `Journal.Entry`: the remarks.
- `Journal.Entry.level`, `Journal.Entry.logger`, `Journal.Entry.message`: how one is logged.
- `Journal.Line`: a logged remark.
-/

namespace Volley

namespace Journal

def failureText : String := "Run session failed"

/-- How much a remark matters. -/
inductive Level where
  | debug
  | info
  | warning
  | error
  deriving DecidableEq, Repr

def Level.rank : Level → Int
  | .debug => 10
  | .info => 20
  | .warning => 30
  | .error => 40

def Level.name : Level → String
  | .debug => "DEBUG"
  | .info => "INFO"
  | .warning => "WARNING"
  | .error => "ERROR"

/-- A remark. Times and durations are of type `τ`. -/
inductive Entry (τ : Type) where
  | checkRaised (label : String)
  | scenarioLoaded (name path : String)
  | summarizing (requests checks iterations : Nat)
  | summaryWritten (path : String)
  | usersShutDown (cancelled : Nat)
  | fewerUsers (wanted iterations started : Nat)
  | starting (scenario : String) (vus iterations : Nat) (maxDuration : τ)
  | durationReached (maxDuration : τ) (unclaimed : Int)
  | runFailed
  | completed (duration : τ) (iterations iterationErrors checksPassed checksFailed : Int)
  | stopRequested
  | iterationFailed (iteration vu : Int)
  | signalReceived

namespace Entry

variable {τ : Type}

def level : Entry τ → Level
  | checkRaised _ => .debug
  | scenarioLoaded _ _ => .debug
  | summarizing _ _ _ => .debug
  | summaryWritten _ => .info
  | usersShutDown _ => .debug
  | fewerUsers _ _ _ => .warning
  | starting _ _ _ _ => .info
  | durationReached _ _ => .warning
  | runFailed => .error
  | completed _ _ _ _ _ => .info
  | stopRequested => .info
  | iterationFailed _ _ => .debug
  | signalReceived => .info

def logger : Entry τ → String
  | checkRaised _ => "checkrun.dsl.checks"
  | scenarioLoaded _ _ => "checkrun.dsl.loader"
  | summarizing _ _ _ => "checkrun.metrics.collector"
  | summaryWritten _ => "checkrun.metrics.export"
  | usersShutDown _ => "checkrun.engine.vu_utils"
  | fewerUsers _ _ _ => "checkrun.engine.session"
  | starting _ _ _ _ => "checkrun.engine.session"
  | durationReached _ _ => "checkrun.engine.session"
  | runFailed => "checkrun.engine.session"
  | completed _ _ _ _ _ => "checkrun.engine.session"
  | stopRequested => "checkrun.engine.session"
  | iterationFailed _ _ => "checkrun.engine.session"
  | signalReceived => "checkrun.engine.session"

open Decimal

def message : Entry Float → String
  | checkRaised label => "Check " ++ Text.quoted label ++ " raised, counting as failed"
  | scenarioLoaded name path => "Loaded scenario " ++ Text.quoted name ++ " from " ++ path
  | summarizing requests checks iterations =>
    "Summarizing " ++ digits requests ++ " requests, " ++ digits checks ++ " checks, " ++
      digits iterations ++ " iterations"
  | summaryWritten path => "Summary written to " ++ path
  | usersShutDown cancelled =>
    "All virtual users shut down (" ++ digits cancelled ++ " cancelled)"
  | fewerUsers wanted iterations started =>
    "vus (" ++ digits wanted ++ ") exceeds iterations (" ++ digits iterations ++ "); starting " ++
      digits started ++ " virtual users"
  | starting scenario vus iterations maxDuration =>
    "Starting run: scenario=" ++ scenario ++ ", vus=" ++ digits vus ++ ", iterations=" ++
      digits iterations ++ ", max_duration=" ++ fixed 1 maxDuration ++ "s"
  | durationReached maxDuration unclaimed =>
    "max_duration of " ++ fixed 1 maxDuration ++ "s reached with " ++ integer unclaimed ++
      " iterations unclaimed"
  | runFailed => failureText
  | completed duration iterations iterationErrors checksPassed checksFailed =>
    "Run completed: duration=" ++ fixed 1 duration ++ "s, iterations=" ++ integer iterations ++
      ", iteration_errors=" ++ integer iterationErrors ++ ", checks_passed=" ++
      integer checksPassed ++ ", checks_failed=" ++ integer checksFailed
  | stopRequested => "Graceful shutdown requested"
  | iterationFailed iteration vu =>
    "Iteration " ++ integer iteration ++ " failed for vu " ++ integer vu
  | signalReceived => "Signal received, initiating graceful shutdown"

end Entry

/-- A remark as it is logged. -/
structure Line where
  level : Level
  logger : String
  message : String

def Line.text (line : Line) : String :=
  "[" ++ line.level.name ++ "] " ++ line.logger ++ ": " ++ line.message

def Entry.line (entry : Entry Float) : Line :=
  { level := entry.level, logger := entry.logger, message := entry.message }

end Journal

end Volley
