import Volley.Config.Error
import Volley.Decimal.Digits

/-!
# Errors of scenarios

Why a scenario cannot be defined, registered or loaded, and the message that says so.
-/

namespace Volley

/-- Why a scenario was refused. -/
inductive ScenarioError where
  /-- The body cannot wait, so it cannot run beside others. -/
  | bodyCannotWait (function : String)
  | alreadyRegistered (name : String)
  | fileNotFound (path : String)
  | notScenarioFile (path : String)
  | executionFailed (path reason : String)
  | noScenario (path : String)
  | notInFile (name path : String) (available : List String)
  | ambiguous (path : String) (available : List String)
  deriving DecidableEq, Repr

namespace ScenarioError

open Text

def message : ScenarioError → String
  | bodyCannotWait function => "Scenario body " ++ function ++ " must be an async function"
  | alreadyRegistered name => "Scenario " ++ quoted name ++ " is already registered"
  | fileNotFound path => "Scenario file not found: " ++ path
  | notScenarioFile path => "Scenario file must be a .py file, got: " ++ path
  | executionFailed path reason => "Failed to import scenario file " ++ path ++ ": " ++ reason
  | noScenario path => "No @scenario-decorated function found in " ++ path
  | notInFile name path available =>
    "Scenario " ++ quoted name ++ " not found in " ++ path ++ "; available: " ++
      quotedList available
  | ambiguous path available =>
    path ++ " defines " ++ Decimal.digits available.length ++ " scenarios " ++
      quotedList available ++ "; choose one with --scenario"

end ScenarioError

/-- Why a definition was refused: its options, its body or its name. -/
inductive DefinitionError where
  | config (error : ConfigError)
  | scenario (error : ScenarioError)

def DefinitionError.message : DefinitionError → String
  | config error => error.message
  | scenario error => error.message

end Volley
