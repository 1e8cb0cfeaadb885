import Volley.Assoc
import Volley.Config.Settings

/-!
# Settings from the environment

Settings are read from environment variables and then from the command line, which wins. An override
that is absent, or an empty text, leaves the setting of the environment.

## Main definitions

- `Environment`: variables and their values.
- `RequestConfig.load`, `RunOptions.load`: settings from variables.
- `Overrides`, `RequestConfig.loadWith`: settings from variables and command line.
- `RunOptions.overridden`: options of a scenario replaced one by one.
-/

namespace Volley

abbrev Environment := Assoc String String

namespace Environment

def names : List String :=
  ["CHECKRUN_URL", "CHECKRUN_TOKEN", "CHECKRUN_ACCEPTED_STATUSES", "CHECKRUN_TIMEOUT",
    "CHECKRUN_VUS", "CHECKRUN_ITERATIONS", "CHECKRUN_MAX_DURATION"]

def integer (env : Environment) (name : String) (default : Int) : Except ConfigError Int :=
  match env.find? name with
  | none => .ok default
  | some raw =>
    match Text.Numeral.integer? raw with
    | some n => .ok n
    | none => .error (.variableNotInteger name raw)

def decimal (env : Environment) (name : String) (default : Float) : Except ConfigError Float :=
  match env.find? name with
  | none => .ok default
  | some raw =>
    match Text.Numeral.decimal? raw with
    | some x => .ok x
    | none => .error (.variableNotNumber name raw)

end Environment

namespace RequestConfig

def loadAccepted (env : Environment) : Except ConfigError StatusSet :=
  match env.find? "CHECKRUN_ACCEPTED_STATUSES" with
  | none => .ok defaultAccepted
  | some text => StatusSet.parse text

def load (env : Environment) : Except ConfigError (RequestConfig Float) := do
  let accepted ← loadAccepted env
  let timeout ← env.decimal "CHECKRUN_TIMEOUT" 60
  make ((env.find? "CHECKRUN_URL").getD defaultUrl)
    ((env.find? "CHECKRUN_TOKEN").getD defaultToken) accepted timeout

end RequestConfig

/-- Request settings given on the command line. -/
structure Overrides where
  url : Option String := none
  token : Option String := none
  accept : Option String := none
  timeout : Option Float := none

def orElseText (given : Option String) (otherwise : String) : String :=
  match given with
  | none => otherwise
  | some text => if text = "" then otherwise else text

namespace RequestConfig

/-- The request configuration of the environment with overrides. The environment has to be valid by
itself. -/
def loadWith (env : Environment) (given : Overrides) :
    Except ConfigError (RequestConfig Float) := do
  -- An environment that is refused is refused also if an override would replace the mistake.
  let base ← load env
  let accepted ← match given.accept with
    | none => .ok base.accepted
    -- An empty text counts as no override.
    | some text => if text = "" then .ok base.accepted else StatusSet.parse text
  make (orElseText given.url base.url) (orElseText given.token base.token) accepted
    (given.timeout.getD base.timeout)

end RequestConfig

namespace RunOptions

/-- The run options of the environment: fifty iterations by one virtual user unless set. -/
def load (env : Environment) : Except ConfigError (RunOptions Float) := do
  let vus ← env.integer "CHECKRUN_VUS" 1
  let iterations ← env.integer "CHECKRUN_ITERATIONS" 50
  let maxDuration ← env.decimal "CHECKRUN_MAX_DURATION" defaultMaxDuration
  make vus iterations maxDuration

def overridden (base : RunOptions Float) (vus iterations : Option Int)
    (maxDuration : Option Float) : Except ConfigError (RunOptions Float) :=
  make (vus.getD base.vus) (iterations.getD base.iterations) (maxDuration.getD base.maxDuration)

end RunOptions

end Volley
