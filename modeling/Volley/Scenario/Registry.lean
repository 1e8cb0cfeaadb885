import Volley.Assoc
import Volley.Config.Settings
import Volley.Scenario.Error

/-!
# Scenarios and their registry

A scenario is a named body with options. The registry keeps scenarios by name in order of
registration and takes no two of one name. Declaring a scenario checks its options first, then its
body, then its name, and registers it only when all is well.

## Main definitions

- `Scenario`, `Declaration`.
- `Registry`, with `register`, `declare`, `get?`, `all` and `size`.
-/

namespace Volley

/-- A scenario with a body of type `α`. -/
structure Scenario (α : Type) where
  name : String
  body : α
  options : RunOptions Float

/-- Options as they are written in a declaration. -/
structure DeclaredOptions where
  vus : Int := 1
  iterations : Int := 1
  maxDuration : Float := RunOptions.defaultMaxDuration

/-- The options that are declared, if they are in range. -/
def DeclaredOptions.make (o : DeclaredOptions) : Except ConfigError (RunOptions Float) :=
  RunOptions.make o.vus o.iterations o.maxDuration

/-- A scenario as it is declared: its function must be one that can wait. -/
structure Declaration (α : Type) where
  name : String
  options : DeclaredOptions := {}
  function : String := "body"
  canWait : Bool := true
  body : α

/-- Scenarios by name, in order of registration. -/
structure Registry (α : Type) where
  scenarios : Assoc String (Scenario α) := []

namespace Registry

variable {α : Type}

def get? (r : Registry α) (name : String) : Option (Scenario α) :=
  r.scenarios.find? name

def all (r : Registry α) : List (Scenario α) :=
  r.scenarios.values

def size (r : Registry α) : Nat :=
  r.scenarios.length

def empty : Registry α := {}

/-- Registers a scenario under its name, which must be new. -/
def register (r : Registry α) (s : Scenario α) : Except ScenarioError (Registry α) :=
  if (r.get? s.name).isSome then .error (.alreadyRegistered s.name)
  else .ok { scenarios := r.scenarios.set s.name s }

def declare (r : Registry α) (d : Declaration α) :
    Except DefinitionError (Scenario α × Registry α) :=
  -- In this order: a mistake in the options is reported before one in the body or the name.
  match d.options.make with
  | .error e => .error (.config e)
  | .ok options =>
    if !d.canWait then .error (.scenario (.bodyCannotWait d.function))
    else
      let scenario : Scenario α := { name := d.name, body := d.body, options }
      match r.register scenario with
      | .error e => .error (.scenario e)
      | .ok r' => .ok (scenario, r')

end Registry

end Volley
