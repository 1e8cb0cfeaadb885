import Volley.Scenario.Products
import Volley.Scenario.ProductsFile
import Volley.Scenario.Script

/-!
# Routines

The bodies that a command can be asked to run, as data: a script, or one of the two products bodies.

## Main definitions

- `Routine`, `Routine.body`.
- `Routine.builtIn`: the built-in products scenario.
-/

namespace Volley

/-- A body as data. -/
inductive Routine (τ : Type) where
  | script (script : Script τ)
  | products (config : RequestConfig τ)
  | productsFile (config : RequestConfig τ)

namespace Routine

/-- The state of a routine: that of the body that it stands for. -/
inductive State (τ : Type) where
  | script (state : Script.State τ)
  | products (stage : Products.Stage)
  | productsFile (stage : ProductsFile.Stage)

def lift {τ β γ : Type} (into : β → γ) (answer : Answer τ β) : Answer τ γ :=
  { notes := answer.notes, move := answer.move, state := into answer.state }

variable {τ : Type} [Zero τ]

def start (routine : Routine τ) (vu iteration : Int) : State τ :=
  match routine with
  | .script plan => .script (plan.body.start vu iteration)
  | .products config => .products ((Products.body config).start vu iteration)
  | .productsFile config => .productsFile ((ProductsFile.body config).start vu iteration)

/-- The answer of a routine to a cue. A state of another routine ends the iteration. -/
def respond (routine : Routine τ) (state : State τ) (cue : Cue) : Answer τ (State τ) :=
  match routine, state with
  | .script plan, .script s => lift .script (plan.body.respond s cue)
  | .products config, .products s => lift .products ((Products.body config).respond s cue)
  | .productsFile config, .productsFile s =>
    lift .productsFile ((ProductsFile.body config).respond s cue)
  -- No run comes here, as every state of a run comes from its own routine.
  | _, other => { move := .finish, state := other }

def body (routine : Routine τ) : Body τ (State τ) where
  start := routine.start
  respond := routine.respond

def builtIn (config : RequestConfig Float) (options : RunOptions Float) :
    Scenario (Routine Float) :=
  { name := "products", body := .products config, options }

end Routine

end Volley
