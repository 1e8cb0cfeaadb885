import Volley.Config.Environment
import Volley.Scenario.Body
import Volley.Scenario.Loader

/-!
# The products scenario as a file

A scenario file that does what the built-in products scenario does, spelled out so that it can be
copied and changed. It takes its configuration from the environment when it is executed, and makes
headers and checks anew in every iteration.

## Main definitions

- `ProductsFile.statements`: the file, for an environment.
- `ProductsFile.body`: its body for a configuration.
-/

namespace Volley

namespace ProductsFile

def path : String := "examples/products_check.py"

/-- The state of the body: what it waits for. -/
inductive Stage where
  | start
  | response
  | verdict
  deriving DecidableEq, Repr

variable {τ : Type}

def respond (config : RequestConfig τ) (stage : Stage) (cue : Cue) : Answer τ Stage :=
  match cue with
  | .began =>
    { move := .get config.url [("Authorization", "Bearer " ++ config.token)] (some "products")
      state := .response }
  | .answered response =>
    { move := .check (.status response.status)
        [(statusCheck, Predicate.statusIn config.accepted)]
      state := .verdict }
  | .faulted fault => { move := .fail fault, state := stage }
  | _ => { move := .finish, state := stage }

def body (config : RequestConfig τ) : Body τ Stage where
  start _ _ := .start
  respond := respond config

/-- The statements of the file: it binds the configuration and declares its scenario, or fails when
the environment has no valid configuration. `pack` makes a body of the configuration. -/
def statements {α : Type} (env : Environment) (pack : RequestConfig Float → α) :
    List (Statement α) :=
  match RequestConfig.load env with
  -- The file fails where it asks for its configuration, before it declares anything.
  | .error e => [.raise (.ordinary "ConfigError" e.message)]
  | .ok config =>
    [.assign "config",
      .declare "products"
        { name := "Products Check", options := { vus := 1, iterations := 50 },
          function := "products", body := pack config }]

end ProductsFile

end Volley
