import Volley.Config.Settings
import Volley.Scenario.Body

/-!
# The products scenario

Every iteration requests the configured URL once, with the bearer token, and checks that the status
of the response is one of the accepted ones. A request that fails ends the iteration by its fault.

## Main definitions

- `Products.body`: the body for a request configuration.
- `Products.Stage`: its states.
-/

namespace Volley

namespace Products

/-- How far an iteration has come. -/
inductive Stage where
  | begun
  | requested
  | checked
  deriving DecidableEq, Repr

def authorization (token : String) : Headers :=
  [("Authorization", "Bearer " ++ token)]

def metricName : String := "products"

variable {τ : Type}

/-- Answers a cue at a stage, with headers and checks made beforehand. -/
def respond (url : String) (headers : Headers) (checks : Assoc String (Predicate Subject))
    (stage : Stage) (cue : Cue) : Answer τ Stage :=
  match cue with
  | .began => { move := .get url headers (some metricName), state := .requested }
  | .answered response => { move := .check (.status response.status) checks, state := .checked }
  | .faulted fault => { move := .fail fault, state := stage }
  | _ => { move := .finish, state := stage }

def body (config : RequestConfig τ) : Body τ Stage :=
  let headers := authorization config.token
  let checks := [(statusCheck, Predicate.statusIn config.accepted)]
  { start := fun _ _ => .begun, respond := respond config.url headers checks }

end Products

end Volley
