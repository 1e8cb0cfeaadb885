import Volley.Config.StatusSet
import Volley.Scalar

/-!
# Settings of a run

What is requested on every iteration, and how many virtual users share how many iterations for how
long. Both are built by a function that refuses settings out of range, the first of them that it
meets.

## Main definitions

- `RequestConfig`, `RequestConfig.make`, `RequestConfig.default`.
- `RunOptions`, `RunOptions.make`, `RunOptions.default`.
-/

namespace Volley

/-- What every iteration requests: a URL with a bearer token, the statuses that pass, and the total
timeout of a request in seconds. -/
structure RequestConfig (τ : Type) where
  url : String
  token : String
  accepted : StatusSet
  timeout : τ

/-- How a scenario runs: virtual users, the iterations that they share, and the longest time that
the run may take in seconds. -/
structure RunOptions (τ : Type) where
  vus : Nat
  iterations : Nat
  maxDuration : τ

namespace RequestConfig

def defaultUrl : String := "http://localhost:8080/products"

/-- A credential for the products endpoint. It is sent as it stands and never decoded. -/
def defaultToken : String :=
  "eyJhbGciOiJIUzI1NiIsInR5cCI6IkpXVCJ9." ++
    "eyJ1c2VyX2lkIjoxLCJlbWFpbCI6ImFobWFkQGV4YW1wbGUu" ++
    "Y29tIiwicm9sZSI6InVzZXIiLCJleHAiOjE3NjcyMzUyNDh9." ++
    "dSDZKsGeE0YPfDgyQzh-q8Md_HSwSLuqI4lnM8yRZVA"

def defaultAccepted : StatusSet := [200, 500, 503]

def isHttp (url : String) : Bool :=
  "http://".toList.isPrefixOf url.toList || "https://".toList.isPrefixOf url.toList

def make (url token : String) (accepted : StatusSet) (timeout : Float) :
    Except ConfigError (RequestConfig Float) :=
  if !isHttp url then .error (.urlNotHttp url)
  else if token = "" then .error .tokenEmpty
  else if accepted.isEmpty then .error .noAcceptedStatus
  -- A timeout that is no number is not at most zero.
  else if timeout ≤ 0 then .error (.timeoutNotPositive timeout)
  else .ok { url, token, accepted, timeout }

def default : RequestConfig Float :=
  { url := defaultUrl, token := defaultToken, accepted := defaultAccepted, timeout := 60 }

end RequestConfig

namespace RunOptions

def make (vus iterations : Int) (maxDuration : Float) : Except ConfigError (RunOptions Float) :=
  if vus < 1 then .error (.vusBelowOne vus)
  else if iterations < 1 then .error (.iterationsBelowOne iterations)
  else if maxDuration ≤ 0 then .error (.maxDurationNotPositive maxDuration)
  else .ok { vus := vus.toNat, iterations := iterations.toNat, maxDuration }

/-- The longest time that a run takes unless told otherwise: ten minutes. -/
def defaultMaxDuration : Float := 600

def default : RunOptions Float :=
  { vus := 1, iterations := 1, maxDuration := defaultMaxDuration }

/-- One virtual user and fifty iterations, the options of the products scenario. -/
def products : RunOptions Float :=
  { vus := 1, iterations := 50, maxDuration := defaultMaxDuration }

end RunOptions

end Volley
