/-!
# Request metrics

What is recorded about a single request.
-/

namespace Volley

/-- The measurement of one request. `status` is zero when no response came, `latency` is in
milliseconds until the body was read, `error` is the summary of the fault that ended the request. -/
structure Metric (τ : Type) where
  timestamp : τ
  name : String
  method : String
  url : String
  status : Int
  latency : τ
  contentLength : Nat
  error : Option String := none
  vu : Int := 0

end Volley
