import Volley.Decimal.Shortest
import Volley.Text.Quoted

/-!
# Errors of the configuration

Every way in which settings can be refused, and the message that says so.
-/

namespace Volley

/-- Why a setting was refused. -/
inductive ConfigError where
  | urlNotHttp (url : String)
  | tokenEmpty
  | noAcceptedStatus
  | timeoutNotPositive (timeout : Float)
  | vusBelowOne (vus : Int)
  | iterationsBelowOne (iterations : Int)
  | maxDurationNotPositive (maxDuration : Float)
  | statusNotInteger (piece : String)
  | statusOutOfRange (code : Int)
  | statusListEmpty (text : String)
  | variableNotInteger (name raw : String)
  | variableNotNumber (name raw : String)

namespace ConfigError

open Text Decimal

def message : ConfigError → String
  | urlNotHttp url => "url must be an http(s) URL, got: " ++ quoted url
  | tokenEmpty => "token must not be empty"
  | noAcceptedStatus => "accepted_statuses must not be empty"
  | timeoutNotPositive timeout => "timeout must be positive, got: " ++ Shortest.text timeout
  | vusBelowOne vus => "vus must be >= 1, got: " ++ integer vus
  | iterationsBelowOne iterations => "iterations must be >= 1, got: " ++ integer iterations
  | maxDurationNotPositive maxDuration =>
    "max_duration must be positive, got: " ++ Shortest.text maxDuration
  | statusNotInteger piece => "Status code must be an integer, got: " ++ quoted piece
  | statusOutOfRange code => "Status code must be between 100 and 599, got: " ++ integer code
  | statusListEmpty text => "Accepted status set must not be empty, got: " ++ quoted text
  | variableNotInteger name raw => name ++ " must be an integer, got: " ++ quoted raw
  | variableNotNumber name raw => name ++ " must be a number, got: " ++ quoted raw

end ConfigError

end Volley
