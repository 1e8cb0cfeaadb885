import Volley.Decimal.Binary64
import Volley.Decimal.Digits

/-!
# Fixed places

A number written with a fixed number of places after the point, rounded from its exact value; a tie
goes to the even neighbour. A negative number that rounds to zero keeps its sign.
-/

namespace Volley.Decimal

def withPlaces (places n : Nat) : String :=
  if places = 0 then digits n
  else digits (n / Nat.pow 10 places) ++ "." ++ padded places (n % Nat.pow 10 places)

def fixed (places : Nat) (x : Float) : String :=
  match Binary64.ofFloat x with
  | .nan => "nan"
  | .infinite negative => if negative then "-inf" else "inf"
  | .finite negative significand exponent =>
    let (num, den) := Binary64.quotient significand exponent
    let sign := if negative then "-" else ""
    sign ++ withPlaces places (roundHalfEven (num * Nat.pow 10 places) den)

end Volley.Decimal
