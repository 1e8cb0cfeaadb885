import Volley.Decimal.Binary64
import Volley.Decimal.Limit

/-!
# The arithmetic of times and rates

Times, latencies and rates are numbers of one type. A run measures with binary64 numbers; the same
definitions over the rationals compute exactly.

## Main definitions

- `Scalar`: the operations that the library asks of a number type.
- The instance for `Float`.
-/

namespace Volley

/-- A number type for times and rates. `ratio` is the quotient of two integers, rounded once where
the type rounds; `reaches` tells whether it is in the range of the type, and `floor` is the whole
part of a number that is not negative. -/
class Scalar (τ : Type) extends Zero τ, Add τ, Sub τ, Mul τ, Div τ, LE τ, LT τ where
  ratio : Int → Int → τ
  reaches : Int → Int → Bool
  floor : τ → Nat
  decideLE : DecidableLE τ
  decideLT : DecidableLT τ

namespace Scalar

variable {τ : Type} [Scalar τ]

instance (priority := low) : DecidableLE τ := decideLE

instance (priority := low) : DecidableLT τ := decideLT

def ofNat (n : Nat) : τ :=
  ratio n 1

/-- The part that one integer is of another: zero of nothing, and else a quotient in the range of
the type. -/
def share (part whole : Int) : Except Decimal.NumberError τ :=
  if whole = 0 then .ok 0
  else if reaches τ part whole then .ok (ratio part whole)
  else .error .quotientTooLarge

/-- Whether a scalar is no number at all: it is not even at most itself. -/
def isUndefined (x : τ) : Bool :=
  !decide (x ≤ x)

end Scalar

instance : Scalar Float where
  ratio := Decimal.Binary64.ratio
  reaches := Decimal.Binary64.reaches
  floor x := x.floor.toUInt64.toNat
  decideLE := inferInstance
  decideLT := inferInstance

end Volley
