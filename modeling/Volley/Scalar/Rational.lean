import Mathlib.Algebra.Order.Ring.Rat
import Volley.Scalar

/-!
# Rational times and rates

Over the rational numbers the arithmetic of times and rates is exact.
-/

namespace Volley

instance : Scalar Rat where
  ratio a b := (a : Rat) / (b : Rat)
  reaches _ _ := true
  floor x := x.floor.toNat
  decideLE := inferInstance
  decideLT := inferInstance

end Volley
