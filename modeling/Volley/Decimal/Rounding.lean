/-!
# Rounding a quotient

## Main definitions

- `roundHalfEven`: the integer nearest to a quotient, a tie going to the even neighbour.
-/

namespace Volley.Decimal

/-- The integer nearest to `num / den`; of two equally near ones, the even one. -/
def roundHalfEven (num den : Nat) : Nat :=
  let floor := num / den
  let twice := 2 * (num % den)
  if twice < den then floor
  else if den < twice then floor + 1
  else if floor % 2 = 0 then floor
  else floor + 1

end Volley.Decimal
