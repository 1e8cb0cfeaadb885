import Volley.Decimal.Digits

/-!
# Limits of numbers

Integers are of any size, but two things have a limit: a quotient of integers has to be in the range
of the number type that it is rounded to, and an integer that is written has at most 4300 digits.

## Main definitions

- `NumberError`: which limit was passed, with its message.
- `written`: an integer as text, within the limit of digits.
-/

namespace Volley.Decimal

/-- Which limit a number has passed. -/
inductive NumberError where
  | quotientTooLarge
  | tooManyDigits
  deriving DecidableEq, Repr

/-- The most digits that an integer may be read or written with. -/
def maxDigits : Nat := 4300

def NumberError.message : NumberError → String
  | quotientTooLarge => "integer division result too large for a float"
  | tooManyDigits =>
    "Exceeds the limit (" ++ digits maxDigits ++ " digits) for integer string conversion; " ++
      "use sys.set_int_max_str_digits() to increase the limit"

/-- Whether an integer can be written: its sign does not count. -/
def isWritable (n : Int) : Bool :=
  decide (digitCount n.natAbs ≤ maxDigits)

def written (n : Int) : Except NumberError String :=
  if isWritable n then .ok (integer n) else .error .tooManyDigits

end Volley.Decimal
