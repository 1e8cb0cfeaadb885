/-!
# Decimal digits

Natural numbers and integers as decimal text.

## Main definitions

- `digits`, `integer`: a number as text.
- `padded`: a number with zeros in front of it up to a width.
- `digitCount`: how many decimal digits a number has.
-/

namespace Volley.Decimal

def digits (n : Nat) : String :=
  String.ofList (Nat.toDigits 10 n)

/-- How many decimal digits a number has; zero has one. -/
def digitCount (n : Nat) : Nat :=
  (Nat.toDigits 10 n).length

def integer (n : Int) : String :=
  match n with
  | .ofNat k => digits k
  | .negSucc k => "-" ++ digits (k + 1)

/-- A number padded on the left with zeros to a least width. -/
def padded (width n : Nat) : String :=
  let text := Nat.toDigits 10 n
  String.ofList (List.replicate (width - text.length) '0' ++ text)

end Volley.Decimal
