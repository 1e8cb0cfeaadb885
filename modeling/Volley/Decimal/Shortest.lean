import Volley.Decimal.Binary64
import Volley.Decimal.Digits

/-!
# The shortest decimal that reads back

A number is written with the fewest decimal digits that still denote it: the first of the grids with
1, 2, … 17 significant digits that has a point which rounds to the number. Of two such points on
that grid the nearer one is taken.

## Main definitions

- `Shortest.decimal`: the digits and the decimal exponent of a positive magnitude.
- `Shortest.text`: the written form. Exponents from -4 to 15 are written positionally with at least
  one place, all others as `1e-05` or `1.5e+22`.
-/

namespace Volley.Decimal

namespace Shortest

/-- `num / den · 10^shift` as a quotient of natural numbers. -/
def shiftUp (num den : Nat) : (shift : Int) → Nat × Nat
  | .ofNat k => (num * Nat.pow 10 k, den)
  | .negSucc k => (num, den * Nat.pow 10 (k + 1))

/-- The exponent of the leading decimal digit: `10^p ≤ num / den < 10^(p+1)`. -/
def leadingExponent (num den : Nat) : Int :=
  if den ≤ num then (digitCount (num / den) : Int) - 1
  -- A quotient below one is scaled up until it is above.
  else
    let (up, _) := shiftUp num den (digitCount den)
    (digitCount (up / den) : Int) - 1 - (digitCount den : Int)

/-- Whether the decimal `point · 10^(-shift)` rounds to the number with the given bits. -/
def readsBack (bits point : Nat) (shift : Int) : Bool :=
  let (num, den) := shiftUp point 1 (-shift)
  Binary64.nearestBits num den == bits

/-- The point of the grid of `count` significant digits that denotes the number, if there is one:
the nearer of the two neighbours of `num / den`, the upper one only if the lower does not do. -/
def onGrid? (bits num den : Nat) (leading : Int) (count : Nat) : Option (Nat × Int) :=
  let shift : Int := (count : Int) - 1 - leading
  let (up, down) := shiftUp num den shift
  let floor := up / down
  let lower := readsBack bits floor shift
  let upper := readsBack bits (floor + 1) shift
  let point? :=
    -- Both neighbours read back, so the nearer one is taken.
    if lower && upper then some (roundHalfEven up down)
    else if lower then some floor
    else if upper then some (floor + 1)
    else none
  point?.map fun point => (point, -shift)

/-- Digits and exponent of the shortest decimal for the magnitude `significand · 2^exponent`. -/
def decimal (significand : Nat) (exponent : Int) : Nat × Int :=
  let (num, den) := Binary64.quotient significand exponent
  let bits := Binary64.nearestBits num den
  let leading := leadingExponent num den
  -- Seventeen digits tell any two numbers apart.
  let found := (List.range 17).findSome? fun n => onGrid? bits num den leading (n + 1)
  found.getD (num / den, 0)

def dropTrailingZeros (cs : List Char) : List Char :=
  (cs.reverse.dropWhile (· == '0')).reverse

/-- Writes digits with the leading one at `10^leading` positionally, with at least one place. -/
def positional (ds : List Char) (leading : Int) : String :=
  match leading with
  | .ofNat k =>
    let whole := ds.take (k + 1)
    let places := ds.drop (k + 1)
    String.ofList (whole ++ List.replicate (k + 1 - whole.length) '0' ++ ['.'] ++
      (if places.isEmpty then ['0'] else places))
  | .negSucc k =>
    String.ofList (['0', '.'] ++ List.replicate k '0' ++ ds)

/-- Writes digits in exponent form, the exponent with a sign and at least two digits. -/
def scientific (ds : List Char) (leading : Int) : String :=
  let tail := ds.drop 1
  let mantissa := ds.take 1 ++ (if tail.isEmpty then [] else '.' :: tail)
  let sign := if leading < 0 then "-" else "+"
  String.ofList mantissa ++ "e" ++ sign ++ padded 2 leading.natAbs

def magnitude (significand : Nat) (exponent : Int) : String :=
  let (point, scale) := decimal significand exponent
  let all := Nat.toDigits 10 point
  let leading : Int := (all.length : Int) - 1 + scale
  let ds := dropTrailingZeros all
  if -4 ≤ leading ∧ leading < 16 then positional ds leading else scientific ds leading

def text (x : Float) : String :=
  match Binary64.ofFloat x with
  | .nan => "nan"
  | .infinite negative => if negative then "-inf" else "inf"
  | .finite negative significand exponent =>
    let sign := if negative then "-" else ""
    sign ++ (if significand = 0 then "0.0" else magnitude significand exponent)

end Shortest

end Volley.Decimal
