import Volley.Decimal.Rounding

/-!
# Binary64 numbers as exact quantities

A finite binary64 number is `± m · 2^e` with a natural number `m < 2^53` and an exponent of at least
`-1074`. Decoding reads these fields off the bits; encoding rounds an exact quotient to the nearest
binary64 number, a tie going to the even one and a quotient of `2^1024` and above to infinity.

## Main definitions

- `Binary64`: what the bits of a number mean.
- `Binary64.ofFloat`, `Binary64.nearest`: decoding and encoding.
- `Binary64.ratio`: the quotient of two integers, rounded once; `Binary64.reaches` tells whether it
  is finite.
-/

namespace Volley.Decimal

/-- The meaning of the 64 bits of a number. -/
inductive Binary64 where
  | nan
  | infinite (negative : Bool)
  | finite (negative : Bool) (significand : Nat) (exponent : Int)
  deriving DecidableEq, Repr

namespace Binary64

/-- Reads sign, exponent and significand. Subnormal numbers share the least exponent. -/
def ofBits (bits : Nat) : Binary64 :=
  let negative := decide (Nat.pow 2 63 ≤ bits)
  let biased := bits / Nat.pow 2 52 % Nat.pow 2 11
  let fraction := bits % Nat.pow 2 52
  if biased = 2047 then (if fraction = 0 then .infinite negative else .nan)
  else if biased = 0 then .finite negative fraction (-1074)
  -- A normal significand has a leading bit that is not stored.
  else .finite negative (Nat.pow 2 52 + fraction) (Int.ofNat biased - 1075)

def ofFloat (x : Float) : Binary64 :=
  ofBits x.toBits.toNat

/-- A finite magnitude as a quotient of natural numbers. -/
def quotient (significand : Nat) (exponent : Int) : Nat × Nat :=
  match exponent with
  | .ofNat e => (significand * Nat.pow 2 e, 1)
  | .negSucc e => (significand, Nat.pow 2 (e + 1))

/-- `num / (den · 2^e)` as a quotient of natural numbers. -/
def scaleDown (num den : Nat) (exponent : Int) : Nat × Nat :=
  match exponent with
  | .ofNat e => (num, den * Nat.pow 2 e)
  | .negSucc e => (num * Nat.pow 2 (e + 1), den)

/-- The bits of the number nearest to a positive quotient. With `e` the exponent at which the
significand has 53 bits, or the least one, the bits are `(e + 1074) · 2^52` plus the significand:
the leading bit of a normal significand and a carry out of rounding both move into the exponent. -/
def nearestBits (num den : Nat) : Nat :=
  if num = 0 ∨ den = 0 then 0
  else
    let guess : Int := (num.log2 : Int) - (den.log2 : Int) - 52
    let (scaledNum, scaledDen) := scaleDown num den guess
    -- The guess is right or one too high, as logarithms are rounded down.
    let fitted := if scaledNum / scaledDen < Nat.pow 2 52 then guess - 1 else guess
    let exponent := max fitted (-1074)
    let (finalNum, finalDen) := scaleDown num den exponent
    let bits := (exponent + 1074).toNat * Nat.pow 2 52 + roundHalfEven finalNum finalDen
    -- From here on the bits are those of infinity.
    min bits (2047 * Nat.pow 2 52)

def nearest (negative : Bool) (num den : Nat) : Float :=
  Float.ofBits (UInt64.ofNat ((if negative then Nat.pow 2 63 else 0) + nearestBits num den))

/-- The quotient of two integers, rounded once. Its sign is minus when exactly one of the two is
negative, also where it rounds to zero. -/
def ratio (num den : Int) : Float :=
  nearest (decide (num < 0) != decide (den < 0)) num.natAbs den.natAbs

/-- Whether the quotient of two integers rounds to a finite number. -/
def reaches (num den : Int) : Bool :=
  decide (nearestBits num.natAbs den.natAbs < 2047 * Nat.pow 2 52)

end Binary64

end Volley.Decimal
