import Volley.Decimal.Binary64
import Volley.Decimal.Limit
import Volley.Text.Blank
import Volley.Text.Digit

/-!
# Numerals

The two kinds of number that settings are written as. Both may be surrounded by blanks and start
with a sign; their digits may come from any script and may be grouped by single underscores between
digits.

- An integer has 1 to 4300 digits.
- A decimal number has digits, a point and an exponent, with a digit before or after the point, or
  is one of the words `inf`, `infinity` and `nan` in any case. It is rounded to the nearest binary64
  number.

## Main definitions

- `integer?`, `decimal?`: the values of the two kinds of numeral.
-/

namespace Volley.Text.Numeral

/-- A character of a numeral with digits replaced by their values. -/
inductive Symbol where
  | digit (value : Nat)
  | other (c : Char)
  deriving DecidableEq, Repr

def symbol (c : Char) : Symbol :=
  match digitValue? c with
  | some value => .digit value
  | none => .other c

/-- The digits at the front, single underscores between them left out, and what follows. An
underscore that is not followed by a digit ends the run. -/
def takeDigits : List Symbol → List Nat × List Symbol
  | .digit d :: .other '_' :: .digit e :: rest =>
    let (ds, after) := takeDigits (.digit e :: rest)
    (d :: ds, after)
  | .digit d :: rest =>
    let (ds, after) := takeDigits rest
    (d :: ds, after)
  | rest => ([], rest)

/-- The number that digits denote, the most significant first. -/
def ofDigits (ds : List Nat) : Nat :=
  ds.foldl (fun n d => 10 * n + d) 0

/-- Takes a sign off the front; `true` stands for a minus. -/
def takeSign : List Symbol → Bool × List Symbol
  | .other '-' :: rest => (true, rest)
  | .other '+' :: rest => (false, rest)
  | rest => (false, rest)

/-- The symbols of a numeral without the blanks around it. -/
def symbols (s : String) : List Symbol :=
  (trimWith isNumeralBlank s.toList).map symbol

def integer? (s : String) : Option Int :=
  let (negative, body) := takeSign (symbols s)
  match takeDigits body with
  | ([], _) => none
  | (ds, []) =>
    -- Numerals with more digits are not read, whatever they denote.
    if ds.length ≤ Decimal.maxDigits then
      some (if negative then -(ofDigits ds : Int) else (ofDigits ds : Int))
    else none
  | (_, _ :: _) => none

def lower (c : Char) : Char := c.toLower

def spells (word : String) (body : List Symbol) : Bool :=
  body.map (fun s => match s with
    | .digit _ => '0'
    | .other c => lower c) == word.toList

/-- `± mantissa · 10^scale` rounded to binary64. A magnitude far outside the range of binary64 is
settled by its number of digits, so that no huge power is formed. -/
def scaled (negative : Bool) (mantissa : Nat) (scale : Int) : Float :=
  -- Four bits make more than one decimal digit and three bits less.
  let size : Int := (mantissa.log2 : Int) / 4 + scale
  let bound : Int := (mantissa.log2 : Int) / 3 + 1 + scale
  if mantissa = 0 then Decimal.Binary64.nearest negative 0 1
  else if 400 < size then Decimal.Binary64.nearest negative (Nat.pow 2 1024) 1
  else if bound < -400 then Decimal.Binary64.nearest negative 0 1
  else match scale with
    | .ofNat k => Decimal.Binary64.nearest negative (mantissa * Nat.pow 10 k) 1
    | .negSucc k => Decimal.Binary64.nearest negative mantissa (Nat.pow 10 (k + 1))

/-- Reads an exponent: nothing, or `e`, a sign and digits up to the end. -/
def exponent? : List Symbol → Option Int
  | [] => some 0
  | .other c :: rest =>
    if lower c == 'e' then
      -- An exponent may have any number of digits.
      let (negative, body) := takeSign rest
      match takeDigits body with
      | ([], _) => none
      | (ds, []) => some (if negative then -(ofDigits ds : Int) else (ofDigits ds : Int))
      | (_, _ :: _) => none
    else none
  | .digit _ :: _ => none

def unsigned? (negative : Bool) (body : List Symbol) : Option Float :=
  if spells "inf" body || spells "infinity" body then
    some (Decimal.Binary64.nearest negative (Nat.pow 2 1024) 1)
  else if spells "nan" body then some (Float.ofBits 0x7FF8000000000000)
  else
    let (whole, rest) := takeDigits body
    let (places, after) := match rest with
      -- A point may have digits in front of it, behind it, or both.
      | .other '.' :: more => takeDigits more
      | _ => ([], rest)
    if whole.isEmpty && places.isEmpty then none
    -- Every place behind the point takes one off the exponent.
    else (exponent? after).map fun e =>
      scaled negative (ofDigits (whole ++ places)) (e - (places.length : Int))

/-- The value of a decimal number with a sign or without. -/
def ofSymbols? (all : List Symbol) : Option Float :=
  let (negative, body) := takeSign all
  unsigned? negative body

def decimal? (s : String) : Option Float :=
  ofSymbols? (symbols s)

end Volley.Text.Numeral
