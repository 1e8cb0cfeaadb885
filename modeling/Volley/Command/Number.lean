import Volley.Text.Numeral

/-!
# Numbers on the command line

The values of options that ask for a number. They are written in ASCII, with underscores anywhere
but at either end or next to each other.

- A count is positive. It may have a plus sign, zeros in front, which may have underscores among
  them, and a point with nothing but zeros behind it.
- A decimal number has digits with or without a point, and an exponent, or is one of the words
  `inf`, `infinity` and `nan` in any case.

Blanks may surround a count, and a decimal number that has no underscore.

## Main definitions

- `Arguments.count?`, `Arguments.decimal?`: the values of the two kinds.
-/

namespace Volley

namespace Arguments

open Text

def trimmed (s : String) : List Char :=
  trimWith isNumeralBlank s.toList

def hasDoubleUnderscore : List Char → Bool
  | '_' :: '_' :: _ => true
  | _ :: rest => hasDoubleUnderscore rest
  | [] => false

/-- Removes underscores, which may not stand at either end or next to each other. -/
def removeUnderscores? (cs : List Char) : Option (List Char) :=
  if cs.head? = some '_' ∨ cs.getLast? = some '_' ∨ hasDoubleUnderscore cs then none
  else some (cs.filter (· ≠ '_'))

/-- The digits in front of a point, behind which only zeros may stand. -/
def wholePart? (cs : List Char) : Option (List Char) :=
  match cs.takeWhile (· ≠ '.'), cs.dropWhile (· ≠ '.') with
  | whole, [] => some whole
  | whole, _ :: places => if places ≠ [] ∧ places.all (· == '0') then some whole else none

def dropPlus : List Char → List Char
  | '+' :: rest => rest
  | cs => cs

/-- Drops the zeros in front of a number, and the underscores among them. -/
def dropZeros : List Char → List Char
  | '0' :: rest => rest.dropWhile fun c => c == '0' || c == '_'
  | cs => cs

def digitString? (cs : List Char) : Option Nat :=
  if cs ≠ [] ∧ cs.all Char.isDigit ∧ cs.length ≤ Decimal.maxDigits then
    some (cs.foldl (fun n c => 10 * n + (c.toNat - '0'.toNat)) 0)
  else none

def count? (s : String) : Option Nat :=
  ((wholePart? (dropZeros (dropPlus (trimmed s)))).bind removeUnderscores?).bind digitString?

def symbol (c : Char) : Numeral.Symbol :=
  if c.isDigit then .digit (c.toNat - '0'.toNat) else .other c

def decimal? (s : String) : Option Float :=
  if s.toList.contains '_' then
    -- With underscores blanks are not dropped, and so refused.
    (removeUnderscores? s.toList).bind fun cs => Numeral.ofSymbols? (cs.map symbol)
  else Numeral.ofSymbols? ((trimmed s).map symbol)

end Arguments

end Volley
