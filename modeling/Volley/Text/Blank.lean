/-!
# Blank characters

Two classes of blank characters. Text is trimmed of every character that Unicode calls white space
(bidirectional class WS, B or S, or category Zs); a numeral may be surrounded by the same characters
except the four information separators U+001C to U+001F.

## Main definitions

- `isBlank`, `isNumeralBlank`: the two classes.
- `trimWith`: a list without its leading and trailing members of a class.
- `trim`: text without surrounding blanks.
-/

namespace Volley.Text

def isBlank (c : Char) : Bool :=
  let n := c.toNat
  (0x09 ≤ n && n ≤ 0x0D) || (0x1C ≤ n && n ≤ 0x20) || n == 0x85 || n == 0xA0 || n == 0x1680 ||
    (0x2000 ≤ n && n ≤ 0x200A) || n == 0x2028 || n == 0x2029 || n == 0x202F || n == 0x205F ||
    n == 0x3000

/-- White space that may surround a numeral: the information separators may not. -/
def isNumeralBlank (c : Char) : Bool :=
  isBlank c && !(0x1C ≤ c.toNat && c.toNat ≤ 0x1F)

/-- Drops the leading and the trailing characters of a class. -/
def trimWith (blank : Char → Bool) (cs : List Char) : List Char :=
  ((cs.dropWhile blank).reverse.dropWhile blank).reverse

def trim (s : String) : String :=
  String.ofList (trimWith isBlank s.toList)

end Volley.Text
