import Volley.Text.Printable

/-!
# Quoted text

Text in messages stands between single quotes, or between double quotes when it holds a single quote
and no double one. Inside, a backslash and the enclosing quote are escaped with a backslash, tab,
line feed and carriage return by letter, and every other character that does not print by its code
point.

## Main definitions

- `hex`: a code point with a fixed number of hexadecimal digits.
- `quoted`: text between quotes.
- `quotedList`: a list of quoted texts between brackets.
-/

namespace Volley.Text

def hex : (width : Nat) → Nat → List Char
  | 0, _ => []
  | width + 1, n => hex width (n / 16) ++ [Nat.digitChar (n % 16)]

def quotedChar (quote c : Char) : List Char :=
  if c == quote || c == '\\' then ['\\', c]
  else if c == '\n' then ['\\', 'n']
  else if c == '\r' then ['\\', 'r']
  else if c == '\t' then ['\\', 't']
  else if isPrintable c then [c]
  else if c.toNat < 0x100 then ['\\', 'x'] ++ hex 2 c.toNat
  else if c.toNat < 0x10000 then ['\\', 'u'] ++ hex 4 c.toNat
  else ['\\', 'U'] ++ hex 8 c.toNat

def enclosingQuote (cs : List Char) : Char :=
  if cs.contains '\'' && !cs.contains '"' then '"' else '\''

def quoted (s : String) : String :=
  let cs := s.toList
  let quote := enclosingQuote cs
  String.ofList ([quote] ++ cs.flatMap (quotedChar quote) ++ [quote])

def quotedList (texts : List String) : String :=
  "[" ++ String.intercalate ", " (texts.map quoted) ++ "]"

end Volley.Text
