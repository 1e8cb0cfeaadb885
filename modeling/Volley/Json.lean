import Volley.Decimal.Limit
import Volley.Decimal.Shortest
import Volley.Text.Quoted

/-!
# JSON values and their text

The values of the JSON format with integers of any size and binary64 numbers, objects in the order
of their entries. Texts are written in ASCII: the quote, the backslash and control characters are
escaped, and so is every other character by its UTF-16 units.

## Main definitions

- `Json`: the values.
- `Json.escape`: a text between quotes.
- `Json.compact`: a value on one line.
- `Json.pretty`: a value with one entry a line, indented by two spaces a level.
- `Json.isWritable`: whether its integers are within the limit of digits.
- `Json.holds`: whether a value counts as true.
-/

namespace Volley

/-- A JSON value. -/
inductive Json where
  | null
  | bool (b : Bool)
  | int (n : Int)
  | float (x : Float)
  | text (s : String)
  | list (items : List Json)
  | object (entries : List (String × Json))
  deriving Inhabited

namespace Json

def escapeUnit (unit : Nat) : List Char :=
  ['\\', 'u'] ++ Text.hex 4 unit

def escapeChar (c : Char) : List Char :=
  let n := c.toNat
  if c == '"' then ['\\', '"']
  else if c == '\\' then ['\\', '\\']
  else if c == '\n' then ['\\', 'n']
  else if c == '\r' then ['\\', 'r']
  else if c == '\t' then ['\\', 't']
  else if n == 0x08 then ['\\', 'b']
  else if n == 0x0C then ['\\', 'f']
  else if 0x20 ≤ n && n < 0x7F then [c]
  else if n < 0x10000 then escapeUnit n
  else
    -- A pair of units for a character that does not fit into one.
    let offset := n - 0x10000
    escapeUnit (0xD800 + offset / 0x400) ++ escapeUnit (0xDC00 + offset % 0x400)

def escape (s : String) : String :=
  String.ofList (['"'] ++ s.toList.flatMap escapeChar ++ ['"'])

/-- A number; the three values that are no finite number have words of their own. -/
def number (x : Float) : String :=
  match Decimal.Binary64.ofFloat x with
  | .nan => "NaN"
  | .infinite negative => if negative then "-Infinity" else "Infinity"
  | .finite _ _ _ => Decimal.Shortest.text x

/-- A line break followed by the indentation of a level. -/
def lineBreak (level : Nat) : String :=
  String.ofList ('\n' :: List.replicate (2 * level) ' ')

mutual

def compact : Json → String
  | null => "null"
  | bool b => if b then "true" else "false"
  | int n => Decimal.integer n
  | float x => number x
  | text s => escape s
  | list items => "[" ++ String.intercalate ", " (compactItems items) ++ "]"
  | object entries => "\x7b" ++ String.intercalate ", " (compactEntries entries) ++ "\x7d"

def compactItems : List Json → List String
  | [] => []
  | item :: rest => compact item :: compactItems rest

def compactEntries : List (String × Json) → List String
  | [] => []
  | (key, value) :: rest => (escape key ++ ": " ++ compact value) :: compactEntries rest

end

mutual

/-- A value with its parts on lines of their own, nested parts indented one level deeper. -/
def prettyAt (level : Nat) : Json → String
  | null => "null"
  | bool b => if b then "true" else "false"
  | int n => Decimal.integer n
  | float x => number x
  | text s => escape s
  | list [] => "[]"
  | list (item :: rest) =>
    let separator := "," ++ lineBreak (level + 1)
    "[" ++ lineBreak (level + 1) ++
      String.intercalate separator (prettyItems (level + 1) (item :: rest)) ++
      lineBreak level ++ "]"
  | object [] => "\x7b\x7d"
  | object (entry :: rest) =>
    let separator := "," ++ lineBreak (level + 1)
    "\x7b" ++ lineBreak (level + 1) ++
      String.intercalate separator (prettyEntries (level + 1) (entry :: rest)) ++
      lineBreak level ++ "\x7d"

def prettyItems (level : Nat) : List Json → List String
  | [] => []
  | item :: rest => prettyAt level item :: prettyItems level rest

def prettyEntries (level : Nat) : List (String × Json) → List String
  | [] => []
  | (key, value) :: rest =>
    (escape key ++ ": " ++ prettyAt level value) :: prettyEntries level rest

end

def pretty (value : Json) : String :=
  prettyAt 0 value

mutual

def isWritable : Json → Bool
  | int n => Decimal.isWritable n
  | list items => areWritable items
  | object entries => haveWritable entries
  | _ => true

/-- Whether all integers of some values can be written. -/
def areWritable : List Json → Bool
  | [] => true
  | item :: rest => isWritable item && areWritable rest

/-- Whether all integers in the values of some entries can be written. -/
def haveWritable : List (String × Json) → Bool
  | [] => true
  | (_, value) :: rest => isWritable value && haveWritable rest

end

/-- Whether a value counts as true: nothing, zero and everything empty does not. -/
def holds : Json → Bool
  | null => false
  | bool b => b
  | int n => n != 0
  | float x => x != 0
  | text s => s != ""
  | list items => !items.isEmpty
  | object entries => !entries.isEmpty

end Json

end Volley
