/-!
# Paths

A path as its components. Empty and single-dot components do not count; a double dot does. A path
without components is the current folder.

## Main definitions

- `Path.ofText`, `Path.text`: reading and writing.
- `Path.name`, `Path.suffix`, `Path.parent`: the parts of a path.
-/

namespace Volley

/-- A path; a rooted one starts at the root of the file system. -/
structure Path where
  rooted : Bool := false
  parts : List String
  deriving DecidableEq, Repr

namespace Path

def cut : List Char → List (List Char)
  | [] => [[]]
  | c :: rest =>
    if c = '/' then [] :: cut rest
    else match cut rest with
      | [] => [[c]]
      | first :: others => (c :: first) :: others

def components (text : String) : List String :=
  (cut text.toList).map String.ofList

def ofText (text : String) : Path :=
  { rooted := text.toList.head? == some '/'
    parts := (components text).filter fun part => part ≠ "" ∧ part ≠ "." }

def text (p : Path) : String :=
  let joined := String.intercalate "/" p.parts
  if p.rooted then "/" ++ joined
  else if p.parts.isEmpty then "."
  else joined

def name (p : Path) : String :=
  p.parts.getLast?.getD ""

/-- The ending of the name from its last dot, which may be neither its first nor its last character.
-/
def suffix (p : Path) : String :=
  let cs := p.name.toList
  -- Read from the back, the ending comes first.
  let after := cs.reverse.takeWhile (· ≠ '.')
  let before := cs.length - after.length
  if after.isEmpty ∨ before ≤ 1 then ""
  else String.ofList ('.' :: after.reverse)

/-- The most bytes that a component of a path may have. -/
def maxComponentBytes : Nat := 255

def maxBytes : Nat := 4095

def isTooLong (p : Path) : Bool :=
  decide (maxBytes < p.text.utf8ByteSize)

/-- Whether a path has a null character, which no path may have. -/
def hasNull (p : Path) : Bool :=
  p.parts.any fun part => part.toList.contains '\x00'

def parent (p : Path) : Path :=
  { p with parts := p.parts.dropLast }

end Path

end Volley
