import Volley.Console

/-!
# Console events as plain lines

What a terminal without styles shows of an event: markup without its tags, a panel as its title and
its text, a table as its title and one line a row.

## Main definitions

- `Console.unstyled`: markup without its tags.
- `Console.Event.plainLines`: the lines of an event.
-/

namespace Volley

namespace Console

/-- Whether a character may stand in the name of a style. -/
def isTagChar (c : Char) : Bool :=
  c.isLower || c == '/'

/-- The text after a tag, if one starts here: a name of a style and a closing bracket. -/
def afterTag? (cs : List Char) : Option (List Char) :=
  match cs.takeWhile isTagChar, cs.dropWhile isTagChar with
  | _ :: _, ']' :: rest => some rest
  | _, _ => none

/-- Drops the tags of a text; `fuel` bounds its length. -/
def dropTags : (fuel : Nat) → List Char → List Char
  | 0, cs => cs
  | _ + 1, [] => []
  | fuel + 1, c :: rest =>
    match if c = '[' then afterTag? rest else none with
    | some after => dropTags fuel after
    | none => c :: dropTags fuel rest

def unstyled (markup : String) : String :=
  String.ofList (dropTags markup.length markup.toList)

/-- The lines that a terminal without styles shows of an event. -/
def Event.plainLines : Event → List String
  | .text markup => [unstyled markup]
  | .status shown => [shown]
  | .panel title _ markup => [title, unstyled markup]
  | .table title columns rows =>
    let line (cells : List String) : String := String.intercalate "  " (cells.map unstyled)
    title :: line (columns.map Prod.fst) :: rows.map line

end Console

end Volley
