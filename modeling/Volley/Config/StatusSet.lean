import Volley.Config.Error
import Volley.Text.Numeral

/-!
# Sets of status codes

The statuses that make a check pass. A set is kept as the ascending list of its codes. It is written
as a list with commas; blanks around the pieces and empty pieces do not count.

## Main definitions

- `StatusSet`: the type, with `insert`, `ofList` and `contains`.
- `StatusSet.parse`: reads a written list, refusing the first piece that is no status code.

## Main result

- `contains_ofList`: a set holds exactly the codes that it was made from.
-/

namespace Volley

abbrev StatusSet := List Int

namespace StatusSet

def insert (code : Int) : StatusSet → StatusSet
  | [] => [code]
  | c :: rest =>
    if code < c then code :: c :: rest
    else if code = c then c :: rest
    else c :: insert code rest

def ofList (codes : List Int) : StatusSet :=
  codes.foldl (fun set code => insert code set) []

def contains (set : StatusSet) (code : Int) : Bool :=
  List.elem code set

theorem mem_insert (code c : Int) (set : StatusSet) :
    c ∈ insert code set ↔ c = code ∨ c ∈ set := by
  induction set with
  | nil => simp [insert]
  | cons first rest ih =>
    unfold insert
    split
    · simp
    · split
      · rename_i same
        simp [same]
      · simp only [List.mem_cons, ih]
        constructor <;> rintro (h | h | h) <;> simp [h]

theorem contains_ofList (codes : List Int) (c : Int) : contains (ofList codes) c ↔ c ∈ codes := by
  -- For any set to begin with, as each code is inserted into the set of those before it.
  have general : ∀ (codes : List Int) (set : StatusSet),
      c ∈ codes.foldl (fun set code => insert code set) set ↔ c ∈ codes ∨ c ∈ set := by
    intro codes
    induction codes with
    | nil => simp
    | cons first rest ih =>
      intro set
      simp only [List.foldl_cons, ih, mem_insert, List.mem_cons]
      grind
  simp [contains, ofList, general]

def pieces (separator : Char) : List Char → List (List Char)
  | [] => [[]]
  | c :: rest =>
    if c = separator then [] :: pieces separator rest
    else match pieces separator rest with
      | [] => [[c]]
      | first :: others => (c :: first) :: others

def readPiece (piece : List Char) : Except ConfigError (Option Int) :=
  let text := Text.trim (String.ofList piece)
  if text = "" then .ok none
  else match Text.Numeral.integer? text with
    | none => .error (.statusNotInteger text)
    | some code =>
      if 100 ≤ code ∧ code ≤ 599 then .ok (some code) else .error (.statusOutOfRange code)

/-- Reads pieces from left to right and stops at the first that is refused. -/
def readPieces : List (List Char) → Except ConfigError (List Int)
  | [] => .ok []
  | piece :: rest =>
    match readPiece piece with
    | .error e => .error e
    | .ok code? =>
      match readPieces rest with
      | .error e => .error e
      | .ok codes => .ok (code?.toList ++ codes)

def parse (text : String) : Except ConfigError StatusSet :=
  match readPieces (pieces ',' text.toList) with
  | .error e => .error e
  -- All pieces were blank.
  | .ok [] => .error (.statusListEmpty text)
  | .ok codes => .ok (ofList codes)

end StatusSet

end Volley
