import Mathlib.Data.List.Forall2
import Volley.Assoc
import Volley.Proofs.Json.Number

/-!
# Reading JSON

A reader takes the tokens of a text one after the other and keeps a stack of the lists and objects
that it is inside of. An object is read as a map: of two entries for a key the later one counts. The
text of a value is read as that value.

## Main definitions

- `Json.Reader`: a reader, with what it expects.
- `Json.Reader.step`: takes one token.
- `Json.read`: the value of a text.
- `Json.Readable`: a value whose text is one it can be read from: its numbers are, and no object has
  two entries for a key.

## Main results

- `lexes_prettyAt`: an indented text consists of the tokens of its value.
- `run_tokens`: a reader that expects a value takes the tokens of one.
- `read_pretty`: the indented text of a value is read as that value.
-/

namespace Volley

namespace Json

/-! ### The reader -/

/-- What a value belongs to: a list after other items, or an object after other entries and a
key. -/
inductive Frame where
  | item (items : List Json)
  | entry (entries : List (String × Json)) (key : String)

/-- A reader, by what it expects: a value; a value or the end of a list that has just begun; a key
or the end of an object that has just begun; what follows an item, a key or an entry; or nothing
more. -/
inductive Reader where
  | value (stack : List Frame)
  | firstItem (stack : List Frame)
  | afterItem (items : List Json) (stack : List Frame)
  | firstKey (stack : List Frame)
  | nextKey (entries : List (String × Json)) (stack : List Frame)
  | afterKey (entries : List (String × Json)) (key : String) (stack : List Frame)
  | afterEntry (entries : List (String × Json)) (stack : List Frame)
  | done (value : Json)

namespace Reader

/-- Puts a value that has been read where it belongs. -/
def deliver (value : Json) : List Frame → Reader
  | [] => .done value
  | .item items :: stack => .afterItem (items ++ [value]) stack
  | .entry entries key :: stack => .afterEntry (entries ++ [(key, value)]) stack

variable (decode : String → Option Float)

/-- Takes a token where a value is expected. -/
def start (stack : List Frame) : Token → Option Reader
  | .openList => some (.firstItem stack)
  | .openObject => some (.firstKey stack)
  | .text s => some (deliver (.text s) stack)
  | .word cs => (scalar? decode cs).map fun value => deliver value stack
  | _ => none

/-- Takes a token. -/
def step : Reader → Token → Option Reader
  | .value stack, token => start decode stack token
  | .firstItem stack, .closeList => some (deliver (.list []) stack)
  | .firstItem stack, token => start decode (.item [] :: stack) token
  | .afterItem items stack, .comma => some (.value (.item items :: stack))
  | .afterItem items stack, .closeList => some (deliver (.list items) stack)
  | .firstKey stack, .closeObject => some (deliver (.object []) stack)
  | .firstKey stack, .text key => some (.afterKey [] key stack)
  | .nextKey entries stack, .text key => some (.afterKey entries key stack)
  | .afterKey entries key stack, .colon => some (.value (.entry entries key :: stack))
  | .afterEntry entries stack, .comma => some (.nextKey entries stack)
  | .afterEntry entries stack, .closeObject =>
    some (deliver (.object (Assoc.ofList entries)) stack)
  | _, _ => none

def run (r : Reader) (tokens : List Token) : Option Reader :=
  tokens.foldlM (step decode) r

/-- The value, if it is complete. -/
def value? : Reader → Option Json
  | .done found => some found
  | _ => none

variable {decode} {r : Reader}

theorem run_append (tokens more : List Token) :
    r.run decode (tokens ++ more) = (r.run decode tokens).bind fun r' => r'.run decode more :=
  List.foldlM_append

theorem run_cons (token : Token) (tokens : List Token) :
    r.run decode (token :: tokens) = (r.step decode token).bind fun r' => r'.run decode tokens :=
  List.foldlM_cons

end Reader

/-- The value of a text; numbers that are no integers are left to a decoder. -/
def read (decode : String → Option Float) (s : String) : Option Json :=
  (lex s.toList).bind fun tokens => ((Reader.value []).run decode tokens).bind Reader.value?

/-! ### The tokens of a value -/

mutual

/-- The tokens that a value is written with. -/
def tokens : Json → List Token
  | null => [.word "null".toList]
  | bool b => [.word (if b then "true" else "false").toList]
  | int n => [.word (Decimal.integer n).toList]
  | float x => [.word (number x).toList]
  | text s => [.text s]
  | list items => [.openList] ++ List.intercalate [.comma] (itemTokens items) ++ [.closeList]
  | object entries =>
    [.openObject] ++ List.intercalate [.comma] (entryTokens entries) ++ [.closeObject]

def itemTokens : List Json → List (List Token)
  | [] => []
  | item :: rest => tokens item :: itemTokens rest

def entryTokens : List (String × Json) → List (List Token)
  | [] => []
  | (key, value) :: rest => (.text key :: .colon :: tokens value) :: entryTokens rest

end

/-! ### Indented texts -/

section Pieces

theorem lexes_of_word {s : String} {c : Char} {cs : List Char} (word : s.toList = c :: cs)
    (inside : ∀ d ∈ s.toList, isWordChar d = true) : Lexes s.toList [.word s.toList] := by
  rw [word] at inside ⊢
  exact lexes_word inside

theorem lexes_integer (n : Int) :
    Lexes (Decimal.integer n).toList [.word (Decimal.integer n).toList] := by
  have full : (Decimal.integer n).toList ≠ [] := by
    rw [toList_integer]
    exact List.append_ne_nil_of_right_ne_nil _ Nat.toDigits_ne_nil
  obtain ⟨c, cs, word⟩ := List.exists_cons_of_ne_nil full
  exact lexes_of_word word fun _ member =>
    isWordChar_of_isNumeric (isNumeric_of_mem_integer member)

theorem lexes_number (x : Float) : Lexes (number x).toList [.word (number x).toList] := by
  obtain ⟨c, cs, word⟩ := List.exists_cons_of_ne_nil (number_ne_nil x)
  exact lexes_of_word word fun _ member => isWordChar_of_mem_number member

/-- Pieces with a separator between them, each giving its tokens. -/
theorem lexes_intercalate {separator : String} {gap : List Char}
    (begins : separator.toList = ',' :: gap) (closes : Closes separator.toList [.comma])
    {pieces : List String} {parts : List (List Token)}
    (each : List.Forall₂ (fun piece part => Lexes piece.toList part) pieces parts) :
    Lexes (String.intercalate separator pieces).toList (List.intercalate [.comma] parts) := by
  induction each with
  | nil => exact closes_nil.lexes
  | @cons piece part pieces parts first others ih =>
    -- There is a separator only between two pieces, so a single one comes first.
    cases others with
    | nil => simpa using first
    | @cons next nextPart pieces parts second others =>
      -- The comma ends the piece before it, whatever its last word was.
      rw [String.intercalate_cons_cons, List.intercalate_cons_cons, String.toList_append,
        String.toList_append, List.append_assoc, List.append_assoc]
      have rest := closes.then ih
      rw [begins, List.cons_append] at rest ⊢
      exact first.append rest (by decide)

theorem closes_lineBreak (level : Nat) : Closes (lineBreak level).toList [] := by
  apply closes_space
  intro c member
  rw [lineBreak, String.toList_ofList, List.mem_cons, List.mem_replicate] at member
  rcases member with rfl | ⟨-, rfl⟩ <;> rfl

/-- The lines of a list or an object between its brackets. -/
theorem closes_lines {left right : Char} {opening closing : Token}
    (opens : Closes [left] [opening]) (shuts : Closes [right] [closing]) (level : Nat)
    {lines : List Char} {parts : List Token} (inner : Lexes lines parts) :
    Closes ([left] ++ (lineBreak (level + 1)).toList ++ lines ++
      ((lineBreak level).toList ++ [right])) ([opening] ++ parts ++ [closing]) := by
  have front := (opens.append (closes_lineBreak (level + 1))).then inner
  have back := (closes_lineBreak level).append shuts
  have begins : (lineBreak level).toList ++ [right] =
      '\n' :: (List.replicate (2 * level) ' ' ++ [right]) := by
    rw [lineBreak, String.toList_ofList, List.cons_append]
  rw [List.append_nil] at front
  rw [begins] at back ⊢
  exact front.close back (by decide)

/-- The separator of lines. -/
theorem lexes_lines (level : Nat) {pieces : List String} {parts : List (List Token)}
    (each : List.Forall₂ (fun piece part => Lexes piece.toList part) pieces parts) :
    Lexes (String.intercalate ("," ++ lineBreak level) pieces).toList
      (List.intercalate [.comma] parts) := by
  have comma : Closes ",".toList [.comma] := fun _ => rfl
  have begins : ("," ++ lineBreak level).toList = ',' :: (lineBreak level).toList := by
    rw [String.toList_append]
    rfl
  have closes : Closes ("," ++ lineBreak level).toList [.comma] := by
    rw [String.toList_append]
    exact comma.append (closes_lineBreak level)
  exact lexes_intercalate begins closes each

theorem lexes_entry {key : String} {value : String} {parts : List Token}
    (lexes : Lexes value.toList parts) :
    Lexes (escape key ++ ": " ++ value).toList (.text key :: .colon :: parts) := by
  have colon : Closes ": ".toList [.colon] := fun _ => rfl
  rw [String.toList_append, String.toList_append]
  exact ((closes_escape key).append colon).then lexes

end Pieces

mutual

/-- An indented text consists of the tokens of its value. -/
theorem lexes_prettyAt (level : Nat) : (value : Json) →
    Lexes (prettyAt level value).toList (tokens value)
  | null => by
    simp only [prettyAt, tokens]
    exact lexes_of_word rfl (List.all_eq_true.1 (by decide))
  | bool b => by
    simp only [prettyAt, tokens]
    cases b <;> exact lexes_of_word rfl (List.all_eq_true.1 (by decide))
  | int n => by
    simp only [prettyAt, tokens]
    exact lexes_integer n
  | float x => by
    simp only [prettyAt, tokens]
    exact lexes_number x
  | text s => by
    simp only [prettyAt, tokens]
    exact (closes_escape s).lexes
  | list [] => by
    have opens : Closes ['['] [.openList] := fun _ => rfl
    have shuts : Closes [']'] [.closeList] := fun _ => rfl
    simp only [prettyAt, tokens]
    exact (opens.append shuts).lexes
  | list (item :: rest) => by
    have lines := lexes_lines (level + 1) (lexes_prettyItems (level + 1) (item :: rest))
    have opens : Closes ['['] [.openList] := fun _ => rfl
    have shuts : Closes [']'] [.closeList] := fun _ => rfl
    have enclosed := closes_lines opens shuts level lines
    -- Brackets, line breaks and lines are put together as one text, which is the one that is
    -- written.
    simp only [prettyAt, tokens, String.toList_append, List.append_assoc] at enclosed ⊢
    exact enclosed.lexes
  | object [] => by
    have opens : Closes ['\x7b'] [.openObject] := fun _ => rfl
    have shuts : Closes ['\x7d'] [.closeObject] := fun _ => rfl
    simp only [prettyAt, tokens]
    exact (opens.append shuts).lexes
  | object (entry :: rest) => by
    have lines := lexes_lines (level + 1)
      (lexes_prettyEntries (level + 1) (entry :: rest))
    have opens : Closes ['\x7b'] [.openObject] := fun _ => rfl
    have shuts : Closes ['\x7d'] [.closeObject] := fun _ => rfl
    have enclosed := closes_lines opens shuts level lines
    simp only [prettyAt, tokens, String.toList_append, List.append_assoc] at enclosed ⊢
    exact enclosed.lexes

theorem lexes_prettyItems (level : Nat) : (items : List Json) →
    List.Forall₂ (fun piece part => Lexes piece.toList part) (prettyItems level items)
      (itemTokens items)
  | [] => .nil
  | item :: rest => .cons (lexes_prettyAt level item) (lexes_prettyItems level rest)

theorem lexes_prettyEntries (level : Nat) : (entries : List (String × Json)) →
    List.Forall₂ (fun piece part => Lexes piece.toList part) (prettyEntries level entries)
      (entryTokens entries)
  | [] => .nil
  | (_, value) :: rest =>
    .cons (lexes_entry (lexes_prettyAt level value)) (lexes_prettyEntries level rest)

end

/-! ### Reading the tokens of a value -/

section Reading

variable (decode : String → Option Float)

mutual

/-- A value that its text can be read as: its numbers can be read, and no object has two entries for
a key. -/
def Readable : Json → Prop
  | int n => Decimal.isWritable n = true
  | float x => Denotes decode x
  | list items => ReadableItems items
  | object entries => (List.map Prod.fst entries).Nodup ∧ ReadableEntries entries
  | _ => True

def ReadableItems : List Json → Prop
  | [] => True
  | item :: rest => Readable item ∧ ReadableItems rest

def ReadableEntries : List (String × Json) → Prop
  | [] => True
  | (_, value) :: rest => Readable value ∧ ReadableEntries rest

end

variable {decode}

/-- The tokens of a value do not begin like the end of a list. -/
theorem tokens_head (value : Json) :
    ∃ token rest, tokens value = token :: rest ∧ token ≠ .closeList := by
  cases value <;> simp [tokens]

/-- What is joined begins with the first part. -/
theorem intercalate_cons (separator part : List Token) (parts : List (List Token)) :
    ∃ more, List.intercalate separator (part :: parts) = part ++ more := by
  cases parts with
  | nil => exact ⟨[], by rw [List.intercalate_singleton, List.append_nil]⟩
  | cons next rest => exact ⟨_, by rw [List.intercalate_cons_cons, List.append_assoc]⟩

/-- A list that has just begun takes a value like one that expects an item. -/
theorem run_firstItem (value : Json) (more : List Token) (stack : List Frame) :
    (Reader.firstItem stack).run decode (tokens value ++ more) =
      (Reader.value (.item [] :: stack)).run decode (tokens value ++ more) := by
  obtain ⟨token, rest, head, other⟩ := tokens_head value
  -- Only the end of the list is taken otherwise, and no value begins with it.
  have same : Reader.step decode (.firstItem stack) token =
      Reader.step decode (.value (.item [] :: stack)) token := by
    cases token <;> first | rfl | exact absurd rfl other
  rw [head, List.cons_append, Reader.run_cons, Reader.run_cons, same]

mutual

/-- A reader that expects a value takes the tokens of one. -/
theorem run_tokens (stack : List Frame) : (value : Json) → Readable decode value →
    (Reader.value stack).run decode (tokens value) = some (Reader.deliver value stack)
  | null, _ => rfl
  | bool true, _ => rfl
  | bool false, _ => rfl
  | int n, readable => by
    have scalar := scalar?_integer decode (n := n) readable
    simp only [tokens, Reader.run_cons, Reader.step, Reader.start, scalar, Option.map_some,
      Option.bind_some]
    rfl
  | float x, readable => by
    have scalar : scalar? decode (number x).toList = some (float x) := scalar?_number readable
    simp only [tokens, Reader.run_cons, Reader.step, Reader.start, scalar, Option.map_some,
      Option.bind_some]
    rfl
  | text s, _ => rfl
  | list [], _ => rfl
  | list (item :: rest), readable => by
    have items := run_itemTokens stack [] (item :: rest) (List.cons_ne_nil _ _) readable
    -- Having begun, the list takes its items like any others.
    have first : (Reader.firstItem stack).run decode
        (List.intercalate [.comma] (itemTokens (item :: rest))) =
        (Reader.value (.item [] :: stack)).run decode
          (List.intercalate [.comma] (itemTokens (item :: rest))) := by
      obtain ⟨more, split⟩ := intercalate_cons [.comma] (tokens item) (itemTokens rest)
      rw [itemTokens, split, run_firstItem]
    rw [tokens, List.append_assoc, List.singleton_append, Reader.run_cons]
    simp only [Reader.step, Reader.start, Option.bind_some]
    rw [Reader.run_append, first, items]
    rfl
  | object [], _ => rfl
  | object ((key, value) :: rest), readable => by
    have entries := run_entryTokens stack [] ((key, value) :: rest) (List.cons_ne_nil _ _)
      readable.2
    have first : (Reader.firstKey stack).run decode
        (List.intercalate [.comma] (entryTokens ((key, value) :: rest))) =
        (Reader.nextKey [] stack).run decode
          (List.intercalate [.comma] (entryTokens ((key, value) :: rest))) := by
      obtain ⟨more, split⟩ := intercalate_cons [.comma] (.text key :: .colon :: tokens value)
        (entryTokens rest)
      rw [entryTokens, split, List.cons_append, Reader.run_cons, Reader.run_cons]
      rfl
    -- No key comes twice, so none of the entries replaces another.
    have whole : Assoc.ofList ((key, value) :: rest) = (key, value) :: rest :=
      Assoc.ofList_eq_self readable.1
    rw [tokens, List.append_assoc, List.singleton_append, Reader.run_cons]
    simp only [Reader.step, Reader.start, Option.bind_some]
    rw [Reader.run_append, first, entries, Option.bind_some, Reader.run_cons]
    simp only [Reader.step, List.nil_append, whole]
    rfl

theorem run_itemTokens (stack : List Frame) (before : List Json) :
    (items : List Json) → items ≠ [] → ReadableItems decode items →
    (Reader.value (.item before :: stack)).run decode
      (List.intercalate [.comma] (itemTokens items)) =
      some (.afterItem (before ++ items) stack)
  | [], full, _ => absurd rfl full
  | [item], _, readable => by
    rw [itemTokens, itemTokens, List.intercalate_singleton]
    exact run_tokens (.item before :: stack) item readable.1
  | item :: next :: rest, _, readable => by
    have one := run_tokens (.item before :: stack) item readable.1
    -- The items that were taken go before those still to come.
    have others := run_itemTokens stack (before ++ [item]) (next :: rest)
      (List.cons_ne_nil _ _) readable.2
    rw [List.append_assoc, List.singleton_append] at others
    rw [itemTokens, itemTokens, List.intercalate_cons_cons, ← itemTokens, List.append_assoc,
      Reader.run_append, one, Option.bind_some]
    exact others

theorem run_entryTokens (stack : List Frame) (before : List (String × Json)) :
    (entries : List (String × Json)) → entries ≠ [] → ReadableEntries decode entries →
    (Reader.nextKey before stack).run decode
      (List.intercalate [.comma] (entryTokens entries)) =
      some (.afterEntry (before ++ entries) stack)
  | [], full, _ => absurd rfl full
  | [(key, value)], _, readable => by
    rw [entryTokens, entryTokens, List.intercalate_singleton]
    exact run_tokens (.entry before key :: stack) value readable.1
  | (key, value) :: next :: rest, _, readable => by
    have one := run_tokens (.entry before key :: stack) value readable.1
    have others := run_entryTokens stack (before ++ [(key, value)]) (next :: rest)
      (List.cons_ne_nil _ _) readable.2
    rw [List.append_assoc, List.singleton_append] at others
    rw [entryTokens, entryTokens, List.intercalate_cons_cons, ← entryTokens, List.append_assoc,
      Reader.run_append]
    have head : (Reader.nextKey before stack).run decode (.text key :: .colon :: tokens value) =
        some (.afterEntry (before ++ [(key, value)]) stack) := one
    rw [head, Option.bind_some]
    exact others

end

/-- The indented text of a value is read as that value. -/
theorem read_pretty {value : Json} (readable : Readable decode value) (blank : List Char)
    (spaces : ∀ c ∈ blank, isSpace c = true) :
    read decode (value.pretty ++ String.ofList blank) = some value := by
  have ran := run_tokens [] value readable
  have lexed : lex (value.pretty ++ String.ofList blank).toList = some (tokens value) := by
    rw [String.toList_append, String.toList_ofList]
    cases blank with
    | nil =>
      rw [List.append_nil]
      exact lex_of_lexes (lexes_prettyAt 0 value)
    | cons c rest =>
      -- A number or a name at the end is complete only with what follows it.
      have apart : isWordChar c = false := isWordChar_of_isSpace (spaces c (.head _))
      have closed := (lexes_prettyAt 0 value).close (closes_space spaces) apart
      rw [List.append_nil] at closed
      exact lex_of_lexes closed.lexes
  rw [read, lexed, Option.bind_some, ran]
  rfl

end Reading

end Json

end Volley
