import Volley.Proofs.Json.Reader

/-!
# One line of JSON

The compact text of a value is one line: every character of it is a printable one of ASCII, whatever
texts the value holds. It is read as that value.

## Main definitions

- `Json.IsPlain`, `Json.Plain`: printable characters of ASCII, and texts of them.

## Main results

- `plain_compact`: a compact text is plain.
- `lexes_compact`: it consists of the tokens of its value.
- `read_compact`: it is read as its value.
-/

namespace Volley

namespace Json

/-! ### Plain texts -/

/-- A printable character of ASCII: no line break, and no other control character. -/
def IsPlain (c : Char) : Prop :=
  0x20 ≤ c.toNat ∧ c.toNat < 0x7F

instance : DecidablePred IsPlain :=
  fun c => inferInstanceAs (Decidable (0x20 ≤ c.toNat ∧ c.toNat < 0x7F))

def Plain (s : String) : Prop :=
  ∀ c ∈ s.toList, IsPlain c

instance : DecidablePred Plain :=
  fun s => List.decidableBAll IsPlain s.toList

theorem Plain.append {s t : String} (first : Plain s) (second : Plain t) : Plain (s ++ t) := by
  intro c member
  rw [String.toList_append, List.mem_append] at member
  exact member.elim (first c) (second c)

theorem plain_intercalate {separator : String} (between : Plain separator) {pieces : List String}
    (each : ∀ piece ∈ pieces, Plain piece) : Plain (String.intercalate separator pieces) := by
  induction pieces with
  | nil => nofun
  | cons piece rest ih =>
    cases rest with
    | nil => simpa using each piece
    | cons next rest =>
      rw [String.intercalate_cons_cons]
      have others := ih fun piece member => each piece (.tail _ member)
      exact ((each piece (.head _)).append between).append others

theorem isPlain_of_isWordChar {c : Char} (word : isWordChar c = true) : IsPlain c := by
  -- A bound on a character is a bound on its number.
  have between {low high : Char} (above : 0x20 ≤ low.toNat) (below : high.toNat < 0x7F)
      (least : low.val ≤ c.val) (most : c.val ≤ high.val) : IsPlain c :=
    ⟨Nat.le_trans above (UInt32.le_iff_toNat_le.1 least),
      Nat.lt_of_le_of_lt (UInt32.le_iff_toNat_le.1 most) below⟩
  simp only [isWordChar, Bool.or_eq_true, beq_iff_eq] at word
  rcases word with ((letter | rfl) | rfl) | rfl
  · -- The letters, the digits and the signs of a word each lie in a range of plain characters.
    rcases Bool.or_eq_true_iff.1 letter with alphabetic | digit
    · rcases Bool.or_eq_true_iff.1 alphabetic with upper | lower
      · obtain ⟨least, most⟩ := of_decide_eq_true upper
        exact between (by decide) (by decide) least most
      · obtain ⟨least, most⟩ := Bool.and_eq_true_iff.1 lower
        exact between (by decide) (by decide) (of_decide_eq_true least) (of_decide_eq_true most)
    · obtain ⟨least, most⟩ := Bool.and_eq_true_iff.1 digit
      exact between (by decide) (by decide) (of_decide_eq_true least) (of_decide_eq_true most)
  all_goals decide

theorem isPlain_of_mem_escapeUnit {n : Nat} {c : Char} (member : c ∈ escapeUnit n) :
    IsPlain c := by
  have digits : ∀ d < 16, IsPlain (Nat.digitChar d) := by decide
  have digit (k : Nat) : IsPlain (Nat.digitChar (k % 16)) := digits _ (Nat.mod_lt _ (by decide))
  simp only [escapeUnit, Text.hex, List.mem_append, List.mem_cons, List.not_mem_nil, or_false,
    List.nil_append] at member
  rcases member with (rfl | rfl) | ((rfl | rfl) | rfl) | rfl
  · decide
  · decide
  all_goals exact digit _

theorem isPlain_of_mem_escapeChar {c d : Char} (member : d ∈ escapeChar c) : IsPlain d := by
  have letter {e : Char} (plain : IsPlain e) (member : d ∈ ['\\', e]) : IsPlain d := by
    rcases List.mem_pair.1 member with rfl | rfl
    · decide
    · exact plain
  unfold escapeChar at member
  dsimp only at member
  -- The quote, the backslash and five control characters are escaped by a letter.
  iterate 7
    split at member
    · exact letter (by decide) member
  split at member
  next plain =>
    obtain rfl := List.mem_singleton.1 member
    simpa [IsPlain] using plain
  -- Other characters are escaped as one unit or as two.
  split at member
  · exact isPlain_of_mem_escapeUnit member
  · exact (List.mem_append.1 member).elim isPlain_of_mem_escapeUnit isPlain_of_mem_escapeUnit

theorem plain_escape (s : String) : Plain (escape s) := by
  intro c member
  rw [escape, String.toList_ofList] at member
  simp only [List.mem_append, List.mem_singleton, List.mem_flatMap] at member
  rcases member with (rfl | ⟨d, -, member⟩) | rfl
  · decide
  · exact isPlain_of_mem_escapeChar member
  · decide

mutual

/-- The compact text of a value is one line. -/
theorem plain_compact : (value : Json) → Plain (compact value)
  | null => by
    rw [compact]
    decide
  | bool b => by
    rw [compact]
    cases b <;> decide
  | int n => by
    rw [compact]
    exact fun c member =>
      isPlain_of_isWordChar (isWordChar_of_isNumeric (isNumeric_of_mem_integer member))
  | float x => by
    rw [compact]
    exact fun c member => isPlain_of_isWordChar (isWordChar_of_mem_number member)
  | text s => by
    rw [compact]
    exact plain_escape s
  | list items => by
    have opening : Plain "[" := by decide
    have closing : Plain "]" := by decide
    have comma : Plain ", " := by decide
    rw [compact]
    exact (opening.append (plain_intercalate comma (plain_compactItems items))).append closing
  | object entries => by
    have opening : Plain "\x7b" := by decide
    have closing : Plain "\x7d" := by decide
    have comma : Plain ", " := by decide
    rw [compact]
    exact (opening.append (plain_intercalate comma (plain_compactEntries entries))).append closing

theorem plain_compactItems : (items : List Json) → ∀ piece ∈ compactItems items, Plain piece
  | [] => by simp [compactItems]
  | item :: rest => by
    rw [compactItems, List.forall_mem_cons]
    exact ⟨plain_compact item, plain_compactItems rest⟩

theorem plain_compactEntries :
    (entries : List (String × Json)) → ∀ piece ∈ compactEntries entries, Plain piece
  | [] => by simp [compactEntries]
  | (key, value) :: rest => by
    have colon : Plain ": " := by decide
    rw [compactEntries, List.forall_mem_cons]
    exact ⟨((plain_escape key).append colon).append (plain_compact value),
      plain_compactEntries rest⟩

end

/-! ### Tokens -/

/-- Pieces between brackets with commas between them. -/
theorem lexes_enclosed {left right : Char} {opening closing : Token}
    (opens : Closes [left] [opening]) (shuts : Closes [right] [closing])
    (apart : isWordChar right = false) {pieces : List String} {parts : List (List Token)}
    (each : List.Forall₂ (fun piece part => Lexes piece.toList part) pieces parts) :
    Lexes ([left] ++ (String.intercalate ", " pieces).toList ++ [right])
      ([opening] ++ List.intercalate [.comma] parts ++ [closing]) := by
  have comma : Closes ", ".toList [.comma] := fun _ => rfl
  have inner := lexes_intercalate rfl comma each
  exact ((opens.then inner).close shuts apart).lexes

mutual

/-- A compact text consists of the tokens of its value. -/
theorem lexes_compact : (value : Json) → Lexes (compact value).toList (tokens value)
  | null => by
    simp only [compact, tokens]
    exact lexes_of_word rfl (List.all_eq_true.1 (by decide))
  | bool b => by
    simp only [compact, tokens]
    cases b <;> exact lexes_of_word rfl (List.all_eq_true.1 (by decide))
  | int n => by
    simp only [compact, tokens]
    exact lexes_integer n
  | float x => by
    simp only [compact, tokens]
    exact lexes_number x
  | text s => by
    simp only [compact, tokens]
    exact (closes_escape s).lexes
  | list items => by
    have opens : Closes ['['] [.openList] := fun _ => rfl
    have shuts : Closes [']'] [.closeList] := fun _ => rfl
    simp only [compact, tokens, String.toList_append]
    exact lexes_enclosed opens shuts (by decide) (lexes_compactItems items)
  | object entries => by
    have opens : Closes ['\x7b'] [.openObject] := fun _ => rfl
    have shuts : Closes ['\x7d'] [.closeObject] := fun _ => rfl
    simp only [compact, tokens, String.toList_append]
    exact lexes_enclosed opens shuts (by decide) (lexes_compactEntries entries)

theorem lexes_compactItems : (items : List Json) →
    List.Forall₂ (fun piece part => Lexes piece.toList part) (compactItems items) (itemTokens items)
  | [] => .nil
  | item :: rest => .cons (lexes_compact item) (lexes_compactItems rest)

theorem lexes_compactEntries : (entries : List (String × Json)) →
    List.Forall₂ (fun piece part => Lexes piece.toList part) (compactEntries entries)
      (entryTokens entries)
  | [] => .nil
  | (_, value) :: rest => .cons (lexes_entry (lexes_compact value)) (lexes_compactEntries rest)

end

/-- The compact text of a value is read as that value. -/
theorem read_compact {decode : String → Option Float} {value : Json}
    (readable : Readable decode value) : read decode value.compact = some value := by
  rw [read, lex_of_lexes (lexes_compact value), Option.bind_some, run_tokens [] value readable]
  rfl

end Json

end Volley
