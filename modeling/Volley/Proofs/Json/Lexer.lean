import Volley.Json

/-!
# The tokens of a JSON text

A lexer takes a text character by character and cuts it into tokens: brackets, commas and colons,
texts between quotes, and words, which are the runs of characters that numbers and names are made
of. Inside quotes escapes stand for UTF-16 units, two of which may make up one character.

## Main definitions

- `Json.Token`, `Json.Lexer`: tokens, and where a lexer stands.
- `Json.Lexer.step`: takes one character.
- `Json.lex`: the tokens of a text.
- `Json.Lexes`, `Json.Closes`: characters that give these tokens, wherever they stand between
  others.

## Main results

- `closes_escape`: an escaped text is one token again.
- `Lexes.append`: what is apart is lexed apart.
-/

namespace Volley

namespace Json

/-! ### Characters and units -/

/-- The characters that UTF-16 units stand for; a unit above the range of units stands for itself.
Half a pair stands for nothing. -/
def joinUnits : List Nat → Option (List Char)
  | [] => some []
  | high :: low :: rest =>
    if 0xD800 ≤ high ∧ high < 0xDC00 then
      if 0xDC00 ≤ low ∧ low < 0xE000 then
        (joinUnits rest).map
          (Char.ofNat (0x10000 + (high - 0xD800) * 0x400 + (low - 0xDC00)) :: ·)
      else none
    else if 0xDC00 ≤ high ∧ high < 0xE000 then none
    else (joinUnits (low :: rest)).map (Char.ofNat high :: ·)
  | [unit] => if 0xD800 ≤ unit ∧ unit < 0xE000 then none else some [Char.ofNat unit]

/-- The units of a character as they are escaped. -/
def unitsOf (c : Char) : List Nat :=
  if c.toNat < 0x10000 then [c.toNat]
  else [0xD800 + (c.toNat - 0x10000) / 0x400, 0xDC00 + (c.toNat - 0x10000) % 0x400]

theorem joinUnits_unitsOf (c : Char) (rest : List Nat) :
    joinUnits (unitsOf c ++ rest) = (joinUnits rest).map (c :: ·) := by
  have valid := c.valid
  have same : Char.ofNat c.toNat = c := Char.ofNat_toNat c
  have scalar : c.toNat < 0xD800 ∨ 0xDFFF < c.toNat ∧ c.toNat < 0x110000 := valid
  unfold unitsOf
  split
  next small =>
    -- A character of one unit is no half of a pair.
    have whole : ¬ (0xD800 ≤ c.toNat ∧ c.toNat < 0xE000) := by omega
    cases rest with
    | nil => simp [joinUnits, whole, same]
    | cons next rest =>
      have high : ¬ (0xD800 ≤ c.toNat ∧ c.toNat < 0xDC00) := by omega
      have low : ¬ (0xDC00 ≤ c.toNat ∧ c.toNat < 0xE000) := by omega
      simp [joinUnits, high, low, same]
  next large =>
    -- The two units are the halves of a pair, and what they were cut from is put together again.
    have high : 0xD800 ≤ 0xD800 + (c.toNat - 0x10000) / 0x400 ∧
        0xD800 + (c.toNat - 0x10000) / 0x400 < 0xDC00 := by omega
    have low : 0xDC00 ≤ 0xDC00 + (c.toNat - 0x10000) % 0x400 ∧
        0xDC00 + (c.toNat - 0x10000) % 0x400 < 0xE000 := by omega
    have joined : 0x10000 + (0xD800 + (c.toNat - 0x10000) / 0x400 - 0xD800) * 0x400 +
        (0xDC00 + (c.toNat - 0x10000) % 0x400 - 0xDC00) = c.toNat := by omega
    simp only [List.cons_append, List.nil_append, joinUnits, if_pos high, if_pos low, joined, same]

/-- Units do not run into each other: those of a text stand for its characters. -/
theorem joinUnits_flatMap (cs : List Char) : joinUnits (cs.flatMap unitsOf) = some cs := by
  induction cs with
  | nil => rfl
  | cons c rest ih => rw [List.flatMap_cons, joinUnits_unitsOf, ih, Option.map_some]

/-! ### The lexer -/

/-- The parts of a JSON text. -/
inductive Token where
  | openList
  | closeList
  | openObject
  | closeObject
  | comma
  | colon
  | text (s : String)
  | word (cs : List Char)
  deriving DecidableEq, Repr

/-- Where a lexer stands: between tokens, in a word, or in a text, and there perhaps in an escape,
of which some digits are still to come. -/
inductive Lexer.Place where
  | between
  | word (cs : List Char)
  | text (units : List Nat)
  | escape (units : List Nat)
  | unit (units : List Nat) (left value : Nat)
  deriving DecidableEq, Repr

/-- A lexer: the tokens so far, and where it stands. -/
structure Lexer where
  tokens : List Token
  place : Lexer.Place
  deriving DecidableEq, Repr

def isWordChar (c : Char) : Bool :=
  c.isAlphanum || c == '+' || c == '-' || c == '.'

def isSpace (c : Char) : Bool :=
  c == ' ' || c == '\t' || c == '\n' || c == '\r'

def punctuation? (c : Char) : Option Token :=
  if c == '[' then some .openList
  else if c == ']' then some .closeList
  else if c == '\x7b' then some .openObject
  else if c == '\x7d' then some .closeObject
  else if c == ',' then some .comma
  else if c == ':' then some .colon
  else none

/-- What a letter after a backslash stands for. -/
def escaped? (c : Char) : Option Nat :=
  if c == '"' || c == '\\' || c == '/' then some c.toNat
  else if c == 'n' then some 0x0A
  else if c == 'r' then some 0x0D
  else if c == 't' then some 0x09
  else if c == 'b' then some 0x08
  else if c == 'f' then some 0x0C
  else none

def hexValue? (c : Char) : Option Nat :=
  let n := c.toNat
  if 0x30 ≤ n ∧ n < 0x3A then some (n - 0x30)
  else if 0x61 ≤ n ∧ n < 0x67 then some (n - 0x57)
  else if 0x41 ≤ n ∧ n < 0x47 then some (n - 0x37)
  else none

namespace Lexer

/-- Takes a character between tokens. -/
def start (tokens : List Token) (c : Char) : Option Lexer :=
  if isWordChar c then some ⟨tokens, .word [c]⟩
  else if c == '"' then some ⟨tokens, .text []⟩
  else if isSpace c then some ⟨tokens, .between⟩
  else (punctuation? c).map fun token => ⟨tokens ++ [token], .between⟩

/-- Takes a character. -/
def step (l : Lexer) (c : Char) : Option Lexer :=
  match l.place with
  | .between => start l.tokens c
  | .word cs =>
    if isWordChar c then some { l with place := .word (cs ++ [c]) }
    else start (l.tokens ++ [.word cs]) c
  | .text units =>
    if c == '"' then
      (joinUnits units).map fun cs => ⟨l.tokens ++ [.text (String.ofList cs)], .between⟩
    else if c == '\\' then some { l with place := .escape units }
    else if c.toNat < 0x20 then none
    else some { l with place := .text (units ++ [c.toNat]) }
  | .escape units =>
    if c == 'u' then some { l with place := .unit units 4 0 }
    else (escaped? c).map fun unit => { l with place := .text (units ++ [unit]) }
  | .unit units left value =>
    (hexValue? c).map fun digit =>
      if left ≤ 1 then { l with place := .text (units ++ [16 * value + digit]) }
      else { l with place := .unit units (left - 1) (16 * value + digit) }

def run (l : Lexer) (cs : List Char) : Option Lexer :=
  cs.foldlM step l

/-- The tokens of a text that ends here; it must not end inside quotes. -/
def finish (l : Lexer) : Option (List Token) :=
  match l.place with
  | .between => some l.tokens
  | .word cs => some (l.tokens ++ [.word cs])
  | _ => none

theorem run_append (l : Lexer) (cs ds : List Char) :
    l.run (cs ++ ds) = (l.run cs).bind fun l' => l'.run ds :=
  List.foldlM_append

theorem run_cons (l : Lexer) (c : Char) (cs : List Char) :
    l.run (c :: cs) = (l.step c).bind fun l' => l'.run cs :=
  List.foldlM_cons

end Lexer

/-- The tokens of a text. -/
def lex (cs : List Char) : Option (List Token) :=
  ((⟨[], .between⟩ : Lexer).run cs).bind Lexer.finish

/-! ### Characters between others -/

/-- Characters give tokens, whatever was before. -/
def Lexes (cs : List Char) (tokens : List Token) : Prop :=
  ∀ before, ∃ l, (⟨before, .between⟩ : Lexer).run cs = some l ∧ l.finish = some (before ++ tokens)

/-- Characters give tokens, and the last of them is complete. -/
def Closes (cs : List Char) (tokens : List Token) : Prop :=
  ∀ before, (⟨before, .between⟩ : Lexer).run cs = some ⟨before ++ tokens, .between⟩

section Parts

variable {cs ds : List Char} {tokens more : List Token}

theorem lex_of_lexes (lexes : Lexes cs tokens) : lex cs = some tokens := by
  obtain ⟨l, ran, finished⟩ := lexes []
  rw [lex, ran, Option.bind_some, finished, List.nil_append]

theorem Closes.lexes (closes : Closes cs tokens) : Lexes cs tokens :=
  fun before => ⟨_, closes before, rfl⟩

theorem closes_nil : Closes [] [] := by
  intro before
  rw [List.append_nil]
  rfl

theorem Closes.append (first : Closes cs tokens) (second : Closes ds more) :
    Closes (cs ++ ds) (tokens ++ more) := by
  intro before
  rw [Lexer.run_append, first before, Option.bind_some, second, List.append_assoc]

theorem Closes.then (first : Closes cs tokens) (second : Lexes ds more) :
    Lexes (cs ++ ds) (tokens ++ more) := by
  intro before
  obtain ⟨l, ran, finished⟩ := second (before ++ tokens)
  exact ⟨l, by rw [Lexer.run_append, first before, Option.bind_some, ran],
    by rw [finished, List.append_assoc]⟩

/-- A character that is in no word ends the word before it. -/
theorem step_of_finish {l : Lexer} {found : List Token} (finished : l.finish = some found)
    {c : Char} (apart : isWordChar c = false) : l.step c = Lexer.step ⟨found, .between⟩ c := by
  obtain ⟨tokens, place⟩ := l
  cases place with
  | between => cases finished; rfl
  | word cs =>
    cases finished
    simp [Lexer.step, apart]
  | _ => cases finished

theorem run_of_finish {l : Lexer} {found : List Token} (finished : l.finish = some found)
    {c : Char} (apart : isWordChar c = false) (ds : List Char) :
    l.run (c :: ds) = Lexer.run ⟨found, .between⟩ (c :: ds) := by
  rw [Lexer.run_cons, Lexer.run_cons, step_of_finish finished apart]

/-- What is apart is lexed apart. -/
theorem Lexes.append {c : Char} (first : Lexes cs tokens) (second : Lexes (c :: ds) more)
    (apart : isWordChar c = false) : Lexes (cs ++ c :: ds) (tokens ++ more) := by
  intro before
  obtain ⟨l, ran, finished⟩ := first before
  obtain ⟨l', ran', finished'⟩ := second (before ++ tokens)
  refine ⟨l', ?_, by rw [finished', List.append_assoc]⟩
  -- The first text has ended before the next character, so the lexer goes on as if it began
  -- there.
  rw [Lexer.run_append, ran, Option.bind_some, run_of_finish finished apart, ran']

theorem Lexes.close {c : Char} (first : Lexes cs tokens) (second : Closes (c :: ds) more)
    (apart : isWordChar c = false) : Closes (cs ++ c :: ds) (tokens ++ more) := by
  intro before
  obtain ⟨l, ran, finished⟩ := first before
  rw [Lexer.run_append, ran, Option.bind_some, run_of_finish finished apart, second,
    List.append_assoc]

theorem lexes_word {c : Char} (inside : ∀ d ∈ c :: cs, isWordChar d = true) :
    Lexes (c :: cs) [.word (c :: cs)] := by
  intro before
  -- Further characters of words are added to the word.
  have more (ds done : List Char) (words : ∀ d ∈ ds, isWordChar d = true) :
      (⟨before, .word done⟩ : Lexer).run ds = some ⟨before, .word (done ++ ds)⟩ := by
    induction ds generalizing done with
    | nil => rw [List.append_nil]; rfl
    | cons d rest ih =>
      have first : isWordChar d = true := words d (.head _)
      rw [Lexer.run_cons]
      simp only [Lexer.step, first, if_true, Option.bind_some]
      rw [ih (done ++ [d]) fun e member => words e (.tail _ member), List.append_assoc]
      rfl
  refine ⟨⟨before, .word (c :: cs)⟩, ?_, rfl⟩
  have first : isWordChar c = true := inside c (.head _)
  rw [Lexer.run_cons]
  simp only [Lexer.step, Lexer.start, first, if_true, Option.bind_some]
  exact more cs [c] fun d member => inside d (.tail _ member)

theorem isWordChar_of_isSpace {c : Char} (space : isSpace c = true) : isWordChar c = false := by
  simp only [isSpace, Bool.or_eq_true, beq_iff_eq] at space
  rcases space with ((rfl | rfl) | rfl) | rfl <;> decide

theorem closes_space {cs : List Char} (spaces : ∀ c ∈ cs, isSpace c = true) : Closes cs [] := by
  intro before
  rw [List.append_nil]
  induction cs with
  | nil => rfl
  | cons c rest ih =>
    have space : isSpace c = true := spaces c (.head _)
    have apart : isWordChar c = false := isWordChar_of_isSpace space
    have unquoted : (c == '"') = false := by
      simp only [isSpace, Bool.or_eq_true, beq_iff_eq] at space
      rcases space with ((rfl | rfl) | rfl) | rfl <;> decide
    rw [Lexer.run_cons]
    simp only [Lexer.step, Lexer.start, apart, unquoted, space, Bool.false_eq_true, if_false,
      if_true, Option.bind_some]
    exact ih fun d member => spaces d (.tail _ member)

end Parts

/-! ### Texts between quotes -/

section Texts

variable (before : List Token) (units : List Nat)

theorem hexValue?_digitChar : ∀ d < 16, hexValue? (Nat.digitChar d) = some d := by
  decide

/-- Four digits give back the unit. -/
theorem run_escapeUnit {n : Nat} (small : n < 0x10000) :
    (⟨before, .text units⟩ : Lexer).run (escapeUnit n) =
      some ⟨before, .text (units ++ [n])⟩ := by
  have digit (k : Nat) : hexValue? (Nat.digitChar (k % 16)) = some (k % 16) :=
    hexValue?_digitChar _ (Nat.mod_lt _ (by decide))
  -- The digits are the four parts of the number to the base 16.
  have value : 16 * (16 * (16 * (n / 16 / 16 / 16 % 16) + n / 16 / 16 % 16) + n / 16 % 16) +
      n % 16 = n := by omega
  simp [escapeUnit, Text.hex, Lexer.run, Lexer.step, digit, value]

theorem run_escapeChar (c : Char) :
    (⟨before, .text units⟩ : Lexer).run (escapeChar c) =
      some ⟨before, .text (units ++ unitsOf c)⟩ := by
  -- What is escaped by a letter is one unit.
  have letter (d : Char) (other : d ≠ 'u') (stands : escaped? d = some c.toNat)
      (small : c.toNat < 0x10000) :
      (⟨before, .text units⟩ : Lexer).run ['\\', d] =
        some ⟨before, .text (units ++ unitsOf c)⟩ := by
    simp [Lexer.run, Lexer.step, other, stands, unitsOf, small]
  unfold escapeChar
  dsimp only
  split
  -- The cases are those of the writer: escapes by a letter, what stands for itself, one unit and
  -- two.
  next quote =>
    obtain rfl := eq_of_beq quote
    exact letter _ (by decide) rfl (by decide)
  split
  next backslash =>
    obtain rfl := eq_of_beq backslash
    exact letter _ (by decide) rfl (by decide)
  split
  next newline =>
    obtain rfl := eq_of_beq newline
    exact letter _ (by decide) rfl (by decide)
  split
  next return_ =>
    obtain rfl := eq_of_beq return_
    exact letter _ (by decide) rfl (by decide)
  split
  next tab =>
    obtain rfl := eq_of_beq tab
    exact letter _ (by decide) rfl (by decide)
  split
  next backspace =>
    have code : c.toNat = 0x08 := eq_of_beq backspace
    exact letter _ (by decide) (code ▸ rfl) (by omega)
  split
  next feed =>
    have code : c.toNat = 0x0C := eq_of_beq feed
    exact letter _ (by decide) (code ▸ rfl) (by omega)
  split
  next quote backslash _ _ _ _ _ plain =>
    -- A printable character of ASCII stands for itself.
    simp only [Bool.and_eq_true, decide_eq_true_eq] at plain
    have visible : ¬ c.toNat < 0x20 := by omega
    have small : c.toNat < 0x10000 := by omega
    simp [Lexer.run, Lexer.step, quote, backslash, visible, unitsOf, small]
  split
  next small =>
    rw [run_escapeUnit before units small, unitsOf, if_pos small]
  next large =>
    -- Two units are escaped one after the other, and they are those of the character.
    have valid : c.toNat < 0xD800 ∨ 0xDFFF < c.toNat ∧ c.toNat < 0x110000 := c.valid
    rw [Lexer.run_append, run_escapeUnit before units (by omega), Option.bind_some,
      run_escapeUnit before _ (by omega), List.append_assoc, unitsOf, if_neg large]
    rfl

theorem run_flatMap_escapeChar (cs : List Char) :
    (⟨before, .text units⟩ : Lexer).run (cs.flatMap escapeChar) =
      some ⟨before, .text (units ++ cs.flatMap unitsOf)⟩ := by
  induction cs generalizing units with
  | nil =>
    rw [List.flatMap_nil, List.flatMap_nil, List.append_nil]
    rfl
  | cons c rest ih =>
    rw [List.flatMap_cons, Lexer.run_append, run_escapeChar, Option.bind_some, ih,
      List.flatMap_cons, List.append_assoc]

end Texts

/-- An escaped text is one token again. -/
theorem closes_escape (s : String) : Closes (escape s).toList [.text s] := by
  intro before
  have opened : (⟨before, .between⟩ : Lexer).step '"' = some ⟨before, .text []⟩ := rfl
  rw [escape, String.toList_ofList, List.append_assoc, List.singleton_append, Lexer.run_cons,
    opened, Option.bind_some, Lexer.run_append, run_flatMap_escapeChar, Option.bind_some,
    Lexer.run_cons]
  simp only [Lexer.step, beq_self_eq_true, if_true, List.nil_append, joinUnits_flatMap,
    Option.map_some, String.ofList_toList, Option.bind_some]
  rfl

end Json

end Volley
