import Mathlib.Data.List.Induction
import Mathlib.Data.Nat.Digits.Defs
import Mathlib.Tactic.Ring
import Volley.Text.Numeral

/-!
# What reads as an integer

Trimming takes the blanks off both ends of a text, and what is left is an integer if it follows the
grammar of integers: a sign or none, and then digits of any script with single underscores between
them. The reader accepts exactly that, if there are at most 4300 digits.

## Main definitions

- `Text.Bare`, `Text.Trims`: no blank at either end, and what blanks are around.
- `Numeral.Digits`, `Numeral.IsInteger`: the grammar of integers, with their values.

## Main results

- `trimWith_of_trims`, `trims_trimWith`: trimming gives what blanks are around.
- `integer?_eq_some_iff`: the reader of integers follows the grammar.
-/

namespace Volley.Text

/-! ### Trimming -/

/-- No blank at either end. -/
structure Bare (blank : Char → Bool) (cs : List Char) : Prop where
  first : ∀ c, cs.head? = some c → blank c = false
  last : ∀ c, cs.getLast? = some c → blank c = false

/-- What is left of a text without the blanks at its ends. -/
def Trims (blank : Char → Bool) (cs core : List Char) : Prop :=
  Bare blank core ∧ ∃ left right, cs = left ++ core ++ right ∧ (∀ c ∈ left, blank c = true) ∧
    ∀ c ∈ right, blank c = true

section Trimming

variable {blank : Char → Bool} {cs core : List Char}

theorem dropWhile_of_first (first : ∀ c, cs.head? = some c → blank c = false) :
    cs.dropWhile blank = cs := by
  cases cs with
  | nil => rfl
  | cons c rest => rw [List.dropWhile_cons_of_neg (by simp [first c rfl])]

theorem trimWith_of_trims (trims : Trims blank cs core) : trimWith blank cs = core := by
  obtain ⟨bare, left, right, rfl, front, back⟩ := trims
  have back' : ∀ c ∈ right.reverse, blank c = true := by simpa using back
  rw [trimWith, List.append_assoc, List.dropWhile_append_of_pos front]
  cases core with
  | nil =>
    have nothing : (right ++ []).dropWhile blank = [] := List.dropWhile_append_of_pos back
    rw [List.append_nil] at nothing
    simp [nothing]
  | cons c rest =>
    have some_ : ((c :: rest) ++ right).dropWhile blank = (c :: rest) ++ right :=
      dropWhile_of_first fun c' first => bare.first c' (by simpa using first)
    have last : ∀ c', (c :: rest).reverse.head? = some c' → blank c' = false := by
      intro c' first
      exact bare.last c' (by rwa [List.head?_reverse] at first)
    rw [some_, List.reverse_append, List.dropWhile_append_of_pos back', dropWhile_of_first last,
      List.reverse_reverse]

theorem first_dropWhile (blank : Char → Bool) (cs : List Char) :
    ∀ c, (cs.dropWhile blank).head? = some c → blank c = false := by
  intro c first
  have other := List.head?_dropWhile_not blank cs
  rw [first] at other
  simpa using other

theorem trims_trimWith (blank : Char → Bool) (cs : List Char) :
    Trims blank cs (trimWith blank cs) := by
  have front := List.takeWhile_append_dropWhile (p := blank) (l := cs)
  have back := List.takeWhile_append_dropWhile (p := blank) (l := (cs.dropWhile blank).reverse)
  have all (xs : List Char) : ∀ c ∈ xs.takeWhile blank, blank c = true :=
    List.all_eq_true.mp List.all_takeWhile
  have whole : cs.dropWhile blank = trimWith blank cs ++
      ((cs.dropWhile blank).reverse.takeWhile blank).reverse := by
    rw [trimWith, ← List.reverse_append, back, List.reverse_reverse]
  refine ⟨⟨?_, ?_⟩, cs.takeWhile blank, ((cs.dropWhile blank).reverse.takeWhile blank).reverse, ?_,
    all cs, ?_⟩
  · -- The first of what is left is the first after the blanks in front.
    intro c first
    apply first_dropWhile blank cs
    rw [whole, List.head?_append, first, Option.some_or]
  · intro c last
    apply first_dropWhile blank (cs.dropWhile blank).reverse
    rwa [trimWith, List.getLast?_reverse] at last
  · rw [List.append_assoc, ← whole, front]
  · intro c member
    exact all _ c (List.mem_reverse.mp member)

end Trimming

/-! ### Digits -/

namespace Numeral

/-- Digits of any script with single underscores between them, and their values. -/
inductive Digits : List Char → List Nat → Prop
  | one {c : Char} {d : Nat} (value : digitValue? c = some d) : Digits [c] [d]
  | next {c : Char} {d : Nat} {cs : List Char} {ds : List Nat} (value : digitValue? c = some d)
      (rest : Digits cs ds) : Digits (c :: cs) (d :: ds)
  | grouped {c : Char} {d : Nat} {cs : List Char} {ds : List Nat} (value : digitValue? c = some d)
      (rest : Digits cs ds) : Digits (c :: '_' :: cs) (d :: ds)

/-- The grammar of integers: a sign or none, and at most 4300 digits, the most significant first. -/
inductive IsInteger : List Char → Int → Prop
  | unsigned {cs : List Char} {ds : List Nat} (digits : Digits cs ds) (short : ds.length ≤ 4300) :
      IsInteger cs (Nat.ofDigits 10 ds.reverse : Nat)
  | plus {cs : List Char} {ds : List Nat} (digits : Digits cs ds) (short : ds.length ≤ 4300) :
      IsInteger ('+' :: cs) (Nat.ofDigits 10 ds.reverse : Nat)
  | minus {cs : List Char} {ds : List Nat} (digits : Digits cs ds) (short : ds.length ≤ 4300) :
      IsInteger ('-' :: cs) (-((Nat.ofDigits 10 ds.reverse : Nat) : Int))

section Digits

variable {cs : List Char} {ds : List Nat}

theorem symbol_of_digit {c : Char} {d : Nat} (value : digitValue? c = some d) :
    symbol c = .digit d := by
  rw [symbol, value]

theorem symbol_eq_digit_iff {c : Char} {d : Nat} :
    symbol c = .digit d ↔ digitValue? c = some d := by
  unfold symbol
  split <;> simp_all

theorem symbol_eq_other_iff {c c' : Char} :
    symbol c = .other c' ↔ digitValue? c = none ∧ c = c' := by
  unfold symbol
  split <;> simp_all

theorem Digits.first (digits : Digits cs ds) : ∃ d rest, cs.map symbol = .digit d :: rest := by
  cases digits with
  | one value => exact ⟨_, _, by rw [List.map_cons, symbol_of_digit value]⟩
  | next value rest => exact ⟨_, _, by rw [List.map_cons, symbol_of_digit value]⟩
  | grouped value rest => exact ⟨_, _, by rw [List.map_cons, symbol_of_digit value]⟩

theorem takeDigits_of_digits (digits : Digits cs ds) : takeDigits (cs.map symbol) = (ds, []) := by
  induction digits with
  | one value =>
    rw [List.map_cons, symbol_of_digit value]
    rfl
  | next value rest ih =>
    -- What follows begins with a digit, so it is not taken for a separator.
    obtain ⟨e, symbols, first⟩ := rest.first
    rw [List.map_cons, symbol_of_digit value, first, takeDigits.eq_2 _ _ (by simp), ← first, ih]
  | grouped value rest ih =>
    obtain ⟨e, symbols, first⟩ := rest.first
    have underscore : symbol '_' = .other '_' := by decide
    rw [List.map_cons, List.map_cons, symbol_of_digit value, underscore, first, takeDigits.eq_1,
      ← first, ih]

/-- Where no digit is taken nothing is. -/
theorem eq_of_takeDigits {symbols after : List Symbol} (none_ : takeDigits symbols = ([], after)) :
    symbols = after := by
  unfold takeDigits at none_
  split at none_ <;> simp_all

theorem digits_of_takeDigits (all : takeDigits (cs.map symbol) = (ds, [])) (some_ : ds ≠ []) :
    Digits cs ds := by
  generalize same : cs.map symbol = symbols at all
  fun_induction takeDigits symbols generalizing cs ds with
  | case1 d e rest ds' after taken ih =>
    obtain ⟨rfl, rfl⟩ := Prod.mk.inj all
    obtain ⟨c, cs, rfl, first, behind⟩ := List.map_eq_cons_iff.mp same
    obtain ⟨c', cs, rfl, second, others⟩ := List.map_eq_cons_iff.mp behind
    obtain ⟨-, rfl⟩ := symbol_eq_other_iff.mp second
    -- After an underscore there is a digit, so the run behind it is not empty.
    have more : ds' ≠ [] := by
      rintro rfl
      cases eq_of_takeDigits taken
    exact .grouped (symbol_eq_digit_iff.mp first) (ih more others taken)
  | case2 d rest _ ds' after taken ih =>
    obtain ⟨rfl, rfl⟩ := Prod.mk.inj all
    obtain ⟨c, cs, rfl, first, others⟩ := List.map_eq_cons_iff.mp same
    have value := symbol_eq_digit_iff.mp first
    by_cases last : ds' = []
    · subst last
      cases eq_of_takeDigits taken
      obtain rfl := List.map_eq_nil_iff.mp others
      exact .one value
    · exact .next value (ih last others taken)
  | case3 rest _ _ => exact absurd (Prod.mk.inj all).1.symm some_

theorem ofDigits_eq (ds : List Nat) : ofDigits ds = Nat.ofDigits 10 ds.reverse := by
  unfold ofDigits
  induction ds using List.reverseRecOn with
  | nil => rfl
  | append_singleton ds d ih =>
    rw [List.foldl_append, List.foldl_cons, List.foldl_nil, ih, List.reverse_append]
    simp [Nat.ofDigits_cons]
    ring

/-- The parts of an integer that is read: its sign and its digits. -/
theorem integer?_eq_some_parts {s : String} {n : Int} :
    integer? s = some n ↔ ∃ negative body ds, takeSign (symbols s) = (negative, body) ∧
      takeDigits body = (ds, []) ∧ ds ≠ [] ∧ ds.length ≤ 4300 ∧
      n = if negative then -(ofDigits ds : Int) else (ofDigits ds : Int) := by
  unfold integer?
  rcases takeSign (symbols s) with ⟨negative, body⟩
  dsimp only
  rcases taken : takeDigits body with ⟨_ | ⟨d, ds⟩, _ | ⟨symbol, after⟩⟩
  · simp [taken]
  · simp [taken]
  · have limit : Decimal.maxDigits = 4300 := rfl
    by_cases short : (d :: ds).length ≤ 4300
    · simp only [limit, if_pos short, Option.some.injEq, Prod.mk.injEq]
      constructor
      · rintro rfl
        exact ⟨negative, body, d :: ds, ⟨rfl, rfl⟩, taken, by simp, short, rfl⟩
      · rintro ⟨_, _, _, ⟨rfl, rfl⟩, same, -, -, rfl⟩
        rw [taken] at same
        rw [(Prod.mk.inj same).1]
    · simp only [limit, if_neg short, reduceCtorEq, Prod.mk.injEq, false_iff]
      rintro ⟨_, _, _, ⟨rfl, rfl⟩, same, -, short', -⟩
      rw [taken] at same
      exact short ((Prod.mk.inj same).1 ▸ short')
  · simp [taken]

theorem symbols_of_trims {core : List Char} {s : String}
    (trims : Trims isNumeralBlank s.toList core) : symbols s = core.map symbol := by
  rw [symbols, trimWith_of_trims trims]

/-- Integers are read by their grammar, after trimming. -/
theorem integer?_eq_some_iff {s : String} {core : List Char} {n : Int}
    (trims : Trims isNumeralBlank s.toList core) : integer? s = some n ↔ IsInteger core n := by
  have minus : symbol '-' = .other '-' := by decide
  have plus : symbol '+' = .other '+' := by decide
  rw [integer?_eq_some_parts, symbols_of_trims trims]
  constructor
  · -- Which sign it is shows in the first symbol, and only one character has that symbol.
    rintro ⟨negative, body, ds, sign, taken, some_, short, rfl⟩
    rw [ofDigits_eq]
    unfold takeSign at sign
    split at sign
    next rest signed =>
      obtain ⟨c, cs, rfl, first, rfl⟩ := List.map_eq_cons_iff.mp signed
      obtain ⟨-, rfl⟩ := symbol_eq_other_iff.mp first
      obtain ⟨rfl, rfl⟩ := Prod.mk.inj sign
      exact .minus (digits_of_takeDigits taken some_) short
    next rest signed =>
      obtain ⟨c, cs, rfl, first, rfl⟩ := List.map_eq_cons_iff.mp signed
      obtain ⟨-, rfl⟩ := symbol_eq_other_iff.mp first
      obtain ⟨rfl, rfl⟩ := Prod.mk.inj sign
      exact .plus (digits_of_takeDigits taken some_) short
    next =>
      obtain ⟨rfl, rfl⟩ := Prod.mk.inj sign
      exact .unsigned (digits_of_takeDigits taken some_) short
  · intro integer
    have some_ {cs : List Char} {ds : List Nat} (digits : Digits cs ds) : ds ≠ [] := by
      cases digits <;> simp
    cases integer with
    | @unsigned _ ds digits short =>
      -- No sign is a digit, so a run of digits begins without one.
      obtain ⟨d, rest, first⟩ := digits.first
      refine ⟨false, core.map symbol, ds, ?_, takeDigits_of_digits digits, some_ digits, short, ?_⟩
      · rw [first]
        rfl
      · simp [ofDigits_eq]
    | @plus cs ds digits short =>
      refine ⟨false, cs.map symbol, ds, ?_, takeDigits_of_digits digits, some_ digits, short, ?_⟩
      · rw [List.map_cons, plus]
        rfl
      · simp [ofDigits_eq]
    | @minus cs ds digits short =>
      refine ⟨true, cs.map symbol, ds, ?_, takeDigits_of_digits digits, some_ digits, short, ?_⟩
      · rw [List.map_cons, minus]
        rfl
      · simp [ofDigits_eq]

/-! ### Integers and blanks -/

/-- No digit of any script is a blank: the blanks lie between the blocks of digits. -/
theorem isBlank_of_digit {c : Char} {d : Nat} (value : digitValue? c = some d) :
    isBlank c = false := by
  obtain ⟨first, found, -⟩ := Option.map_eq_some_iff.mp value
  have inside := List.find?_some found
  simp only [Bool.and_eq_true, decide_eq_true_eq] at inside
  have gaps : ∀ z ∈ zeroDigits, 0x20 < z ∧ z + 10 ≤ 0x85 ∨ 0xA0 < z ∧ z + 10 ≤ 0x1680 ∨
      0x1680 < z ∧ z + 10 ≤ 0x2000 ∨ 0x3000 < z := by decide
  have gap := gaps first (List.mem_of_find?_eq_some found)
  rw [Bool.eq_false_iff]
  intro blank
  simp only [isBlank, Bool.or_eq_true, Bool.and_eq_true, decide_eq_true_eq, beq_iff_eq] at blank
  omega

theorem isBlank_of_mem_digits (digits : Digits cs ds) : ∀ c ∈ cs, isBlank c = false := by
  induction digits with
  | one value => simpa using isBlank_of_digit value
  | next value rest ih => simpa [isBlank_of_digit value] using ih
  | grouped value rest ih =>
    have underscore : isBlank '_' = false := by decide
    simpa [isBlank_of_digit value, underscore] using ih

theorem isBlank_of_mem_integer {n : Int} (integer : IsInteger cs n) :
    ∀ c ∈ cs, isBlank c = false := by
  cases integer with
  | unsigned digits short => exact isBlank_of_mem_digits digits
  | plus digits short =>
    rintro c (_ | ⟨_, member⟩)
    · decide
    · exact isBlank_of_mem_digits digits c member
  | minus digits short =>
    rintro c (_ | ⟨_, member⟩)
    · decide
    · exact isBlank_of_mem_digits digits c member

theorem IsInteger.bare {n : Int} (integer : IsInteger cs n) : Bare isBlank cs where
  first c first := isBlank_of_mem_integer integer c (List.mem_of_mem_head? first)
  last c last := isBlank_of_mem_integer integer c (List.mem_of_getLast? last)

theorem IsInteger.ne_nil {n : Int} (integer : IsInteger cs n) : cs ≠ [] := by
  cases integer with
  | unsigned digits short => cases digits <;> simp
  | plus digits short => simp
  | minus digits short => simp

theorem Digits.concat {c : Char} {d : Nat} (digits : Digits cs ds)
    (value : digitValue? c = some d) : Digits (cs ++ [c]) (ds ++ [d]) := by
  induction digits with
  | one first => exact .next first (.one value)
  | next first rest ih => exact .next first ih
  | grouped first rest ih => exact .grouped first ih

/-- The digits of a number in the usual way. -/
theorem exists_digits_toDigits (n : Nat) : ∃ ds, Digits (Nat.toDigits 10 n) ds ∧
    Nat.ofDigits 10 ds.reverse = n ∧ ds.length = Decimal.digitCount n := by
  have value : ∀ d < 10, digitValue? (Nat.digitChar d) = some d := by decide
  unfold Decimal.digitCount
  -- The last digit is split off, as in writing.
  induction n using Nat.strongRecOn with
  | ind n ih =>
    rcases Nat.lt_or_ge n 10 with small | large
    · rw [Nat.toDigits_of_lt_base small]
      exact ⟨[n], .one (value n small), by simp, rfl⟩
    · obtain ⟨ds, digits, sum, count⟩ := ih (n / 10) (by omega)
      rw [Nat.toDigits_of_base_le (by decide) large]
      refine ⟨ds ++ [n % 10], digits.concat (value _ (Nat.mod_lt n (by decide))), ?_, ?_⟩
      · rw [List.reverse_append, List.reverse_singleton, List.singleton_append, Nat.ofDigits_cons,
          sum]
        omega
      · simp [count]

/-- An integer that is written is one that is read. -/
theorem isInteger_integer {n : Int} (writable : Decimal.isWritable n = true) :
    IsInteger (Decimal.integer n).toList n := by
  obtain ⟨ds, digits, sum, count⟩ := exists_digits_toDigits n.natAbs
  have short : ds.length ≤ 4300 := count ▸ of_decide_eq_true writable
  cases n with
  | ofNat k =>
    have integer := IsInteger.unsigned digits short
    rw [sum] at integer
    simpa [Decimal.integer, Decimal.digits] using integer
  | negSucc k =>
    have integer := IsInteger.minus digits short
    rw [sum] at integer
    have text : (Decimal.integer (.negSucc k)).toList = '-' :: Nat.toDigits 10 (k + 1) := by
      simp [Decimal.integer, Decimal.digits]
    rw [text]
    exact integer

end Digits

end Numeral

end Volley.Text
