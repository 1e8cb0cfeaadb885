import Volley.Proofs.Decimal.Binary64
import Volley.Proofs.Json.Lexer

/-!
# Numbers as words

What a word of a JSON text stands for. Words of digits and minus signs are integers, at most as long
as an integer may be read with; `NaN` and the two infinities are words of their own; what is left to
a decoder of decimal numbers is every other word. A number that was written is read back: integers
and the three words exactly, and a finite number because its text always has a point or an exponent,
if the decoder gives that number for that text.

## Main definitions

- `Json.scalar?`: the value of a word.
- `Json.Denotes`: a decoder gives a number for the text that the number is written with.

## Main results

- `scalar?_integer`, `scalar?_number`: numbers are read back.
-/

namespace Volley

open Decimal

namespace Json

/-! ### What a word stands for -/

/-- The number that digits denote: at most as many as a number is read with, and no zero in front of
others. -/
def natural? (cs : List Char) : Option Nat :=
  if cs ≠ [] ∧ cs.all Char.isDigit ∧ (cs.head? = some '0' → cs.length = 1) ∧
      cs.length ≤ maxDigits then
    some (Nat.ofDigitChars 10 cs 0)
  else none

def integer? : List Char → Option Int
  | '-' :: cs => (natural? cs).map fun (n : Nat) => -(n : Int)
  | cs => (natural? cs).map fun (n : Nat) => (n : Int)

def keyword? (word : String) : Option Json :=
  if word = "null" then some null
  else if word = "true" then some (bool true)
  else if word = "false" then some (bool false)
  else if word = "NaN" then some (float (Float.ofBits 0x7FF8000000000000))
  else if word = "Infinity" then some (float (Float.ofBits 0x7FF0000000000000))
  else if word = "-Infinity" then some (float (Float.ofBits 0xFFF0000000000000))
  else none

/-- Whether a word can only be an integer. -/
def isIntegral (cs : List Char) : Bool :=
  cs.all fun c => c.isDigit || c == '-'

/-- The value of a word; numbers that are no integers are left to a decoder. -/
def scalar? (decode : String → Option Float) (cs : List Char) : Option Json :=
  match keyword? (String.ofList cs) with
  | some value => some value
  | none =>
    if isIntegral cs then (integer? cs).map int
    else (decode (String.ofList cs)).map float

/-- A decoder gives a number for the text that the number is written with. Only finite numbers have
a text that it is asked about. -/
def Denotes (decode : String → Option Float) (x : Float) : Prop :=
  (∃ negative significand exponent,
    Binary64.ofFloat x = .finite negative significand exponent) →
  decode (Shortest.text x) = some x

/-! ### Characters of numbers -/

def isNumeric (c : Char) : Bool :=
  c.isDigit || c == '.' || c == 'e' || c == '+' || c == '-'

theorem isWordChar_of_isNumeric {c : Char} (numeric : isNumeric c = true) :
    isWordChar c = true := by
  simp only [isNumeric, Bool.or_eq_true, beq_iff_eq] at numeric
  rcases numeric with (((digit | rfl) | rfl) | rfl) | rfl
  · simp [isWordChar, Char.isAlphanum, digit]
  all_goals decide

theorem isNumeric_of_isDigit {c : Char} (digit : c.isDigit = true) : isNumeric c = true := by
  simp [isNumeric, digit]

/-- No keyword consists of the characters of numbers. -/
theorem keyword?_eq_none {cs : List Char} (numeric : ∀ c ∈ cs, isNumeric c = true) :
    keyword? (String.ofList cs) = none := by
  -- Every keyword has a letter that is in no number.
  have other (word : String) (letter : ∃ c ∈ word.toList, isNumeric c = false) :
      String.ofList cs ≠ word := by
    rintro rfl
    obtain ⟨c, member, plain⟩ := letter
    rw [String.toList_ofList] at member
    exact Bool.false_ne_true (plain.symm.trans (numeric c member))
  unfold keyword?
  rw [if_neg (other _ ⟨'n', by decide⟩), if_neg (other _ ⟨'t', by decide⟩),
    if_neg (other _ ⟨'f', by decide⟩), if_neg (other _ ⟨'N', by decide⟩),
    if_neg (other _ ⟨'I', by decide⟩), if_neg (other _ ⟨'I', by decide⟩)]

/-! ### Integers -/

theorem isDigit_of_mem_toDigits {n : Nat} {c : Char} (member : c ∈ Nat.toDigits 10 n) :
    c.isDigit = true :=
  Nat.isDigit_of_mem_toDigits (by decide) (by decide) member

/-- Only the number zero is written with a zero in front. -/
theorem length_of_head_zero {n : Nat} (zero : (Nat.toDigits 10 n).head? = some '0') :
    (Nat.toDigits 10 n).length = 1 := by
  induction n using Nat.strongRecOn with
  | ind n ih =>
    -- A longer numeral has the numeral of a tenth in front.
    rcases Nat.lt_or_ge n 10 with small | large
    · rw [Nat.toDigits_of_lt_base small]
      rfl
    · obtain ⟨first, rest, front⟩ := List.exists_cons_of_ne_nil
        (Nat.toDigits_ne_nil (n := n / 10) (b := 10))
      rw [Nat.toDigits_of_base_le (by decide) large, front, List.cons_append, List.head?_cons,
        ← List.head?_cons (l := rest), ← front] at zero
      -- The digits in front are those of a positive number.
      have one := ih (n / 10) (Nat.div_lt_self (by omega) (by decide)) zero
      have below : n / 10 < 10 := by
        have bound := (Nat.length_toDigits_le_iff (b := 10) (by decide)
          Nat.zero_lt_one).1 (Nat.le_of_eq one)
        simpa using bound
      rw [Nat.toDigits_of_lt_base below] at zero
      have nonzero : n / 10 ≠ 0 := by omega
      have digit : ∀ d < 10, d ≠ 0 → some (Nat.digitChar d) ≠ some '0' := by decide
      exact absurd zero (digit (n / 10) below nonzero)

theorem natural?_toDigits {n : Nat} (short : digitCount n ≤ maxDigits) :
    natural? (Nat.toDigits 10 n) = some n := by
  have digits : (Nat.toDigits 10 n).all Char.isDigit = true :=
    List.all_eq_true.2 fun _ member => isDigit_of_mem_toDigits member
  rw [natural?, if_pos ⟨Nat.toDigits_ne_nil, digits, length_of_head_zero, short⟩,
    Nat.ofDigitChars_ten_toDigits]

theorem integer?_toDigits {n : Nat} (short : digitCount n ≤ maxDigits) :
    integer? (Nat.toDigits 10 n) = some (n : Int) := by
  -- Without a sign the digits are read as they stand.
  have unsigned (rest : List Char) : Nat.toDigits 10 n ≠ '-' :: rest := by
    intro eq
    have digit : Char.isDigit '-' = true := isDigit_of_mem_toDigits (n := n) (eq ▸ .head _)
    exact absurd digit (by decide)
  unfold integer?
  split
  next rest eq => exact absurd eq (unsigned rest)
  next => rw [natural?_toDigits short, Option.map_some]

theorem toList_integer (n : Int) :
    (Decimal.integer n).toList = (if n < 0 then ['-'] else []) ++ Nat.toDigits 10 n.natAbs := by
  cases n with
  | ofNat k => simp [Decimal.integer, digits]
  | negSucc k =>
    simp only [Decimal.integer, digits, Int.negSucc_lt_zero, if_true, String.toList_append,
      String.toList_ofList, Int.natAbs_negSucc]
    rfl

theorem integer?_integer {n : Int} (writable : Decimal.isWritable n = true) :
    integer? (Decimal.integer n).toList = some n := by
  have short : digitCount n.natAbs ≤ maxDigits := of_decide_eq_true writable
  rw [toList_integer]
  split
  next negative =>
    have value : -(n.natAbs : Int) = n := by omega
    simp only [integer?, List.singleton_append, natural?_toDigits short, Option.map_some, value]
  next =>
    have value : (n.natAbs : Int) = n := by omega
    rw [List.nil_append, integer?_toDigits short, value]

theorem integral_of_mem_integer {n : Int} {c : Char} (member : c ∈ (Decimal.integer n).toList) :
    (c.isDigit || c == '-') = true := by
  rw [toList_integer, List.mem_append] at member
  rcases member with sign | digit
  · split at sign
    · simp [List.mem_singleton.1 sign]
    · cases sign
  · simp [isDigit_of_mem_toDigits digit]

theorem isNumeric_of_mem_integer {n : Int} {c : Char} (member : c ∈ (Decimal.integer n).toList) :
    isNumeric c = true := by
  have integral := integral_of_mem_integer member
  simp only [Bool.or_eq_true] at integral
  rcases integral with digit | minus <;> simp [isNumeric, *]

/-- An integer is read back. -/
theorem scalar?_integer (decode : String → Option Float) {n : Int}
    (writable : Decimal.isWritable n = true) :
    scalar? decode (Decimal.integer n).toList = some (int n) := by
  have integral : isIntegral (Decimal.integer n).toList = true :=
    List.all_eq_true.2 fun _ member => integral_of_mem_integer member
  rw [scalar?, keyword?_eq_none fun _ member => isNumeric_of_mem_integer member]
  simp only [integral, if_true, integer?_integer writable, Option.map_some]

/-! ### Finite numbers -/

section Finite

/-- The characters of a number that has a point or an exponent. -/
structure Broken (cs : List Char) : Prop where
  numeric : ∀ c ∈ cs, isNumeric c = true
  mark : '.' ∈ cs ∨ 'e' ∈ cs

theorem Broken.signed {cs : List Char} (broken : Broken cs) : Broken ('-' :: cs) where
  numeric := by
    intro c member
    rcases List.mem_cons.1 member with rfl | inside
    · rfl
    · exact broken.numeric c inside
  mark := broken.mark.imp (.tail _) (.tail _)

/-- A point or an exponent is seen before the number is taken for an integer. -/
theorem Broken.not_isIntegral {cs : List Char} (broken : Broken cs) : isIntegral cs = false := by
  apply Bool.eq_false_iff.2
  intro integral
  rw [isIntegral, List.all_eq_true] at integral
  rcases broken.mark with point | exponent
  · exact absurd (integral _ point) (by decide)
  · exact absurd (integral _ exponent) (by decide)

theorem mem_of_mem_dropTrailingZeros {cs : List Char} {c : Char}
    (member : c ∈ Shortest.dropTrailingZeros cs) : c ∈ cs := by
  rw [Shortest.dropTrailingZeros, List.mem_reverse] at member
  exact List.mem_reverse.1 ((List.dropWhile_sublist _).subset member)

variable {ds : List Char} (digits : ∀ c ∈ ds, c.isDigit = true)
include digits

theorem broken_positional (leading : Int) : Broken (Shortest.positional ds leading).toList := by
  have zero : isNumeric '0' = true := rfl
  have point : isNumeric '.' = true := rfl
  have digit (c : Char) (member : c ∈ ds) : isNumeric c = true :=
    isNumeric_of_isDigit (digits c member)
  -- Either the point comes after some digits and zeros, or zeros and all digits come after it.
  cases leading with
  | ofNat k =>
    simp only [Shortest.positional, String.toList_ofList]
    refine ⟨fun c member => ?_, .inl (by simp)⟩
    simp only [List.mem_append, List.mem_singleton, List.mem_replicate] at member
    rcases member with ((whole | ⟨-, rfl⟩) | rfl) | places
    · exact digit c (List.mem_of_mem_take whole)
    · exact zero
    · exact point
    · split at places
      · rw [List.mem_singleton.1 places]
        exact zero
      · exact digit c (List.mem_of_mem_drop places)
  | negSucc k =>
    simp only [Shortest.positional, String.toList_ofList]
    refine ⟨fun c member => ?_, .inl (by simp)⟩
    simp only [List.mem_append, List.mem_cons, List.not_mem_nil, or_false,
      List.mem_replicate] at member
    rcases member with ((rfl | rfl) | ⟨-, rfl⟩) | inside
    · exact zero
    · exact point
    · exact zero
    · exact digit c inside

theorem broken_scientific (leading : Int) : Broken (Shortest.scientific ds leading).toList := by
  have digit (c : Char) (member : c ∈ ds) : isNumeric c = true :=
    isNumeric_of_isDigit (digits c member)
  -- In front of the exponent there is a point only if there are more digits than one.
  have exponent (c : Char) (member : c ∈ (padded 2 leading.natAbs).toList) :
      isNumeric c = true := by
    simp only [padded, String.toList_ofList, List.mem_append, List.mem_replicate] at member
    rcases member with ⟨-, rfl⟩ | inside
    · rfl
    · exact isNumeric_of_isDigit (isDigit_of_mem_toDigits inside)
  have sign (c : Char) (member : c ∈ (if leading < 0 then "-" else "+").toList) :
      isNumeric c = true := by
    split at member
    · rw [List.mem_singleton.1 (show c ∈ ['-'] from member)]
      rfl
    · rw [List.mem_singleton.1 (show c ∈ ['+'] from member)]
      rfl
  simp only [Shortest.scientific, String.toList_append, String.toList_ofList]
  refine ⟨fun c member => ?_, .inr (by simp)⟩
  simp only [List.mem_append] at member
  rcases member with (((front | tail) | mark) | signed) | power
  · exact digit c (List.mem_of_mem_take front)
  · split at tail
    · cases tail
    · rcases List.mem_cons.1 tail with rfl | inside
      · rfl
      · exact digit c (List.mem_of_mem_drop inside)
  · rw [List.mem_singleton.1 (show c ∈ ['e'] from mark)]
    rfl
  · exact sign c signed
  · exact exponent c power

omit digits in
theorem broken_magnitude (significand : Nat) (exponent : Int) :
    Broken (Shortest.magnitude significand exponent).toList := by
  have digits (point : Nat) (c : Char)
      (member : c ∈ Shortest.dropTrailingZeros (Nat.toDigits 10 point)) : c.isDigit = true :=
    isDigit_of_mem_toDigits (mem_of_mem_dropTrailingZeros member)
  unfold Shortest.magnitude
  dsimp only
  split
  · exact broken_positional (digits _) _
  · exact broken_scientific (digits _) _

omit digits in
/-- The text of a finite number is no integer and no keyword. -/
theorem broken_text {x : Float} {negative : Bool} {significand : Nat} {exponent : Int}
    (finite : Binary64.ofFloat x = .finite negative significand exponent) :
    Broken (Shortest.text x).toList := by
  -- Zero has a text of its own.
  have unsigned : Broken
      (if significand = 0 then "0.0" else Shortest.magnitude significand exponent).toList := by
    split
    · exact ⟨List.all_eq_true.1 (by decide), by decide⟩
    · exact broken_magnitude significand exponent
  rw [Shortest.text, finite]
  cases negative with
  | true =>
    simp only [if_true, String.toList_append]
    exact unsigned.signed
  | false =>
    simp only [Bool.false_eq_true, if_false, String.toList_append]
    exact unsigned

end Finite

/-- The word of a number consists of characters of words. -/
theorem isWordChar_of_mem_number {x : Float} {c : Char} (member : c ∈ (number x).toList) :
    isWordChar c = true := by
  unfold number at member
  split at member
  next =>
    exact List.all_eq_true.1 (by decide : "NaN".toList.all isWordChar = true) c member
  next negative _ =>
    have all (negative : Bool) :
        (if negative then "-Infinity" else "Infinity").toList.all isWordChar = true := by
      cases negative <;> decide
    exact List.all_eq_true.1 (all negative) c member
  next finite => exact isWordChar_of_isNumeric ((broken_text finite).numeric c member)

theorem number_ne_nil (x : Float) : (number x).toList ≠ [] := by
  unfold number
  split
  next => decide
  next negative _ => cases negative <;> decide
  next finite =>
    intro empty
    rcases (broken_text finite).mark with point | exponent
    · rw [empty] at point
      cases point
    · rw [empty] at exponent
      cases exponent

/-- A number is read back: those that are not finite by their words, the others by the decoder. -/
theorem scalar?_number {decode : String → Option Float} {x : Float} (denotes : Denotes decode x) :
    scalar? decode (number x).toList = some (float x) := by
  unfold number
  split
  next nan =>
    rw [Binary64.eq_of_nan nan]
    rfl
  next negative infinite =>
    rw [Binary64.eq_of_infinite infinite]
    cases negative <;> rfl
  next finite =>
    have broken := broken_text finite
    have decoded : decode (Shortest.text x) = some x := denotes ⟨_, _, _, finite⟩
    rw [scalar?, keyword?_eq_none broken.numeric]
    simp only [broken.not_isIntegral, Bool.false_eq_true, if_false, String.ofList_toList, decoded,
      Option.map_some]

end Json

end Volley
