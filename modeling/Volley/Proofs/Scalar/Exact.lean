import Volley.Scalar.Rational

/-!
# Exact clocks

Times are exact when they are added and compared without rounding, as rational numbers are. A
statement about the time at which something happens is true of an exact clock only: a rounded sum
may lie on either side of a limit.

## Main definitions

- `Scalar.Exact`: the order is total, and addition is associative and keeps it.
- The instance for the rational numbers.
-/

namespace Volley

/-- Addition and order of a number type are exact. -/
class Scalar.Exact (τ : Type) [Scalar τ] : Prop where
  le_refl : ∀ a : τ, a ≤ a
  le_trans : ∀ a b c : τ, a ≤ b → b ≤ c → a ≤ c
  le_antisymm : ∀ a b : τ, a ≤ b → b ≤ a → a = b
  le_total : ∀ a b : τ, a ≤ b ∨ b ≤ a
  lt_iff : ∀ a b : τ, a < b ↔ ¬ b ≤ a
  add_zero : ∀ a : τ, a + 0 = a
  add_assoc : ∀ a b c : τ, a + b + c = a + (b + c)
  add_le_add_left : ∀ a b c : τ, b ≤ c → a + b ≤ a + c
  add_le_add_right : ∀ a b c : τ, a ≤ b → a + c ≤ b + c
  ofNat_nonneg : ∀ n : Nat, (0 : τ) ≤ Scalar.ofNat n
  ofNat_add : ∀ m n : Nat, (Scalar.ofNat (m + n) : τ) = Scalar.ofNat m + Scalar.ofNat n

instance : Scalar.Exact Rat where
  le_refl _ := Rat.le_refl
  le_trans _ _ _ := Rat.le_trans
  le_antisymm _ _ := Rat.le_antisymm
  le_total _ _ := Rat.le_total
  lt_iff _ _ := Rat.not_le.symm
  add_zero := Rat.add_zero
  add_assoc := Rat.add_assoc
  add_le_add_left _ _ _ := Rat.add_le_add_left.mpr
  add_le_add_right _ _ _ := Rat.add_le_add_right.mpr
  ofNat_nonneg n := by
    change (0 : Rat) ≤ ((n : Int) : Rat) / ((1 : Int) : Rat)
    rw [Int.cast_one, div_one]
    exact_mod_cast Nat.zero_le n
  ofNat_add m n := by
    change (((m + n : Nat) : Int) : Rat) / ((1 : Int) : Rat) =
      ((m : Int) : Rat) / ((1 : Int) : Rat) + ((n : Int) : Rat) / ((1 : Int) : Rat)
    simp

namespace Scalar.Exact

variable {τ : Type} [Scalar τ] [Scalar.Exact τ]

theorem le_add {a b : τ} (nonneg : 0 ≤ b) : a ≤ a + b := by
  have more := add_le_add_left a 0 b nonneg
  rwa [add_zero] at more

theorem le_of_lt {a b : τ} (less : a < b) : a ≤ b := by
  rcases le_total a b with le | ge
  · exact le
  · exact absurd ge ((lt_iff a b).mp less)

/-- Seconds that are added one after another. -/
theorem add_ofNat (a : τ) (m n : Nat) :
    a + Scalar.ofNat m + Scalar.ofNat n = a + Scalar.ofNat (m + n) := by
  rw [add_assoc, ← ofNat_add]

theorem add_ofNat_le (a : τ) {m n : Nat} (le : m ≤ n) :
    a + Scalar.ofNat m ≤ a + (Scalar.ofNat n : τ) := by
  obtain ⟨k, rfl⟩ := Nat.exists_eq_add_of_le le
  rw [← add_ofNat]
  exact le_add (ofNat_nonneg k)

end Scalar.Exact

end Volley
