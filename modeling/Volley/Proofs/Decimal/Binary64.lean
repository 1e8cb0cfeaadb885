import Volley.Decimal.Binary64

/-!
# Which binary64 numbers there are

Of the numbers that are not finite there are three: one that is no number, and two infinities. A
quotient of at most one is finite.

## Main results

- `Binary64.eq_of_nan`, `Binary64.eq_of_infinite`: the numbers that are not finite.
- `Binary64.zero_lt_or_isNaN`: a number that is not at most zero is positive or no number.
- `Binary64.nearestBits_lt_of_le`: the quotient of a number and one that is not smaller is finite.
-/

namespace Volley.Decimal

theorem roundHalfEven_le (num den : Nat) : roundHalfEven num den ≤ num / den + 1 := by
  unfold roundHalfEven
  dsimp only
  split
  · omega
  · split
    · omega
    · split <;> omega

namespace Binary64

/-! ### The numbers that are not finite -/

theorem eq_of_toBits {x y : Float} (same : x.toBits = y.toBits) : x = y := by
  obtain ⟨⟨bits, _⟩⟩ := x
  obtain ⟨⟨bits', _⟩⟩ := y
  have eq : bits = bits' := same
  subst eq
  rfl

open Float.Model in
/-- There is only one number that is no number. -/
theorem eq_of_nan {x : Float} (nan : ofFloat x = .nan) : x = Float.ofBits 0x7FF8000000000000 := by
  have canonical : (Float.ofBits 0x7FF8000000000000).toBits = 0x7FF8000000000000 := by
    decide +kernel
  have packed : UnpackedFloat.packedNaN .binary64 = (0x7FF8000000000000 : UInt64).toBitVec := by
    decide +kernel
  apply eq_of_toBits
  obtain ⟨⟨bits, valid⟩⟩ := x
  have same : ofFloat ⟨⟨bits, valid⟩⟩ = ofBits bits.toBitVec.toNat := rfl
  -- Its bits have the largest exponent and a fraction, which the type allows for one number only.
  rw [same] at nan
  rw [canonical]
  apply UInt64.toBitVec_inj.1
  rw [← packed]
  simp only [ofBits] at nan
  split at nan
  next top =>
    split at nan
    · cases nan
    next fraction =>
      apply valid.eq_packedNaN
      · apply BitVec.eq_of_toNat_eq
        simp only [UnpackedFloat.unpackExponent, BitVec.toNat_cast, BitVec.extractLsb_toNat,
          Nat.shiftRight_eq_div_pow]
        exact top
      · intro zero
        have low := congrArg BitVec.toNat zero
        simp only [UnpackedFloat.unpackMantissa, BitVec.toNat_cast, BitVec.extractLsb_toNat,
          Nat.shiftRight_eq_div_pow] at low
        exact fraction (by simpa using low)
  next => split at nan <;> cases nan

theorem eq_of_infinite {x : Float} {negative : Bool} (infinite : ofFloat x = .infinite negative) :
    x = Float.ofBits (if negative then 0xFFF0000000000000 else 0x7FF0000000000000) := by
  have above : (Float.ofBits 0x7FF0000000000000).toBits = 0x7FF0000000000000 := by decide +kernel
  have below : (Float.ofBits 0xFFF0000000000000).toBits = 0xFFF0000000000000 := by decide +kernel
  have small := x.toBits.toNat_lt
  simp only [ofFloat, ofBits, Nat.pow_eq] at infinite
  apply eq_of_toBits
  apply UInt64.toNat_inj.1
  split at infinite
  next top =>
    split at infinite
    next zero =>
      -- Nothing but the sign is left open.
      cases infinite
      by_cases sign : 2 ^ 63 ≤ x.toBits.toNat
      · simp only [sign, decide_true, if_true, below, UInt64.reduceToNat]
        omega
      · simp only [sign, decide_false, Bool.false_eq_true, if_false, above, UInt64.reduceToNat]
        omega
    · cases infinite
  next => split at infinite <;> cases infinite

/-! ### Comparison with zero -/

open Float.Model in
/-- Whoever refuses what is at most zero lets pass what is no number at all. -/
theorem zero_lt_or_isNaN {x : Float} (above : ¬ x ≤ 0) : 0 < x ∨ x.isNaN = true := by
  have zero : (0 : Float).toModel.unpack = .zero .positive := rfl
  have le : x ≤ 0 ↔ x.toModel.unpack.le (0 : Float).toModel.unpack = true := decide_eq_true_iff
  have lt : 0 < x ↔ (0 : Float).toModel.unpack.lt x.toModel.unpack = true := decide_eq_true_iff
  have undefined : x.isNaN = x.toModel.unpack.isNaN := rfl
  rw [le, zero] at above
  rw [lt, zero, undefined]
  -- By the kinds of unpacked numbers: only the first is neither positive nor at most zero.
  generalize x.toModel.unpack = number at above ⊢
  cases number with
  | notANumber => exact .inr rfl
  | zero sign => exact absurd rfl above
  | infinity sign =>
    cases sign with
    | positive => exact .inl rfl
    | negative => exact absurd rfl above
  | finite sign significand exponent positive =>
    cases sign with
    | positive => exact .inl rfl
    | negative => exact absurd rfl above

/-! ### Quotients in range -/

/-- Scaled to the exponent of its significand, a quotient has less than 54 bits. -/
theorem scaleDown_le {num den : Nat} (positive : den ≠ 0) {exponent : Int} (negative : exponent < 0)
    (fits : (num.log2 : Int) - (den.log2 : Int) - 53 ≤ exponent) :
    (scaleDown num den exponent).1 / (scaleDown num den exponent).2 ≤ Nat.pow 2 54 := by
  obtain ⟨k, rfl⟩ : ∃ k, exponent = .negSucc k := Int.eq_negSucc_of_lt_zero negative
  -- The logarithms bound both numbers by powers of two.
  have above : num < 2 ^ (num.log2 + 1) := Nat.lt_log2_self
  have below : 2 ^ den.log2 ≤ den := Nat.log2_self_le positive
  have powers : num.log2 + 1 + (k + 1) ≤ 54 + den.log2 := by omega
  simp only [scaleDown, Nat.pow_eq]
  apply Nat.div_le_of_le_mul
  calc num * 2 ^ (k + 1) ≤ 2 ^ (num.log2 + 1) * 2 ^ (k + 1) :=
        Nat.mul_le_mul_right _ (Nat.le_of_lt above)
    _ = 2 ^ (num.log2 + 1 + (k + 1)) := (Nat.pow_add ..).symm
    _ ≤ 2 ^ (54 + den.log2) := Nat.pow_le_pow_right (by decide) powers
    _ = 2 ^ 54 * 2 ^ den.log2 := Nat.pow_add ..
    _ ≤ 2 ^ 54 * den := Nat.mul_le_mul_left _ below
    _ = den * 2 ^ 54 := Nat.mul_comm ..

/-- A quotient of at most one is in the range of binary64 numbers. -/
theorem nearestBits_lt_of_le {num den : Nat} (small : num ≤ den) :
    nearestBits num den < 2047 * Nat.pow 2 52 := by
  unfold nearestBits
  split
  · decide
  next positive =>
    have positive := not_or.1 positive
    have order : num.log2 ≤ den.log2 :=
      (Nat.le_log2 positive.2).2 (Nat.le_trans (Nat.log2_self_le positive.1) small)
    -- Whether or not the guess was one too high, the exponent is negative and at most that low.
    have scaled (fitted : Int) (low : (num.log2 : Int) - (den.log2 : Int) - 53 ≤ fitted)
        (high : fitted ≤ -52) :
        (max fitted (-1074) + 1074).toNat * Nat.pow 2 52 +
          roundHalfEven (scaleDown num den (max fitted (-1074))).1
            (scaleDown num den (max fitted (-1074))).2 < 2047 * Nat.pow 2 52 := by
      have bound : (scaleDown num den (max fitted (-1074))).1 /
          (scaleDown num den (max fitted (-1074))).2 ≤ Nat.pow 2 54 :=
        scaleDown_le positive.2 (by omega) (by omega)
      have rounded := roundHalfEven_le (scaleDown num den (max fitted (-1074))).1
        (scaleDown num den (max fitted (-1074))).2
      have exponent : (max fitted (-1074) + 1074).toNat ≤ 1022 := by omega
      have weight := Nat.mul_le_mul_right (Nat.pow 2 52) exponent
      simp only [Nat.pow_eq] at bound weight ⊢
      omega
    apply Nat.lt_of_le_of_lt (Nat.min_le_left ..)
    apply scaled
    · split <;> omega
    · split <;> omega

end Binary64

end Volley.Decimal
