import Volley.Calendar

/-!
# Points in time that can be written

Every point in time in the years from 1 to 9999, but for the first and the last second of them, can
be written in both ways: rounding it moves it by a second at most.

## Main definitions

- `Calendar.Dated`: a point in time in these years.

## Main results

- `year_bounds`: the years of the days.
- `isSome_plainText?`, `isSome_isoText?`: such a point in time can be written.
-/

namespace Volley

namespace Calendar

open Decimal

/-- The first and the last second of the years that have one to four digits. -/
def firstSecond : Int := -62135596800

def lastSecond : Int := 253402300799

/-- A point in time between these seconds. -/
def Dated (x : Float) : Prop :=
  ∃ seconds, wholeOf? x = some seconds ∧ firstSecond < seconds ∧ seconds < lastSecond

/-- The years of the days. The first of the days is in January and the last in December: the years
of the count begin in March, so the one is late and the other early in its year. -/
theorem year_ofDays {days : Int} (after : -719162 ≤ days) (before : days ≤ 2932896) :
    1 ≤ (ofDays days).year ∧ (ofDays days).year ≤ 9999 := by
  obtain ⟨era, day, eras, count, sum, short⟩ : ∃ era day : Nat,
      (days + 719468).fdiv 146097 = era ∧ (days + 719468 - (era : Int) * 146097).toNat = day ∧
        146097 * era + day = days + 719468 ∧ day < 146097 := by
    rw [Int.fdiv_eq_ediv_of_nonneg _ (by decide)]
    exact ⟨((days + 719468) / 146097).toNat, ((days + 719468) % 146097).toNat, by omega, by omega,
      by omega, by omega⟩
  -- The year and the day are given names, as the arithmetic is done on them.
  obtain ⟨year, years⟩ : ∃ year, (day - day / 1460 + day / 36524 - day / 146096) / 365 = year :=
    ⟨_, rfl⟩
  obtain ⟨rest, left⟩ : ∃ rest, day - (365 * year + year / 4 - year / 100) = rest := ⟨_, rfl⟩
  have last : year ≤ 399 := by omega
  simp only [ofDays, eras, count, years, left]
  split <;> split <;> omega

theorem year_bounds {seconds : Int} (after : firstSecond ≤ seconds)
    (before : seconds ≤ lastSecond) :
    1 ≤ (dateOf seconds).year ∧ (dateOf seconds).year ≤ 9999 := by
  unfold firstSecond at after
  unfold lastSecond at before
  rw [dateOf, Int.fdiv_eq_ediv_of_nonneg _ (by decide)]
  exact year_ofDays (by omega) (by omega)

/-- A quotient that is rounded up is the one that is rounded down, or one more. -/
theorem divUp_eq (num den : Nat) :
    (num + den - 1) / den = num / den ∨ (num + den - 1) / den = num / den + 1 := by
  rcases Nat.eq_zero_or_pos den with rfl | positive
  · simp
  · have least : num / den ≤ (num + den - 1) / den := Nat.div_le_div_right (by omega)
    have most : (num + den - 1) / den ≤ (num + den) / den := Nat.div_le_div_right (by omega)
    rw [Nat.add_div_right num positive] at most
    omega

/-- A number is rounded down to the part before its point, or to one less. -/
theorem floorOf?_of_wholeOf? {x : Float} {whole : Int} (found : wholeOf? x = some whole) :
    floorOf? x = some whole ∨ floorOf? x = some (whole - 1) := by
  unfold wholeOf? at found
  unfold floorOf?
  split at found
  next negative significand exponent _ =>
    generalize Binary64.quotient significand exponent = magnitude at found ⊢
    obtain ⟨num, den⟩ := magnitude
    cases negative with
    | false => exact .inl found
    | true =>
      cases found
      simp only [if_true, Option.some.injEq]
      rcases divUp_eq num den with same | more <;> omega
  · cases found

theorem isSome_plainText? {x : Float} (dated : Dated x) : (plainText? x).isSome := by
  obtain ⟨whole, found, after, before⟩ := dated
  -- Rounding down takes off at most the one second that is left between the bounds.
  have near : ∃ seconds, floorOf? x = some seconds ∧ firstSecond ≤ seconds ∧
      seconds ≤ lastSecond := by
    rcases floorOf?_of_wholeOf? found with floor | floor
    · exact ⟨whole, floor, by omega, by omega⟩
    · exact ⟨whole - 1, floor, by omega, by omega⟩
  obtain ⟨seconds, floor, low, high⟩ := near
  obtain ⟨least, most⟩ := year_bounds low high
  have inside : -2147481748 ≤ (dateOf seconds).year ∧ (dateOf seconds).year ≤ 2147483647 := by
    omega
  simp [plainText?, floor, inside]

theorem isSome_isoText? {x : Float} (dated : Dated x) : (isoText? x).isSome := by
  obtain ⟨whole, found, after, before⟩ := dated
  -- The microseconds carry into the seconds or borrow from them, one at most.
  have near : ∃ seconds micros, microseconds? x = some (seconds, micros) ∧
      firstSecond ≤ seconds ∧ seconds ≤ lastSecond := by
    simp only [microseconds?, found, Option.map_some]
    split
    · exact ⟨whole + 1, _, rfl, by omega, by omega⟩
    · split
      · exact ⟨whole - 1, _, rfl, by omega, by omega⟩
      · exact ⟨whole, _, rfl, by omega, by omega⟩
  obtain ⟨seconds, micros, rounded, low, high⟩ := near
  have inside := year_bounds low high
  simp [isoText?, rounded, inside]

end Calendar

end Volley
