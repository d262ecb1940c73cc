import ShapeInference.Proofs.Decimal.Shortest
import ShapeInference.Proofs.Json.Doubles
import ShapeInference.Proofs.Json.Numerals

/-! The text of a finite double is read as a double again.

It may be another one, as reading rounds more than once, but it never exceeds the doubles. For most
doubles the errors leave room below the bound. The four largest are run.
-/

set_option autoImplicit false

namespace ShapeInference.Json

open Magnitude (Finite)

variable {x : Magnitude}

/-- The four largest doubles are too close to the bound for what holds of the others. -/
theorem readable_largest : ∀ below < 4, (scale?
    (Magnitude.shortest ⟨2 ^ 53 - 1 - below, 971⟩).strip.digits
    (Magnitude.shortest ⟨2 ^ 53 - 1 - below, 971⟩).strip.exponent).isSome = true := by
  decide +kernel

theorem value_strip_le {d : Decimal} (positive : 0 < d.digits) :
    (d.strip.digits : ℚ) * 10 ^ d.strip.exponent ≤ d.digits * 10 ^ d.exponent := by
  obtain ⟨zeros, same, _⟩ := Decimal.exists_strip positive
  rw [same, zpow_add₀ (by norm_num), zpow_natCast]
  have power : (0 : ℚ) < 10 ^ zeros := by positivity
  have less : ((d.digits / 10 ^ zeros : Nat) : ℚ) * 10 ^ zeros ≤ d.digits := by
    exact_mod_cast Nat.div_mul_le_self d.digits (10 ^ zeros)
  have scale : (0 : ℚ) ≤ 10 ^ d.exponent := by positivity
  calc ((d.digits / 10 ^ zeros : Nat) : ℚ) * (10 ^ d.exponent * 10 ^ zeros)
    _ = (d.digits / 10 ^ zeros : Nat) * 10 ^ zeros * 10 ^ d.exponent := by ring
    _ ≤ d.digits * 10 ^ d.exponent := mul_le_mul_of_nonneg_right less scale

theorem strip_positive {d : Decimal} (positive : 0 < d.digits) : 0 < d.strip.digits := by
  obtain ⟨zeros, same, power⟩ := Decimal.exists_strip positive
  rw [same]
  exact Nat.div_pos power (Nat.pow_pos (by decide))

/-- Half a unit above a double that is not among the four largest, there is room for the errors. -/
theorem room_of_finite (finite : x.Finite)
    (room : x.exponent ≤ 970 ∨ x.significand < 2 ^ 53 - 4) :
    (x.value + 2 ^ x.exponent / 2) * (1 + 1 / 2 ^ 53) ^ 2 < Magnitude.bound := by
  have half : x.value + 2 ^ x.exponent / 2 = (x.significand + 1 / 2) * 2 ^ x.exponent := by
    rw [Magnitude.value]
    ring
  have most : (x.significand + 1 / 2 : ℚ) * 2 ^ x.exponent ≤ (2 ^ 53 - 9 / 2) * 2 ^ (971 : ℤ) := by
    rcases room with low | few
    · have bits : (x.significand : ℚ) + 1 ≤ 2 ^ 53 := by exact_mod_cast finite.bits
      have double : (2 : ℚ) ^ (971 : ℤ) = 2 * 2 ^ (970 : ℤ) := zpow_one_add₀ two_ne_zero 970
      rw [double, ← mul_assoc]
      exact mul_le_mul (by linarith) (zpow_le_zpow_right₀ (by norm_num) low) (by positivity)
        (by norm_num)
    · have few : (x.significand : ℚ) + 5 ≤ 2 ^ 53 := by
        have : x.significand + 5 ≤ 2 ^ 53 := by omega
        exact_mod_cast this
      exact mul_le_mul (by linarith) (zpow_le_zpow_right₀ (by norm_num) finite.greatest)
        (by positivity) (by norm_num)
  have unit_pos : (0 : ℚ) < 2 ^ (971 : ℤ) := by positivity
  rw [half, Magnitude.bound]
  generalize (2 : ℚ) ^ (971 : ℤ) = unit at most unit_pos ⊢
  calc (x.significand + 1 / 2 : ℚ) * 2 ^ x.exponent * (1 + 1 / 2 ^ 53) ^ 2
    _ ≤ (2 ^ 53 - 9 / 2) * unit * (1 + 1 / 2 ^ 53) ^ 2 :=
      mul_le_mul_of_nonneg_right most (by norm_num)
    _ < (2 ^ 53 - 1 / 2) * unit := by
      norm_num
      linarith

theorem exists_scale?_shortest (finite : x.Finite) (positive : 0 < x.significand)
    (digits : 0 < x.shortest.digits) (up : 0 ≤ x.shortest.strip.exponent) :
    ∃ y, scale? x.shortest.strip.digits x.shortest.strip.exponent = some y := by
  by_cases room : x.exponent ≤ 970 ∨ x.significand < 2 ^ 53 - 4
  · refine exists_scale? (strip_positive digits) up ?_
    refine lt_of_le_of_lt ?_ (room_of_finite finite room)
    have least := (value_strip_le digits).trans (finite.shortest_le positive).2
    exact mul_le_mul_of_nonneg_right least (by norm_num)
  · have bits := finite.bits
    have greatest := finite.greatest
    obtain ⟨significand, exponent⟩ := x
    dsimp only at room bits greatest
    obtain rfl : exponent = 971 := by omega
    obtain ⟨below, less, rfl⟩ : ∃ below < 4, significand = 2 ^ 53 - 1 - below :=
      ⟨2 ^ 53 - 1 - significand, by omega, by omega⟩
    exact Option.isSome_iff_exists.1 (readable_largest below less)

theorem double_ok {negative : Bool} {significand : Nat} {exponent : Int} {y : Magnitude}
    {rest : List Char} (scaled : scale? significand exponent = some y) :
    double negative significand exponent rest = .ok (.double ⟨negative, y⟩, rest) := by
  rw [double, scaled]

theorem exists_readNumber_shortest (finite : x.Finite) (negative : Bool) :
    ∃ y, readNumber negative x.shortest.text.toList = .ok (.double ⟨negative, y⟩, []) := by
  have fits : x.shortest.digits ≤ 10 ^ 17 ∧ x.shortest.exponent.natAbs ≤ 1000 := by
    rcases Nat.eq_zero_or_pos x.significand with none | positive
    · rw [Magnitude.shortest, if_pos none]
      decide
    · exact ⟨(finite.shortest_le positive).1, (finite.shortest_near positive).trans (by decide)⟩
  obtain ⟨significand, exponent, read, small, case⟩ :=
    exists_readNumber_text fits.1 fits.2 negative
  suffices scaled : ∃ y, scale? significand exponent = some y by
    obtain ⟨y, scaled⟩ := scaled
    exact ⟨y, read.trans (double_ok scaled)⟩
  rcases lt_or_ge exponent 0 with down | up
  · exact exists_scale?_down small down
  · obtain down | ⟨digits, rfl, rfl⟩ := case
    · omega
    · refine exists_scale?_shortest finite (Nat.pos_of_ne_zero fun none => ?_) digits up
      rw [Magnitude.shortest, if_pos none] at digits
      exact absurd digits (by decide)

end ShapeInference.Json
