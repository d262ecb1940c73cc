import ShapeInference.Json.NumberReader
import ShapeInference.Proofs.Decimal.Rounding

/-! Which doubles are read, and from which decimals.

Every double that is read is finite. A decimal is read as one if it is well below the bound of the
doubles: its digits, its power of ten and their product are rounded, each up by a `2^53`-th part at
most.
-/

set_option autoImplicit false

namespace ShapeInference.Json

open Magnitude (Finite)

variable {significand : Nat} {exponent : Int} {x : Magnitude}

theorem finite_scaleDown (finite : x.Finite) (count : Nat) : (scaleDown x count).Finite := by
  have byPower (x : Magnitude) (k : Nat) :
      (((Magnitude.ofNat? (Nat.pow 10 k)).bind fun power => x.div? power).getD .zero).Finite := by
    cases quotient : (Magnitude.ofNat? (Nat.pow 10 k)).bind fun power => x.div? power with
    | none => exact Magnitude.finite_zero
    | some y =>
      obtain ⟨power, _, same⟩ := Option.bind_eq_some_iff.1 quotient
      exact Magnitude.finite_of_ofRatio? same
  fun_induction scaleDown x count with
  | case1 x count => exact byPower x count
  | case2 x count => exact finite
  | case3 x count _ _ _ ih => exact ih (byPower x 308)

theorem finite_scale? (ok : scale? significand exponent = some x) : x.Finite := by
  obtain ⟨y, digits, ok⟩ := Option.bind_eq_some_iff.1 ok
  have finite := Magnitude.finite_of_ofRatio? digits
  split at ok
  · cases ok
    exact finite_scaleDown finite _
  · split at ok
    · obtain ⟨power, _, ok⟩ := Option.bind_eq_some_iff.1 ok
      exact Magnitude.finite_of_ofRatio? ok
    · split at ok
      · cases ok
        exact finite
      · cases ok

theorem exists_ofNat? {n : Nat} (small : (n : ℚ) < Magnitude.bound) :
    ∃ x, Magnitude.ofNat? n = some x :=
  Magnitude.exists_ofRatio? one_pos (by rwa [Nat.cast_one, div_one])

theorem value_le_of_ofNat? {n : Nat} (positive : 0 < n) (ok : Magnitude.ofNat? n = some x) :
    x.value ≤ n * (1 + 1 / 2 ^ 53) := by
  have large : (1 : ℚ) ≤ n / (1 : Nat) := by
    rw [Nat.cast_one, div_one]
    exact_mod_cast positive
  simpa only [Nat.cast_one, div_one] using Magnitude.value_le_of_ofRatio? one_pos large ok

/-- Below one there is no bound, as digits of 64 bits are far from it. -/
theorem exists_scale?_down (small : significand ≤ maxUnsigned) (down : exponent < 0) :
    ∃ x, scale? significand exponent = some x := by
  have below : (significand : ℚ) < Magnitude.bound := by
    have most : (significand : ℚ) < 2 ^ 64 := by
      have : significand < 2 ^ 64 := lt_of_le_of_lt small (by decide)
      exact_mod_cast this
    have wide : (2 : ℚ) ^ (20 : ℤ) ≤ 2 ^ (971 : ℤ) := zpow_le_zpow_right₀ (by norm_num) (by norm_num)
    rw [Magnitude.bound]
    generalize (2 : ℚ) ^ (971 : ℤ) = unit at wide
    norm_num at wide
    linarith
  obtain ⟨x, same⟩ := exists_ofNat? below
  exact ⟨scaleDown x (-exponent).toNat, by rw [scale?, same]; exact if_pos down⟩

theorem bound_lt : Magnitude.bound < ((10 ^ 309 : Nat) : ℚ) := by
  have wide : ((2 ^ 1024 : Nat) : ℚ) < ((10 ^ 309 : Nat) : ℚ) := by
    exact_mod_cast (by decide +kernel : 2 ^ 1024 < 10 ^ 309)
  have positive : (0 : ℚ) < 2 ^ (971 : ℤ) := by positivity
  rw [Nat.cast_pow, Nat.cast_ofNat, Magnitude.two_pow_eq] at wide
  rw [Magnitude.bound]
  generalize (2 : ℚ) ^ (971 : ℤ) = unit at wide positive
  linarith

theorem exists_scale? (positive : 0 < significand) (up : 0 ≤ exponent)
    (small : (significand : ℚ) * 10 ^ exponent * (1 + 1 / 2 ^ 53) ^ 2 < Magnitude.bound) :
    ∃ x, scale? significand exponent = some x := by
  obtain ⟨k, rfl⟩ := Int.eq_ofNat_of_zero_le up
  rw [zpow_natCast] at small
  have digits : (1 : ℚ) ≤ significand := by exact_mod_cast positive
  have power : (1 : ℚ) ≤ 10 ^ k := one_le_pow₀ (by norm_num)
  have grows : (significand : ℚ) * 10 ^ k ≤ significand * 10 ^ k * (1 + 1 / 2 ^ 53) ^ 2 := by
    refine le_mul_of_one_le_right (by positivity) ?_
    norm_num
  have ten : ((Nat.pow 10 k : Nat) : ℚ) = 10 ^ k := by
    rw [Nat.pow_eq]
    push_cast
    rfl
  obtain ⟨x, first⟩ := exists_ofNat? ((le_mul_of_one_le_right (by positivity) power).trans_lt
    (grows.trans_lt small))
  have powerSmall : ((Nat.pow 10 k : Nat) : ℚ) < Magnitude.bound := by
    rw [ten]
    exact (le_mul_of_one_le_left (by positivity) digits).trans_lt (grows.trans_lt small)
  obtain ⟨y, second⟩ := exists_ofNat? powerSmall
  have short : k ≤ 308 := by
    have less : Nat.pow 10 k < 10 ^ 309 := by exact_mod_cast powerSmall.trans bound_lt
    have := (Nat.pow_lt_pow_iff_right (by decide : 1 < 10)).1 less
    omega
  have product : ((x.ratio.1 * y.ratio.1 : Nat) : ℚ) / (x.ratio.2 * y.ratio.2 : Nat) < Magnitude.bound := by
    have left := value_le_of_ofNat? positive first
    have right : y.value ≤ 10 ^ k * (1 + 1 / 2 ^ 53) := by
      rw [← ten]
      exact value_le_of_ofNat? (Nat.pow_pos (by decide)) second
    push_cast
    rw [mul_div_mul_comm, x.ratio_eq, y.ratio_eq]
    refine (mul_le_mul left right y.value_nonneg (by positivity)).trans_lt (lt_of_eq_of_lt ?_ small)
    ring
  obtain ⟨z, rounded⟩ := Magnitude.exists_ofRatio? (Nat.mul_pos x.ratio_pos y.ratio_pos) product
  refine ⟨z, ?_⟩
  rw [scale?, first]
  have notDown : ¬ (k : Int) < 0 := by omega
  have atMost : (k : Int) ≤ 308 := by omega
  simp only [Option.bind_eq_bind, Option.bind_some, if_neg notDown, if_pos atMost,
    Int.toNat_natCast, second]
  exact rounded

end ShapeInference.Json
