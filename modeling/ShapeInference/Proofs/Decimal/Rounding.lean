import Mathlib.Algebra.Order.Field.Power
import Mathlib.Algebra.Order.Field.Rat
import Mathlib.Tactic.FieldSimp
import Mathlib.Tactic.Linarith
import Mathlib.Tactic.NormNum
import Mathlib.Tactic.Positivity
import Mathlib.Tactic.Ring
import ShapeInference.Decimal.Binary64

/-! Rounding to doubles, in exact fractions.

A fraction is rounded in units in which it has 53 bits, or in the smallest units that there are. So
the result is at most half a unit more than the fraction, which is at most a `2^53`-th part of it.
Every fraction up to half a unit beyond the largest double has a result.
-/

set_option autoImplicit false

namespace ShapeInference

theorem divRoundEven_le {num den : Nat} (positive : 0 < den) :
    (divRoundEven num den : ℚ) ≤ num / den + 1 / 2 := by
  have twice : 2 * (den * divRoundEven num den) ≤ 2 * num + den := by
    have whole := Nat.div_add_mod num den
    have small := Nat.mod_lt num positive
    dsimp only [divRoundEven]
    split
    · rw [Nat.mul_add]
      omega
    · omega
  have positive : (0 : ℚ) < den := by exact_mod_cast positive
  have twice : (2 : ℚ) * (den * divRoundEven num den) ≤ 2 * num + den := by exact_mod_cast twice
  rw [div_add' _ _ _ positive.ne', le_div_iff₀ positive]
  linarith

namespace Magnitude

def value (x : Magnitude) : ℚ := x.significand * 2 ^ x.exponent

theorem value_nonneg (x : Magnitude) : 0 ≤ x.value := by
  unfold value
  positivity

structure Finite (x : Magnitude) : Prop where
  bits : x.significand < 2 ^ 53
  least : -1074 ≤ x.exponent
  greatest : x.exponent ≤ 971

theorem finite_zero : Finite zero := ⟨by decide, by decide, by decide⟩

/-- Half a unit beyond the largest double. -/
def bound : ℚ := (2 ^ 53 - 1 / 2) * 2 ^ (971 : ℤ)

theorem ratio_pos (x : Magnitude) : 0 < x.ratio.2 := Nat.pow_pos (by decide)

theorem zpow_split {base : ℚ} (nonzero : base ≠ 0) (n : ℕ) {k l : ℤ} (sum : k = n + l) :
    base ^ k = base ^ n * base ^ l := by
  rw [sum, zpow_add₀ nonzero, zpow_natCast]

theorem two_pow_eq : (2 : ℚ) ^ (1024 : ℕ) = 2 ^ 53 * 2 ^ (971 : ℤ) := by
  rw [← zpow_natCast]
  exact zpow_split two_ne_zero 53 rfl

theorem zpow_eq_div (base : ℚ) (positive : 0 < base) (exponent : ℤ) :
    base ^ exponent = base ^ exponent.toNat / base ^ (-exponent).toNat := by
  have split : exponent = (exponent.toNat : ℤ) - ((-exponent).toNat : ℤ) := by omega
  conv_lhs => rw [split, zpow_sub₀ positive.ne', zpow_natCast, zpow_natCast]

theorem ratio_eq (x : Magnitude) : (x.ratio.1 : ℚ) / x.ratio.2 = x.value := by
  rw [value, zpow_eq_div 2 (by norm_num)]
  simp only [ratio, Nat.pow_eq]
  push_cast
  rw [mul_div_assoc]

section
variable {num den : Nat}

theorem inUnits_pos (positive : 0 < den) (exponent : Int) : 0 < (inUnits num den exponent).2 :=
  Nat.mul_pos positive (Nat.pow_pos (by decide))

theorem inUnits_eq (num den : Nat) (exponent : Int) :
    ((inUnits num den exponent).1 : ℚ) / (inUnits num den exponent).2 = num / den / 2 ^ exponent := by
  rw [zpow_eq_div 2 (by norm_num)]
  simp only [inUnits, Nat.pow_eq]
  push_cast
  field_simp

theorem log2_div_bounds (num_pos : 0 < num) (den_pos : 0 < den) :
    (2 : ℚ) ^ ((num.log2 : ℤ) - den.log2 - 1) < num / den ∧
      (num : ℚ) / den < 2 ^ ((num.log2 : ℤ) - den.log2 + 1) := by
  have positive : (0 : ℚ) < den := by exact_mod_cast den_pos
  have numLow : (2 : ℚ) ^ num.log2 ≤ num := by exact_mod_cast Nat.log2_self_le num_pos.ne'
  have numHigh : (num : ℚ) < 2 ^ (num.log2 + 1) := by exact_mod_cast Nat.lt_log2_self
  have denLow : (2 : ℚ) ^ den.log2 ≤ den := by exact_mod_cast Nat.log2_self_le den_pos.ne'
  have denHigh : (den : ℚ) < 2 ^ (den.log2 + 1) := by exact_mod_cast Nat.lt_log2_self
  have lower : (2 : ℚ) ^ ((num.log2 : ℤ) - den.log2 - 1) = 2 ^ num.log2 / 2 ^ (den.log2 + 1) := by
    rw [← zpow_natCast, ← zpow_natCast, ← zpow_sub₀ two_ne_zero]
    congr 1
    omega
  have upper : (2 : ℚ) ^ ((num.log2 : ℤ) - den.log2 + 1) = 2 ^ (num.log2 + 1) / 2 ^ den.log2 := by
    rw [← zpow_natCast, ← zpow_natCast, ← zpow_sub₀ two_ne_zero]
    congr 1
    omega
  rw [lower, upper]
  constructor
  · exact (div_lt_div_of_pos_left (by positivity) positive denHigh).trans_le
      (div_le_div_of_nonneg_right numLow positive.le)
  · exact (div_lt_div_of_pos_right numHigh positive).trans_le
      (div_le_div_of_nonneg_left (by positivity) (by positivity) denLow)

/-- A fraction in units of a power of two has 53 bits, or the units are the smallest ones. -/
structure InRange (q : ℚ) (exponent : ℤ) : Prop where
  least : -1074 ≤ exponent
  below : q < 2 ^ 53 * 2 ^ exponent
  normal : exponent = -1074 ∨ 2 ^ 52 * 2 ^ exponent ≤ q

def unitsOf (num den : Nat) : Int :=
  let low := max ((num.log2 : Int) - den.log2 - 53) (-1074)
  if (inUnits num den low).1 / (inUnits num den low).2 < 2 * leastNormal then low else low + 1

theorem inRange_unitsOf (num_pos : 0 < num) (den_pos : 0 < den) :
    InRange (num / den) (unitsOf num den) := by
  obtain ⟨lower, upper⟩ := log2_div_bounds num_pos den_pos
  rw [unitsOf]
  generalize chosen : max ((num.log2 : Int) - den.log2 - 53) (-1074) = low
  have positive : (0 : ℚ) < 2 ^ low := by positivity
  have units := inUnits_eq num den low
  have units_pos : (0 : ℚ) < (inUnits num den low).2 := by exact_mod_cast inUnits_pos den_pos low
  split
  · next small =>
    rw [Nat.div_lt_iff_lt_mul (inUnits_pos den_pos low)] at small
    have small : ((inUnits num den low).1 : ℚ) < 2 ^ 53 * (inUnits num den low).2 := by
      exact_mod_cast small
    refine ⟨by omega, ?_, ?_⟩
    · rwa [← div_lt_iff₀ units_pos, units, div_lt_iff₀ positive] at small
    · rcases le_total ((num.log2 : ℤ) - den.log2 - 53) (-1074) with first | second
      · exact .inl (by omega)
      · right
        rw [← zpow_split two_ne_zero 52 (by omega : (num.log2 : ℤ) - den.log2 - 1 = 52 + low)]
        exact lower.le
  · next large =>
    rw [not_lt, Nat.le_div_iff_mul_le (inUnits_pos den_pos low)] at large
    have large : (2 : ℚ) ^ 53 * (inUnits num den low).2 ≤ (inUnits num den low).1 := by
      exact_mod_cast large
    rw [← le_div_iff₀ units_pos, units, le_div_iff₀ positive] at large
    have next : (2 : ℚ) ^ (low + 1) = 2 ^ low * 2 := zpow_add_one₀ two_ne_zero low
    refine ⟨by omega, ?_, .inr ?_⟩
    · have most : (2 : ℚ) ^ ((num.log2 : ℤ) - den.log2 + 1) ≤ 2 ^ (low + 54) :=
        zpow_le_zpow_right₀ (by norm_num) (by omega)
      exact (upper.trans_le most).trans_eq (zpow_split two_ne_zero 53 (by omega))
    · rw [next]
      linarith

def carried (rounded : Nat) (exponent : Int) : Magnitude :=
  if rounded = 2 * leastNormal then ⟨leastNormal, exponent + 1⟩ else ⟨rounded, exponent⟩

theorem ofRatio?_eq (num_pos : 0 < num) :
    ofRatio? num den =
      let units := inUnits num den (unitsOf num den)
      let x := carried (divRoundEven units.1 units.2) (unitsOf num den)
      if x.exponent ≤ 971 then some x else none := by
  rw [ofRatio?, if_neg num_pos.ne']
  let rounded := divRoundEven (inUnits num den (unitsOf num den)).1
    (inUnits num den (unitsOf num den)).2
  let parts := if rounded = 2 * leastNormal then (leastNormal, unitsOf num den + 1)
    else (rounded, unitsOf num den)
  show (if parts.2 ≤ 971 then some (Magnitude.mk parts.1 parts.2) else none) = _
  dsimp only [carried, parts]
  split <;> rfl

theorem value_carried (rounded : Nat) (exponent : Int) :
    (carried rounded exponent).value = rounded * 2 ^ exponent := by
  rw [carried]
  split
  · next full =>
    rw [value, full, zpow_add_one₀ two_ne_zero]
    push_cast [leastNormal]
    ring
  · rfl

theorem bits_carried {rounded : Nat} (most : rounded ≤ 2 ^ 53) (exponent : Int) :
    (carried rounded exponent).significand < 2 ^ 53 := by
  rw [carried]
  split
  · show leastNormal < 2 ^ 53
    decide
  · next other => exact lt_of_le_of_ne most other

theorem exponent_carried (rounded : Nat) (exponent : Int) :
    exponent ≤ (carried rounded exponent).exponent ∧
      (carried rounded exponent).exponent ≤ exponent + 1 := by
  rw [carried]
  split
  · exact ⟨Int.le.intro 1 rfl, le_refl _⟩
  · exact ⟨le_refl _, Int.le.intro 1 rfl⟩

theorem exists_rounded (num_pos : 0 < num) (den_pos : 0 < den) :
    ∃ (exponent : ℤ) (rounded : Nat), InRange (num / den) exponent ∧
      (rounded : ℚ) ≤ num / den / 2 ^ exponent + 1 / 2 ∧
      ofRatio? num den = if (carried rounded exponent).exponent ≤ 971
        then some (carried rounded exponent) else none := by
  refine ⟨unitsOf num den, _, inRange_unitsOf num_pos den_pos, ?_, ofRatio?_eq num_pos⟩
  rw [← inUnits_eq]
  exact divRoundEven_le (inUnits_pos den_pos _)

variable {x : Magnitude} {q : ℚ} {exponent : ℤ} {rounded : Nat}

theorem InRange.rounded_le (range : InRange q exponent)
    (near : (rounded : ℚ) ≤ q / 2 ^ exponent + 1 / 2) : rounded ≤ 2 ^ 53 := by
  have below := (div_lt_iff₀ (by positivity : (0 : ℚ) < 2 ^ exponent)).2 range.below
  have most : (rounded : ℚ) < 2 ^ 53 + 1 := by linarith
  exact Nat.lt_succ_iff.1 (by exact_mod_cast most)

theorem least_le_unitsOf (num den : Nat) : -1074 ≤ unitsOf num den := by
  rw [unitsOf]
  split <;> omega

theorem finite_of_ofRatio? (ok : ofRatio? num den = some x) : x.Finite := by
  rcases Nat.eq_zero_or_pos num with none | num_pos
  · rw [none] at ok
    cases ok
    exact finite_zero
  · have most : divRoundEven (inUnits num den (unitsOf num den)).1
        (inUnits num den (unitsOf num den)).2 ≤ 2 ^ 53 := by
      rcases Nat.eq_zero_or_pos den with none | den_pos
      · -- Without a denominator there is no quotient, and so one is the most that it rounds to.
        have noUnits : (inUnits num den (unitsOf num den)).2 = 0 := by simp [inUnits, none]
        rw [noUnits, divRoundEven, Nat.div_zero]
        split <;> omega
      · refine (inRange_unitsOf num_pos den_pos).rounded_le ?_
        rw [← inUnits_eq]
        exact divRoundEven_le (inUnits_pos den_pos _)
    rw [ofRatio?_eq num_pos] at ok
    dsimp only at ok
    split at ok
    · next fits =>
      cases ok
      exact ⟨bits_carried most _, (least_le_unitsOf num den).trans (exponent_carried _ _).1, fits⟩
    · cases ok

/-- A fraction that is not small grows by at most a `2^53`-th part. -/
theorem value_le_of_ofRatio? (den_pos : 0 < den) (large : (1 : ℚ) ≤ num / den)
    (ok : ofRatio? num den = some x) : x.value ≤ num / den * (1 + 1 / 2 ^ 53) := by
  have num_pos : 0 < num := by
    rcases Nat.eq_zero_or_pos num with none | positive
    · rw [none, Nat.cast_zero, zero_div] at large
      exact absurd large (by norm_num)
    · exact positive
  obtain ⟨exponent, rounded, range, near, same⟩ := exists_rounded num_pos den_pos
  rw [same] at ok
  split at ok
  · cases ok
    have positive : (0 : ℚ) < 2 ^ exponent := by positivity
    have normal : (2 : ℚ) ^ 52 * 2 ^ exponent ≤ num / den := by
      refine range.normal.resolve_left fun smallest => ?_
      have below := range.below
      have tiny : (2 : ℚ) ^ (-1074 : ℤ) ≤ 2 ^ (-53 : ℤ) :=
        zpow_le_zpow_right₀ (by norm_num) (by norm_num)
      have part : (2 : ℚ) ^ (-53 : ℤ) = 1 / 2 ^ 53 := by norm_num
      rw [smallest] at below
      rw [part] at tiny
      generalize (2 : ℚ) ^ (-1074 : ℤ) = unit at below tiny
      linarith
    have scaled := mul_le_mul_of_nonneg_right near positive.le
    rw [add_mul, div_mul_cancel₀ _ positive.ne'] at scaled
    rw [value_carried]
    linarith
  · cases ok

theorem exists_ofRatio? (den_pos : 0 < den) (small : (num : ℚ) / den < bound) :
    ∃ x, ofRatio? num den = some x := by
  rcases Nat.eq_zero_or_pos num with none | num_pos
  · exact ⟨zero, by rw [none]; rfl⟩
  · obtain ⟨exponent, rounded, range, near, same⟩ := exists_rounded num_pos den_pos
    refine ⟨carried rounded exponent, same.trans (if_pos ?_)⟩
    have positive : (0 : ℚ) < 2 ^ exponent := by positivity
    rcases lt_trichotomy exponent 971 with less | equal | more
    · exact (exponent_carried _ _).2.trans (by omega)
    · have fits : rounded < 2 ^ 53 := by
        rw [equal] at near
        have short := (div_lt_iff₀ (by positivity : (0 : ℚ) < 2 ^ (971 : ℤ))).2 small
        have less : (rounded : ℚ) < 2 ^ 53 := by linarith
        exact_mod_cast less
      rw [carried, if_neg (show rounded ≠ 2 * leastNormal from fits.ne)]
      exact equal.le
    · have normal := range.normal.resolve_left (by omega)
      have wide : (2 : ℚ) ^ (972 : ℤ) ≤ 2 ^ exponent := zpow_le_zpow_right₀ (by norm_num) (by omega)
      have next : (2 : ℚ) ^ (972 : ℤ) = 2 ^ (971 : ℤ) * 2 := zpow_add_one₀ two_ne_zero 971
      have last : (0 : ℚ) < 2 ^ (971 : ℤ) := by positivity
      rw [next] at wide
      rw [bound] at small
      generalize (2 : ℚ) ^ (971 : ℤ) = unit at small wide last
      generalize (2 : ℚ) ^ exponent = chosen at normal wide
      linarith
end

end Magnitude

end ShapeInference
