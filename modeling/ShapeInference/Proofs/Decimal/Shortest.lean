import ShapeInference.Decimal.Shortest
import ShapeInference.Proofs.Decimal.Rounding

/-! How far the shortest decimal of a double can be.

Two neighbours on the grid of 17 digits are closer to each other than the ends of the interval of a
double are. So one of the two beside the double is in the interval, and the decimal that is found
has at most 17 digits and is at most the upper end.
-/

set_option autoImplicit false

namespace ShapeInference.Magnitude

def Interval.contains (range : Interval) (exponent : Int) (point : Nat) : Bool :=
  let up := Nat.pow 10 (-exponent).toNat
  let den := range.den * Nat.pow 10 exponent.toNat
  if range.closed then range.low * up ≤ point * den && point * den ≤ range.high * up
  else range.low * up < point * den && point * den < range.high * up

def Interval.Holds (range : Interval) (q : ℚ) : Prop :=
  if range.closed then (range.low : ℚ) / range.den ≤ q ∧ q ≤ range.high / range.den
  else (range.low : ℚ) / range.den < q ∧ q < range.high / range.den

def Interval.floor (range : Interval) (exponent : Int) : Nat :=
  range.mid * Nat.pow 10 (-exponent).toNat / (range.den * Nat.pow 10 exponent.toNat)

namespace Interval

variable {range : Interval} {exponent : Int} {point : Nat} {d : Decimal}

def factor (range : Interval) (exponent : Int) : ℚ := range.den * 10 ^ (-exponent).toNat

theorem factor_pos (positive : 0 < range.den) (exponent : Int) : 0 < range.factor exponent := by
  have : (0 : ℚ) < range.den := by exact_mod_cast positive
  unfold factor
  positivity

theorem cast_end (positive : 0 < range.den) (exponent : Int) (n : Nat) :
    ((n * Nat.pow 10 (-exponent).toNat : Nat) : ℚ) = n / range.den * range.factor exponent := by
  have : (range.den : ℚ) ≠ 0 := by exact_mod_cast positive.ne'
  rw [factor, Nat.pow_eq]
  push_cast
  field_simp

theorem cast_point (range : Interval) (exponent : Int) (point : Nat) :
    ((point * (range.den * Nat.pow 10 exponent.toNat) : Nat) : ℚ) =
      point * 10 ^ exponent * range.factor exponent := by
  rw [factor, Nat.pow_eq, zpow_eq_div 10 (by norm_num) exponent]
  push_cast
  field_simp

theorem contains_iff (positive : 0 < range.den) :
    range.contains exponent point = true ↔ range.Holds (point * 10 ^ exponent) := by
  have scale := factor_pos positive exponent
  rw [contains, Holds]
  split
  · simp only [Bool.and_eq_true, decide_eq_true_eq]
    rw [← @Nat.cast_le ℚ, ← @Nat.cast_le ℚ, cast_end positive, cast_end positive,
      cast_point, mul_le_mul_iff_left₀ scale, mul_le_mul_iff_left₀ scale]
  · simp only [Bool.and_eq_true, decide_eq_true_eq]
    rw [← @Nat.cast_lt ℚ, ← @Nat.cast_lt ℚ, cast_end positive, cast_end positive,
      cast_point, mul_lt_mul_iff_left₀ scale, mul_lt_mul_iff_left₀ scale]

theorem floor_bounds (positive : 0 < range.den) (exponent : Int) :
    (range.floor exponent : ℚ) * 10 ^ exponent ≤ range.mid / range.den ∧
      (range.mid : ℚ) / range.den < (range.floor exponent + 1 : Nat) * 10 ^ exponent := by
  have scale := factor_pos positive exponent
  have den_pos : 0 < range.den * Nat.pow 10 exponent.toNat :=
    Nat.mul_pos positive (Nat.pow_pos (by decide))
  constructor
  · rw [← mul_le_mul_iff_left₀ scale, ← cast_point, ← cast_end positive, Nat.cast_le]
    exact Nat.div_mul_le_self _ _
  · rw [← mul_lt_mul_iff_left₀ scale, ← cast_point, ← cast_end positive, Nat.cast_lt]
    exact Nat.lt_mul_of_div_lt (Nat.lt_succ_self _) den_pos

theorem gridHit?_eq (range : Interval) (exponent : Int) : gridHit? range exponent =
    match range.contains exponent (range.floor exponent),
      range.contains exponent (range.floor exponent + 1) with
    | true, false => some ⟨range.floor exponent, exponent⟩
    | false, true => some ⟨range.floor exponent + 1, exponent⟩
    | true, true =>
      let den := range.den * Nat.pow 10 exponent.toNat
      let fraction := range.mid * Nat.pow 10 (-exponent).toNat % den
      if den < 2 * fraction ∨ (2 * fraction = den ∧ range.floor exponent % 2 = 1) then
        some ⟨range.floor exponent + 1, exponent⟩
      else some ⟨range.floor exponent, exponent⟩
    | false, false => none :=
  rfl

/-- Only the two points of a grid beside the double are tried. -/
theorem gridHit?_cases (range : Interval) (exponent : Int) :
    (gridHit? range exponent = none ∧ range.contains exponent (range.floor exponent) = false ∧
      range.contains exponent (range.floor exponent + 1) = false) ∨
    ∃ point, gridHit? range exponent = some ⟨point, exponent⟩ ∧
      range.contains exponent point = true ∧
      (point = range.floor exponent ∨ point = range.floor exponent + 1) := by
  rw [gridHit?_eq]
  split
  · next low _ => exact .inr ⟨_, rfl, low, .inl rfl⟩
  · next _ high => exact .inr ⟨_, rfl, high, .inr rfl⟩
  · next low high =>
    dsimp only
    split
    · exact .inr ⟨_, rfl, high, .inr rfl⟩
    · exact .inr ⟨_, rfl, low, .inl rfl⟩
  · next low high => exact .inl ⟨rfl, low, high⟩

theorem of_gridHit? (positive : 0 < range.den) (found : gridHit? range exponent = some d) :
    range.Holds (d.digits * 10 ^ exponent) ∧ d.exponent = exponent ∧
      d.digits ≤ range.floor exponent + 1 := by
  obtain ⟨none, _, _⟩ | ⟨point, hit, inside, beside⟩ := gridHit?_cases range exponent
  · rw [none] at found
    cases found
  · cases hit.symm.trans found
    exact ⟨(contains_iff positive).1 inside, rfl, by dsimp only; omega⟩

theorem exists_gridHit? (positive : 0 < range.den)
    (near : range.Holds (range.floor exponent * 10 ^ exponent) ∨
      range.Holds ((range.floor exponent + 1 : Nat) * 10 ^ exponent)) :
    (gridHit? range exponent).isSome = true := by
  rw [← contains_iff positive, ← contains_iff positive] at near
  obtain ⟨_, low, high⟩ | ⟨point, hit, _⟩ := gridHit?_cases range exponent
  · rw [low, high] at near
    simp at near
  · rw [hit]
    rfl

end Interval

/-! The first digit. -/

theorem power_le_iff {num den : Nat} (positive : 0 < den) (k : Int) :
    den * Nat.pow 10 k.toNat ≤ num * Nat.pow 10 (-k).toNat ↔ (10 : ℚ) ^ k ≤ num / den := by
  have positive : (0 : ℚ) < den := by exact_mod_cast positive
  rw [zpow_eq_div 10 (by norm_num) k, div_le_div_iff₀ (by positivity) positive, ← @Nat.cast_le ℚ,
    Nat.pow_eq, Nat.pow_eq, mul_comm den]
  push_cast
  rfl

theorem floorLog10_bounds {num den : Nat} (positive : 0 < den)
    (low : (10 : ℚ) ^ (-399 : ℤ) ≤ num / den) (high : (num : ℚ) / den < 10 ^ (400 : ℤ)) :
    (10 : ℚ) ^ floorLog10 num den ≤ num / den ∧
      (num : ℚ) / den < 10 ^ (floorLog10 num den + 1) := by
  let reached (i : Nat) : Bool :=
    decide (den * Nat.pow 10 (400 - (i : Int)).toNat ≤ num * Nat.pow 10 (-(400 - (i : Int))).toNat)
  have reached_iff (i : Nat) : reached i = true ↔ (10 : ℚ) ^ (400 - (i : Int)) ≤ num / den := by
    rw [decide_eq_true_eq, power_le_iff positive]
  have last : reached 799 = true := (reached_iff 799).2 low
  have inside : (List.range 800).findIdx reached < (List.range 800).length :=
    List.findIdx_lt_length_of_exists ⟨799, List.mem_range.2 (by decide), last⟩
  have hit := @List.findIdx_getElem _ reached (List.range 800) inside
  have before (i : Nat) (early : i < (List.range 800).findIdx reached) : reached i = false := by
    have missed := List.not_of_lt_findIdx early
    rwa [List.getElem_range] at missed
  rw [List.getElem_range, reached_iff] at hit
  change (10 : ℚ) ^ (400 - ((List.range 800).findIdx reached : Int)) ≤ _ ∧
    _ < (10 : ℚ) ^ (400 - ((List.range 800).findIdx reached : Int) + 1)
  refine ⟨hit, ?_⟩
  generalize (List.range 800).findIdx reached = i at before
  cases i with
  | zero => exact high.trans_le (zpow_le_zpow_right₀ (by norm_num) (by omega))
  | succ i =>
    have missed : ¬ (10 : ℚ) ^ (400 - (i : Int)) ≤ num / den := by
      rw [← reached_iff, before i (Nat.lt_succ_self i)]
      exact Bool.false_ne_true
    refine (not_le.1 missed).trans_eq (congrArg _ ?_)
    push_cast
    omega

theorem floorLog10_range (num den : Nat) :
    -400 ≤ floorLog10 num den ∧ floorLog10 num den ≤ 400 := by
  let reached (i : Nat) : Bool :=
    decide (den * Nat.pow 10 (400 - (i : Int)).toNat ≤ num * Nat.pow 10 (-(400 - (i : Int))).toNat)
  have most := @List.findIdx_le_length _ reached (List.range 800)
  rw [List.length_range] at most
  change -400 ≤ 400 - ((List.range 800).findIdx reached : Int) ∧
    400 - ((List.range 800).findIdx reached : Int) ≤ 400
  omega

/-! The interval of a double. -/

section
variable (x : Magnitude)

/-- Half the steps to the neighbours below, in quarters of a unit. -/
def stepBelow (x : Magnitude) : Nat :=
  if x.significand = leastNormal ∧ -1074 < x.exponent then 1 else 2

theorem interval_den_pos : 0 < x.interval.den := Nat.pow_pos (by decide)

theorem quarter_eq (n : Nat) : ((n * Nat.pow 2 (x.exponent - 2).toNat : Nat) : ℚ) / x.interval.den =
    n / 4 * 2 ^ x.exponent := by
  have four : (2 : ℚ) ^ x.exponent = 2 ^ (x.exponent - 2) * 4 := by
    rw [zpow_sub₀ two_ne_zero]
    norm_num
  rw [four, zpow_eq_div 2 (by norm_num) (x.exponent - 2), interval, Nat.pow_eq, Nat.pow_eq]
  push_cast
  field_simp

theorem interval_mid : (x.interval.mid : ℚ) / x.interval.den = x.value := by
  refine (x.quarter_eq _).trans ?_
  rw [value]
  push_cast
  ring

theorem interval_high :
    (x.interval.high : ℚ) / x.interval.den = x.value + 2 ^ x.exponent / 2 := by
  refine (x.quarter_eq _).trans ?_
  rw [value]
  push_cast
  ring

theorem interval_low (positive : 0 < x.significand) : (x.interval.low : ℚ) / x.interval.den =
    x.value - x.stepBelow / 4 * 2 ^ x.exponent := by
  refine (x.quarter_eq _).trans ?_
  have fits : x.stepBelow ≤ 4 * x.significand := by
    rw [stepBelow]
    split <;> omega
  change ((4 * x.significand - x.stepBelow : Nat) : ℚ) / 4 * 2 ^ x.exponent = _
  rw [value, Nat.cast_sub fits]
  push_cast
  ring

variable {x}

theorem Finite.value_lt (finite : x.Finite) : x.value < 2 ^ 53 * 2 ^ (971 : ℤ) := by
  have bits : (x.significand : ℚ) < 2 ^ 53 := by exact_mod_cast finite.bits
  have most : (2 : ℚ) ^ x.exponent ≤ 2 ^ (971 : ℤ) := zpow_le_zpow_right₀ (by norm_num) finite.greatest
  exact mul_lt_mul bits most (by positivity) (by positivity)

theorem Finite.le_value (finite : x.Finite) (positive : 0 < x.significand) :
    (2 : ℚ) ^ (-1074 : ℤ) ≤ x.value := by
  have one : (1 : ℚ) ≤ x.significand := by exact_mod_cast positive
  exact (zpow_le_zpow_right₀ (by norm_num) finite.least).trans
    (le_mul_of_one_le_left (by positivity) one)

def top (x : Magnitude) : Int := floorLog10 x.interval.mid x.interval.den

theorem Finite.top_bounds (finite : x.Finite) (positive : 0 < x.significand) :
    (10 : ℚ) ^ x.top ≤ x.value ∧ x.value < 10 ^ (x.top + 1) := by
  have low : (10 : ℚ) ^ (-399 : ℤ) ≤ 2 ^ (-1074 : ℤ) := by
    have wide : ((2 ^ 1074 : Nat) : ℚ) ≤ ((10 ^ 399 : Nat) : ℚ) := by
      exact_mod_cast (by decide +kernel : 2 ^ 1074 ≤ 10 ^ 399)
    rw [Nat.cast_pow, Nat.cast_pow, Nat.cast_ofNat, Nat.cast_ofNat] at wide
    rw [zpow_neg, zpow_neg]
    exact inv_anti₀ (by positivity) wide
  have high : (2 : ℚ) ^ 53 * 2 ^ (971 : ℤ) ≤ 10 ^ (400 : ℤ) := by
    have wide : ((2 ^ 1024 : Nat) : ℚ) ≤ ((10 ^ 400 : Nat) : ℚ) := by
      exact_mod_cast (by decide +kernel : 2 ^ 1024 ≤ 10 ^ 400)
    rw [Nat.cast_pow, Nat.cast_pow, Nat.cast_ofNat, Nat.cast_ofNat] at wide
    exact two_pow_eq.symm.trans_le wide
  have bounds := @floorLog10_bounds x.interval.mid _ x.interval_den_pos
  rw [interval_mid] at bounds
  exact bounds (low.trans (finite.le_value positive)) (finite.value_lt.trans_le high)

/-- On the grid of 17 digits, a point beside the double is strictly inside its interval. -/
theorem Finite.near (finite : x.Finite) (positive : 0 < x.significand) :
    x.interval.Holds (x.interval.floor (x.top - 16) * 10 ^ (x.top - 16)) ∨
      x.interval.Holds ((x.interval.floor (x.top - 16) + 1 : Nat) * 10 ^ (x.top - 16)) := by
  have strict (q : ℚ) (low : (x.interval.low : ℚ) / x.interval.den < q)
      (high : q < x.interval.high / x.interval.den) : x.interval.Holds q := by
    rw [Interval.Holds]
    split
    · exact ⟨low.le, high.le⟩
    · exact ⟨low, high⟩
  obtain ⟨below, above⟩ := Interval.floor_bounds x.interval_den_pos (x.top - 16)
  have first := (finite.top_bounds positive).1
  have step (k : ℤ) : (10 : ℚ) ^ k = 10 ^ 16 * 10 ^ (k - 16) :=
    zpow_split (by norm_num) 16 (by omega)
  have unit_pos : (0 : ℚ) < 2 ^ x.exponent := by positivity
  have size : x.value = x.significand * 2 ^ x.exponent := rfl
  have low := x.interval_low positive
  have high := x.interval_high
  rw [interval_mid] at below above
  rw [step, size] at first
  rw [Nat.cast_add, Nat.cast_one] at above ⊢
  generalize x.interval.floor (x.top - 16) = point at below above ⊢
  generalize (10 : ℚ) ^ (x.top - 16) = grid at first below above ⊢
  generalize (2 : ℚ) ^ x.exponent = unit at unit_pos size low high first
  by_cases narrow : x.significand = leastNormal ∧ -1074 < x.exponent
  · -- The interval is short below the double, but the next point is half as far as in general.
    have least : (x.significand : ℚ) = 2 ^ 52 := by exact_mod_cast narrow.1
    have quarter : (x.stepBelow : ℚ) = 1 := by
      rw [stepBelow, if_pos narrow]
      rfl
    rw [least] at first
    rw [quarter] at low
    exact .inr (strict _ (by linarith) (by linarith))
  · have half : (x.stepBelow : ℚ) = 2 := by
      rw [stepBelow, if_neg narrow]
      rfl
    have bits : (x.significand : ℚ) < 2 ^ 53 := by exact_mod_cast finite.bits
    have close : grid < unit := by
      have := mul_lt_mul_of_pos_right bits unit_pos
      linarith
    rw [half] at low
    rcases lt_or_ge (x.value - point * grid) (unit / 2) with lower | upper
    · exact .inl (strict _ (by linarith) (by linarith))
    · exact .inr (strict _ (by linarith) (by linarith))

/-- The shortest decimal is found on one of the first 17 grids. -/
theorem Finite.exists_hit (finite : x.Finite) (positive : 0 < x.significand) :
    ∃ n ≤ 16, gridHit? x.interval (x.top - (n : Nat)) = some x.shortest := by
  have some_hit : ((List.range 17).findSome? fun (n : Nat) => gridHit? x.interval (x.top - n)).isSome =
      true := by
    rw [List.findSome?_isSome_iff]
    exact ⟨16, by decide, Interval.exists_gridHit? x.interval_den_pos (finite.near positive)⟩
  obtain ⟨d, found⟩ := Option.isSome_iff_exists.1 some_hit
  obtain ⟨n, inside, hit⟩ := List.exists_of_findSome?_eq_some found
  have same : x.shortest = d := by
    rw [shortest, if_neg positive.ne']
    show ((List.range 17).findSome? fun (n : Nat) => gridHit? x.interval (x.top - n)).getD _ = d
    rw [found]
    rfl
  rw [same]
  exact ⟨n, Nat.lt_succ_iff.1 (List.mem_range.1 inside), hit⟩

theorem Finite.shortest_near (finite : x.Finite) (positive : 0 < x.significand) :
    x.shortest.exponent.natAbs ≤ 416 := by
  obtain ⟨n, few, hit⟩ := finite.exists_hit positive
  have same := (Interval.of_gridHit? x.interval_den_pos hit).2.1
  have := floorLog10_range x.interval.mid x.interval.den
  rw [same, top]
  omega

theorem Finite.shortest_le (finite : x.Finite) (positive : 0 < x.significand) :
    x.shortest.digits ≤ 10 ^ 17 ∧
      (x.shortest.digits : ℚ) * 10 ^ x.shortest.exponent ≤ x.value + 2 ^ x.exponent / 2 := by
  obtain ⟨n, few, hit⟩ := finite.exists_hit positive
  obtain ⟨holds, same, next⟩ := Interval.of_gridHit? x.interval_den_pos hit
  constructor
  · have below := (Interval.floor_bounds x.interval_den_pos (x.top - (n : Nat))).1
    have above := (finite.top_bounds positive).2
    have split (k : ℤ) : (10 : ℚ) ^ (k + 1) = 10 ^ (n + 1) * 10 ^ (k - (n : Nat)) :=
      zpow_split (by norm_num) (n + 1) (by omega)
    rw [interval_mid] at below
    rw [split] at above
    have less := lt_of_mul_lt_mul_right (below.trans_lt above) (by positivity)
    have digits : x.interval.floor (x.top - (n : Nat)) < 10 ^ (n + 1) := by exact_mod_cast less
    have most : 10 ^ (n + 1) ≤ 10 ^ 17 := Nat.pow_le_pow_right (by decide) (by omega)
    omega
  · rw [same, ← interval_high]
    rw [Interval.Holds] at holds
    split at holds
    · exact holds.2
    · exact holds.2.le

end

end ShapeInference.Magnitude
