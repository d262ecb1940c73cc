import Mathlib.Data.List.TakeWhile
import ShapeInference.Decimal.Shortest
import ShapeInference.Proofs.Literal.Shapes

/-! Decimal digits.

A number has no zero in front of its digits, so it is as large as their count says. Zeros behind them
are dropped before a decimal is written, and its exponent makes up for them.
-/

set_option autoImplicit false

namespace ShapeInference.Decimal

section
variable {n : Nat}

abbrev Digital (text : List Char) : Prop := ∀ c ∈ text, c.isDigit = true

theorem digital_toDigits (n : Nat) : Digital (Nat.toDigits 10 n) :=
  fun _ => Nat.isDigit_of_mem_toDigits (by decide) (by decide)

theorem digital_zeros (n : Nat) : Digital (List.replicate n '0') := by
  intro c member
  rw [List.eq_of_mem_replicate member]
  rfl

theorem le_ofDigitChars (start : Nat) (digits : List Char) :
    start ≤ Nat.ofDigitChars 10 digits start := by
  rw [Nat.ofDigitChars_eq_ofDigitChars_zero]
  exact (Nat.le_mul_of_pos_left _ (Nat.pow_pos (by decide))).trans (Nat.le_add_right _ _)

theorem pow_le_of_toDigits (positive : 0 < n) : 10 ^ ((Nat.toDigits 10 n).length - 1) ≤ n := by
  have length := @Nat.length_toDigits_pos 10 n
  by_cases short : (Nat.toDigits 10 n).length = 1
  · rw [short]
    exact positive
  · have more := (Nat.length_toDigits_le_iff (b := 10) (n := n)
      (k := (Nat.toDigits 10 n).length - 1) (by decide) (by omega)).not.1 (by omega)
    exact not_lt.1 more

theorem exists_toDigits (n : Nat) : ∃ c rest, Nat.toDigits 10 n = c :: rest ∧
    Digital (c :: rest) ∧ Nat.ofDigitChars 10 (c :: rest) 0 = n ∧ (0 < n → c ≠ '0') := by
  obtain ⟨c, rest, same⟩ := List.exists_cons_of_ne_nil (@Nat.toDigits_ne_nil n 10)
  have digital := digital_toDigits n
  have value := @Nat.ofDigitChars_ten_toDigits n
  rw [same] at digital value
  refine ⟨c, rest, same, digital, value, ?_⟩
  rintro positive rfl
  have power := pow_le_of_toDigits positive
  have small := Literal.IsDigits.valueOf_lt ⟨rfl, (List.forall_mem_cons.1 digital).2⟩
  have shifted : Nat.ofDigitChars 10 ('0' :: rest) 0 = Literal.valueOf rest := by
    rw [Nat.ofDigitChars_cons]
    rfl
  rw [shifted] at value
  rw [same, List.length_cons, Nat.add_sub_cancel] at power
  omega

theorem shifted_lt_of_toDigits (k n : Nat) :
    10 ^ k * n < 10 ^ (k + (Nat.toDigits 10 n).length) := by
  have below : n < 10 ^ (Nat.toDigits 10 n).length :=
    (Nat.length_toDigits_le_iff (by decide) Nat.length_toDigits_pos).1 (le_refl _)
  rw [Nat.pow_add]
  exact Nat.mul_lt_mul_of_pos_left below (Nat.pow_pos (by decide))

theorem exists_strip {d : Decimal} (positive : 0 < d.digits) :
    ∃ zeros, d.strip = ⟨d.digits / 10 ^ zeros, d.exponent + (zeros : Nat)⟩ ∧
      10 ^ zeros ≤ d.digits := by
  refine ⟨((Nat.toDigits 10 d.digits).reverse.takeWhile (· = '0')).length, ?_, ?_⟩
  · rw [strip, if_neg positive.ne']
    rfl
  · obtain ⟨c, rest, same, _, _, head⟩ := exists_toDigits d.digits
    refine le_trans (Nat.pow_le_pow_right (by decide) ?_) (pow_le_of_toDigits positive)
    rw [same, List.reverse_cons, List.takeWhile_append, List.length_cons, Nat.add_sub_cancel]
    split
    · simp [head positive]
    · simpa using (List.takeWhile_prefix (p := (· = '0')) (l := rest.reverse)).length_le

end

end ShapeInference.Decimal
