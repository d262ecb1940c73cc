import ShapeInference.Proofs.Decimal.Digits
import ShapeInference.Proofs.Json.Tokens

/-! Numerals are read as they were written.

A numeral of a double has a point or an exponent, so it is never read as an integer. Its digits fit
64 bits, so none of them is dropped.
-/

set_option autoImplicit false

namespace ShapeInference.Json

open Decimal

/-! Runs of digits. -/

section
variable {digits rest : List Char} {c : Char} {n start : Nat} {negative : Bool}

theorem takeWhile_digits (digital : Digital digits) (stops : StopsAt Char.isDigit rest) :
    (digits ++ rest).takeWhile Char.isDigit = digits := by
  have whole := List.takeWhile_append_dropWhile (p := Char.isDigit) (l := rest)
  rw [stops.dropWhile_eq] at whole
  rw [List.takeWhile_append_of_pos digital, List.append_left_eq_self.1 whole, List.append_nil]

theorem dropWhile_digits (digital : Digital digits) (stops : StopsAt Char.isDigit rest) :
    (digits ++ rest).dropWhile Char.isDigit = rest := by
  rw [List.dropWhile_append_of_pos digital, stops.dropWhile_eq]

theorem ofDigitChars_cons_zero (c : Char) (digits : List Char) :
    Nat.ofDigitChars 10 (c :: digits) 0 = Nat.ofDigitChars 10 digits (digitValue c) := by
  rw [Nat.ofDigitChars_cons, Nat.mul_zero, Nat.zero_add]
  rfl

theorem addDigits_eq (fits : Nat.ofDigitChars 10 digits start ≤ maxUnsigned) :
    addDigits start digits = ⟨Nat.ofDigitChars 10 digits start, digits.length, 0⟩ := by
  induction digits generalizing start with
  | nil => rfl
  | cons d rest ih =>
    rw [Nat.ofDigitChars_cons] at fits ⊢
    have next : ¬ maxUnsigned < 10 * start + digitValue d :=
      not_lt.2 ((le_ofDigitChars _ rest).trans fits)
    rw [addDigits]
    dsimp only
    rw [if_neg next]
    exact congrArg (fun added : Digits => { added with added := added.added + 1 }) (ih fits)

theorem exponentDigits_eq (digital : Digital digits)
    (fits : Nat.ofDigitChars 10 digits start < exponentBound) :
    exponentDigits start digits = (Nat.ofDigitChars 10 digits start, []) := by
  induction digits generalizing start with
  | nil => rfl
  | cons d rest ih =>
    obtain ⟨first, others⟩ := List.forall_mem_cons.1 digital
    rw [Nat.ofDigitChars_cons] at fits ⊢
    have next : ¬ exponentBound ≤ 10 * start + digitValue d :=
      not_le.2 ((le_ofDigitChars _ rest).trans_lt fits)
    rw [exponentDigits, if_pos first]
    dsimp only
    rw [if_neg next]
    exact ih others fits

/-! Parts of numbers. -/

theorem readNumber_zero (stops : StopsAt Char.isDigit rest) :
    readNumber negative ('0' :: rest) = readFraction negative 0 0 rest := by
  have none : rest.head?.any Char.isDigit = false := by
    cases rest with
    | nil => rfl
    | cons c rest => exact stops c rfl
  rw [readNumber, if_pos rfl, none]
  rfl

theorem readNumber_digits (digital : Digital (c :: digits)) (head : c ≠ '0')
    (fits : Nat.ofDigitChars 10 (c :: digits) 0 ≤ maxUnsigned) (stops : StopsAt Char.isDigit rest) :
    readNumber negative (c :: digits ++ rest) =
      readFraction negative (Nat.ofDigitChars 10 (c :: digits) 0) 0 rest := by
  obtain ⟨first, others⟩ := List.forall_mem_cons.1 digital
  rw [ofDigitChars_cons_zero] at fits ⊢
  rw [List.cons_append, readNumber, if_neg head, if_pos first, takeWhile_digits others stops,
    dropWhile_digits others stops, addDigits_eq fits]

theorem readFraction_digits (digital : Digital digits) (some_digit : digits ≠ [])
    (fits : Nat.ofDigitChars 10 digits start ≤ maxUnsigned) (stops : StopsAt Char.isDigit rest) :
    readFraction negative start 0 ('.' :: digits ++ rest) =
      readScale negative (Nat.ofDigitChars 10 digits start) (-digits.length) rest := by
  rw [List.cons_append, readFraction_point, takeWhile_digits digital stops,
    dropWhile_digits digital stops, addDigits_eq fits, if_neg (by simpa using some_digit)]
  show readScale negative _ (0 - _) rest = _
  rw [Int.zero_sub]

theorem signedExponent_digits {down : Bool} {exponent : Int} (digital : Digital (c :: digits))
    (fits : Nat.ofDigitChars 10 (c :: digits) 0 < exponentBound) :
    signedExponent negative start exponent down (c :: digits) =
      double negative start (if down then exponent - Nat.ofDigitChars 10 (c :: digits) 0
        else exponent + Nat.ofDigitChars 10 (c :: digits) 0) [] := by
  obtain ⟨first, others⟩ := List.forall_mem_cons.1 digital
  rw [ofDigitChars_cons_zero] at fits ⊢
  rw [signedExponent, if_pos first, exponentDigits_eq others fits]
  dsimp only
  rw [if_pos fits]

theorem toList_toString_natCast (n : Nat) : (toString (n : Int)).toList = Nat.toDigits 10 n :=
  Nat.toList_repr

theorem toList_toString_neg (positive : 0 < n) :
    (toString (-(n : Int))).toList = '-' :: Nat.toDigits 10 n := by
  obtain ⟨m, rfl⟩ := Nat.exists_eq_succ_of_ne_zero positive.ne'
  show ("-" ++ (m + 1).repr).toList = _
  rw [String.toList_append, Nat.toList_repr]
  rfl

theorem readExponent_digits {exponent : Int} (digital : Digital (c :: digits)) :
    readExponent negative start exponent (c :: digits) =
      signedExponent negative start exponent false (c :: digits) := by
  have first := digital c List.mem_cons_self
  unfold readExponent
  split
  · next same =>
    cases same
    cases first
  · next same =>
    cases same
    cases first
  · rfl

theorem readExponent_toString {scale : Int} (exponent : Int) (small : scale.natAbs < exponentBound) :
    readExponent negative start exponent (toString scale).toList =
      double negative start (exponent + scale) [] := by
  obtain ⟨n, rfl | rfl⟩ := Int.eq_nat_or_neg scale
  · obtain ⟨c, rest, same, digital, value, _⟩ := exists_toDigits n
    rw [toList_toString_natCast, same, readExponent_digits digital,
      signedExponent_digits digital (by omega), value]
    rfl
  · rcases Nat.eq_zero_or_pos n with rfl | positive
    · rfl
    · obtain ⟨c, rest, same, digital, value, _⟩ := exists_toDigits n
      rw [toList_toString_neg positive, same, readExponent,
        signedExponent_digits digital (by omega), value]
      rfl

/-! Integers. -/

theorem readNumber_toDigits (fits : n ≤ maxUnsigned) (stops : StopsAt Char.isDigit rest) :
    readNumber negative (Nat.toDigits 10 n ++ rest) = readFraction negative n 0 rest := by
  rcases Nat.eq_zero_or_pos n with rfl | positive
  · exact readNumber_zero stops
  · obtain ⟨c, more, same, digital, value, head⟩ := exists_toDigits n
    rw [same, readNumber_digits digital (head positive) (by rwa [value]) stops, value]

theorem stopsAt_nil (p : Char → Bool) : StopsAt p [] := fun _ first => nomatch first

theorem stopsAt_cons {p : Char → Bool} {c : Char} (stops : p c = false) (rest : List Char) :
    StopsAt p (c :: rest) := by
  intro d first
  cases first
  exact stops

theorem readNumber_natCast (fits : n ≤ maxUnsigned) :
    readNumber false (Nat.toDigits 10 n) = .ok (.integer n, []) := by
  rw [← List.append_nil (Nat.toDigits 10 n), readNumber_toDigits fits (stopsAt_nil _),
    readFraction_end (stopsAt_nil _)]
  rfl

theorem readNumber_neg (positive : 0 < n) (fits : n ≤ 0x8000000000000000) :
    readNumber true (Nat.toDigits 10 n) = .ok (.integer (-n), []) := by
  rw [← List.append_nil (Nat.toDigits 10 n),
    readNumber_toDigits (fits.trans (by decide)) (stopsAt_nil _), readFraction_end (stopsAt_nil _),
    if_neg (by decide), if_neg (by decide), if_pos ⟨positive, fits⟩]

/-! Doubles, in each notation. -/

theorem readNumber_whole {zeros : Nat} (positive : 0 < n) (fits : 10 * (10 ^ zeros * n) ≤ maxUnsigned) :
    readNumber negative (Nat.toDigits 10 n ++ List.replicate zeros '0' ++ ['.', '0']) =
      double negative (10 * (10 ^ zeros * n)) (-1) [] := by
  obtain ⟨c, more, same, digital, value, head⟩ := exists_toDigits n
  have digital : Digital (c :: (more ++ List.replicate zeros '0')) :=
    List.forall_mem_append.2 ⟨digital, digital_zeros zeros⟩
  have value : Nat.ofDigitChars 10 (c :: (more ++ List.replicate zeros '0')) 0 = 10 ^ zeros * n := by
    rw [← List.cons_append, Nat.ofDigitChars_append, value, Nat.ofDigitChars_replicate_zero]
  rw [same, List.cons_append,
    readNumber_digits digital (head positive) (by omega) (stopsAt_cons rfl _), value]
  have last : Nat.ofDigitChars 10 ['0'] (10 ^ zeros * n) = 10 * (10 ^ zeros * n) := by
    rw [Nat.ofDigitChars_cons]
    rfl
  have point := @readFraction_digits ['0'] [] (10 ^ zeros * n) negative (digital_zeros 1)
    (List.cons_ne_nil _ _) (by rwa [last]) (stopsAt_nil _)
  rw [last, readScale_end (stopsAt_nil _)] at point
  exact point

theorem readNumber_split {whole : Nat} (positive : 0 < n) (fits : n ≤ maxUnsigned)
    (some_whole : 0 < whole) (some_fraction : whole < (Nat.toDigits 10 n).length)
    (stops : StopsAt Char.isDigit rest) :
    readNumber negative
        ((Nat.toDigits 10 n).take whole ++ ('.' :: (Nat.toDigits 10 n).drop whole ++ rest)) =
      readScale negative n (-((Nat.toDigits 10 n).length - whole : Nat)) rest := by
  obtain ⟨c, more, same, digital, value, head⟩ := exists_toDigits n
  obtain ⟨count, rfl⟩ := Nat.exists_eq_succ_of_ne_zero some_whole.ne'
  rw [same, List.length_cons] at some_fraction
  rw [← List.take_append_drop count more, ← List.cons_append] at digital value
  obtain ⟨front, back⟩ := List.forall_mem_append.1 digital
  rw [Nat.ofDigitChars_append] at value
  have some_back : more.drop count ≠ [] := by
    rw [ne_eq, List.drop_eq_nil_iff]
    omega
  have few : Nat.ofDigitChars 10 (c :: more.take count) 0 ≤ maxUnsigned :=
    (le_ofDigitChars _ (more.drop count)).trans (value.trans_le fits)
  have point := @readFraction_digits _ _ _ negative back some_back (by rwa [value]) stops
  rw [value, List.length_drop] at point
  rw [same, List.take_succ_cons, List.drop_succ_cons, List.length_cons, Nat.succ_sub_succ, ← point]
  exact readNumber_digits front (head positive) few (stopsAt_cons rfl _)

theorem readNumber_small {zeros : Nat} (fits : n ≤ maxUnsigned) :
    readNumber negative ('0' :: '.' :: (List.replicate zeros '0' ++ Nat.toDigits 10 n)) =
      double negative n (-(zeros + (Nat.toDigits 10 n).length : Nat)) [] := by
  have digital : Digital (List.replicate zeros '0' ++ Nat.toDigits 10 n) :=
    List.forall_mem_append.2 ⟨digital_zeros zeros, digital_toDigits n⟩
  have value : Nat.ofDigitChars 10 (List.replicate zeros '0' ++ Nat.toDigits 10 n) 0 = n := by
    rw [Nat.ofDigitChars_append, Nat.ofDigitChars_replicate_zero, Nat.mul_zero,
      Nat.ofDigitChars_ten_toDigits]
  have some_digit : List.replicate zeros '0' ++ Nat.toDigits 10 n ≠ [] :=
    List.append_ne_nil_of_right_ne_nil _ Nat.toDigits_ne_nil
  have point := @readFraction_digits _ _ _ negative digital some_digit (by rwa [value])
    (stopsAt_nil _)
  rw [List.append_nil, value, readScale_end (stopsAt_nil _), List.length_append,
    List.length_replicate] at point
  rw [readNumber_zero (stopsAt_cons rfl _)]
  exact point

theorem readNumber_scientific {scale : Int} (positive : 0 < n) (fits : n ≤ maxUnsigned)
    (small : scale.natAbs < exponentBound) :
    readNumber negative ((Nat.toDigits 10 n).take 1 ++
        ((if (Nat.toDigits 10 n).length = 1 then [] else '.' :: (Nat.toDigits 10 n).drop 1) ++
          'e' :: (toString scale).toList)) =
      double negative n (scale - ((Nat.toDigits 10 n).length - 1 : Nat)) [] := by
  have length := @Nat.length_toDigits_pos 10 n
  split
  · next single =>
    have whole : (Nat.toDigits 10 n).take 1 = Nat.toDigits 10 n := List.take_of_length_le single.le
    rw [whole, List.nil_append, readNumber_toDigits fits (stopsAt_cons rfl _), single]
    exact (readExponent_toString 0 small).trans (congrArg (double negative n · []) (by omega))
  · next several =>
    rw [readNumber_split positive fits Nat.one_pos (by omega) (stopsAt_cons rfl _),
      readScale_mark rfl, readExponent_toString _ small]
    exact congrArg (double negative n · []) (by omega)

end

theorem exists_readNumber_text {d : Decimal} (few : d.digits ≤ 10 ^ 17)
    (small : d.exponent.natAbs ≤ 1000) (negative : Bool) : ∃ significand exponent,
      readNumber negative d.text.toList = double negative significand exponent [] ∧
      significand ≤ maxUnsigned ∧ (exponent < 0 ∨
        0 < d.digits ∧ significand = d.strip.digits ∧ exponent = d.strip.exponent) := by
  rcases Nat.eq_zero_or_pos d.digits with none | positive
  · rw [text, if_pos none]
    exact ⟨0, -1, @readNumber_small 0 negative 0 (by decide), by decide, .inl (by decide)⟩
  · obtain ⟨zeros, strip, power⟩ := exists_strip positive
    have fewZeros : zeros ≤ 17 := (Nat.pow_le_pow_iff_right (by decide)).1 (power.trans few)
    rw [text, if_neg positive.ne']
    dsimp only
    rw [strip]
    dsimp only
    have positive' : 0 < d.digits / 10 ^ zeros := Nat.div_pos power (Nat.pow_pos (by decide))
    have few' : d.digits / 10 ^ zeros ≤ 10 ^ 17 := (Nat.div_le_self _ _).trans few
    have length := (Nat.length_toDigits_le_iff (b := 10) (n := d.digits / 10 ^ zeros) (k := 18)
      (by decide) (by decide)).2 (by omega)
    generalize d.digits / 10 ^ zeros = n at positive' few' length ⊢
    have fits : n ≤ maxUnsigned := few'.trans (by decide)
    generalize exact : d.exponent + (zeros : Nat) = exponent
    split
    · next whole =>
      have short : 10 ^ exponent.toNat * n < 10 ^ 16 :=
        (shifted_lt_of_toDigits exponent.toNat n).trans_le
          (Nat.pow_le_pow_right (by decide) (by omega))
      have least : 10 * 10 ^ 16 ≤ maxUnsigned := by decide
      have fits : 10 * (10 ^ exponent.toNat * n) ≤ maxUnsigned := by omega
      refine ⟨_, -1, Eq.trans (congrArg _ ?_) (readNumber_whole positive' fits), fits,
        .inl (by decide)⟩
      rw [String.toList_append, String.toList_ofList]
      rfl
    split
    · next whole middle =>
      let point := (exponent + (Nat.toDigits 10 n).length).toNat
      have read := @readNumber_split [] n negative point positive' fits (by omega) (by omega)
        (stopsAt_nil _)
      rw [readScale_end (stopsAt_nil _)] at read
      refine ⟨n, _, Eq.trans (congrArg _ ?_) read, fits, .inl (by omega)⟩
      simp only [String.toList_append, String.toList_ofList, List.append_assoc, List.append_nil]
      rfl
    split
    · next small =>
      let zeros := (-(exponent + (Nat.toDigits 10 n).length)).toNat
      have read := @readNumber_small n negative zeros fits
      refine ⟨n, _, Eq.trans (congrArg _ ?_) read, fits, .inl (by omega)⟩
      simp only [String.toList_append, String.toList_ofList]
      rfl
    · next large =>
      have bound : 2000 < exponentBound := by decide
      have several := @Nat.length_toDigits_pos 10 n
      have near : (exponent + (Nat.toDigits 10 n).length - 1).natAbs < exponentBound := by omega
      have read := @readNumber_scientific n negative _ positive' fits near
      refine ⟨n, _, Eq.trans (congrArg _ ?_) read, fits, .inr ⟨positive, rfl, by omega⟩⟩
      simp only [String.toList_append, String.toList_ofList, List.append_assoc]
      rfl

end ShapeInference.Json
