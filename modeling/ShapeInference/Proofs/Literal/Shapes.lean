import Mathlib.Algebra.Group.Nat.Defs
import ShapeInference.Literal.Date

/-! Shapes of texts, and the numbers in them.

A shape holds of the texts that its fields write, one piece after the other. As a field of digits
has a fixed width, its number tells its text, and no number is too large to be read.
-/

set_option autoImplicit false

namespace ShapeInference.Literal

/-! Numbers of a fixed width. -/

def padded (width n : Nat) : List Char := (Nat.toDigits 10 n).leftpad width '0'

structure IsDigits (count : Nat) (text : List Char) : Prop where
  length_eq : text.length = count
  isDigit : ∀ c ∈ text, c.isDigit = true

section
variable {count limit n : Nat} {text other : List Char} {c d : Char}

theorem digit_iff : c.isDigit = true ↔ '0'.toNat ≤ c.toNat ∧ c.toNat ≤ '9'.toNat := by
  rw [Char.isDigit, Bool.and_eq_true, decide_eq_true_eq, decide_eq_true_eq]
  rfl

theorem digit_lt (digit : c.isDigit = true) : c.toNat - '0'.toNat < 10 := by
  have range := digit_iff.1 digit
  simp only [Char.reduceToNat] at range ⊢
  omega

theorem eq_of_digit (first : c.isDigit = true) (second : d.isDigit = true)
    (same : c.toNat - '0'.toNat = d.toNat - '0'.toNat) : c = d := by
  have left := digit_iff.1 first
  have right := digit_iff.1 second
  simp only [Char.reduceToNat] at left right same
  exact Char.toNat_inj.1 (by omega)

theorem valueOf_cons (c : Char) (rest : List Char) :
    valueOf (c :: rest) = 10 ^ rest.length * (c.toNat - '0'.toNat) + valueOf rest := by
  rw [valueOf, valueOf, Nat.ofDigitChars_cons, Nat.ofDigitChars_eq_ofDigitChars_zero, Nat.mul_zero,
    Nat.zero_add]

theorem IsDigits.valueOf_lt (digits : IsDigits count text) : valueOf text < 10 ^ count := by
  obtain ⟨rfl, digit⟩ := digits
  induction text with
  | nil => exact Nat.one_pos
  | cons c rest ih =>
    rw [List.forall_mem_cons] at digit
    have first := digit_lt digit.1
    have others := ih digit.2
    calc valueOf (c :: rest)
      _ = 10 ^ rest.length * (c.toNat - '0'.toNat) + valueOf rest := valueOf_cons c rest
      _ < 10 ^ rest.length * (c.toNat - '0'.toNat) + 10 ^ rest.length := by omega
      _ = 10 ^ rest.length * (c.toNat - '0'.toNat + 1) := (Nat.mul_succ _ _).symm
      _ ≤ 10 ^ rest.length * 10 := Nat.mul_le_mul_left _ first
      _ = 10 ^ (c :: rest).length := (Nat.pow_succ ..).symm

theorem IsDigits.eq_of_valueOf (first : IsDigits count text) (second : IsDigits count other)
    (same : valueOf text = valueOf other) : text = other := by
  induction text generalizing count other with
  | nil =>
    obtain ⟨rfl, -⟩ := first
    exact (List.length_eq_zero_iff.1 second.length_eq).symm
  | cons c rest ih =>
    obtain ⟨rfl, digit⟩ := first
    obtain ⟨length, digit'⟩ := second
    cases other with
    | nil => cases length
    | cons d others =>
      rw [List.forall_mem_cons] at digit digit'
      have width : others.length = rest.length := Nat.succ.inj length
      have left : IsDigits rest.length rest := ⟨rfl, digit.2⟩
      have right : IsDigits rest.length others := ⟨width, digit'.2⟩
      rw [valueOf_cons, valueOf_cons, width] at same
      -- The first digit is the quotient by the power, and the others make the remainder.
      have unit : 0 < 10 ^ rest.length := Nat.pow_pos (by decide)
      have heads := congrArg (· / 10 ^ rest.length) same
      have tails := congrArg (· % 10 ^ rest.length) same
      simp only [Nat.mul_add_div unit, Nat.mul_add_mod, Nat.div_eq_of_lt left.valueOf_lt,
        Nat.div_eq_of_lt right.valueOf_lt, Nat.mod_eq_of_lt left.valueOf_lt,
        Nat.mod_eq_of_lt right.valueOf_lt, Nat.add_zero] at heads tails
      rw [eq_of_digit digit.1 digit'.1 heads, ih left right tails]

theorem valueOf_padded (width n : Nat) : valueOf (padded width n) = n := by
  rw [valueOf, padded, List.leftpad, Nat.ofDigitChars_append, Nat.ofDigitChars_replicate_zero,
    Nat.mul_zero, Nat.ofDigitChars_ten_toDigits]

theorem isDigits_padded (wide : 0 < count) (fits : n < 10 ^ count) :
    IsDigits count (padded count n) := by
  constructor
  · have length := (Nat.length_toDigits_le_iff (by decide) wide).2 fits
    rw [padded, List.length_leftpad, Nat.max_eq_left length]
  · intro c member
    rw [padded, List.leftpad, List.mem_append] at member
    cases member with
    | inl zero => rw [List.eq_of_mem_replicate zero]; rfl
    | inr digit => exact Nat.isDigit_of_mem_toDigits (by decide) (by decide) digit

theorem IsDigits.eq_padded (digits : IsDigits count text) (wide : 0 < count) :
    text = padded count (valueOf text) :=
  digits.eq_of_valueOf (isDigits_padded wide digits.valueOf_lt) (valueOf_padded _ _).symm

theorem IsDigits.number?_eq (digits : IsDigits count text) (wide : 0 < count)
    (fits : 10 ^ count ≤ limit) : number? limit text = some (valueOf text) := by
  have nonempty : text.isEmpty = false := by
    rw [List.isEmpty_eq_false_iff, ← List.length_pos_iff, digits.length_eq]
    exact wide
  have all : text.all Char.isDigit = true := List.all_eq_true.2 digits.isDigit
  have bound := digits.valueOf_lt
  rw [number?, nonempty, all, if_neg (by simp)]
  exact if_pos (by omega)

theorem Captures.number?_eq {captures : Captures} {field : Field}
    (found : captures.lookup field = some text) (digits : IsDigits count text) (wide : 0 < count)
    (fits : 10 ^ count ≤ limit) : captures.number? limit field = some (valueOf text) := by
  rw [Captures.number?, found]
  exact digits.number?_eq wide fits

end

/-! Shapes. -/

inductive ZoneShape : List Char → Prop where
  | utc : ZoneShape ['Z']
  | offset {sign : Char} {hours colon minutes : List Char} : sign = '+' ∨ sign = '-' →
    IsDigits 2 hours → colon = [] ∨ colon = [':'] → IsDigits 2 minutes →
    ZoneShape (sign :: hours ++ colon ++ minutes)

inductive Captured : List Piece → List Char → Captures → Prop where
  | nil : Captured [] [] []
  | char {c : Char} {pieces : List Piece} {rest : List Char} {captures : Captures} :
    Captured pieces rest captures → Captured (.char c :: pieces) (c :: rest) captures
  | digits {field : Field} {count : Nat} {pieces : List Piece} {digits rest : List Char}
    {captures : Captures} : IsDigits count digits → Captured pieces rest captures →
    Captured (.digits field count :: pieces) (digits ++ rest) ((field, digits) :: captures)
  | zone {pieces : List Piece} {zone rest : List Char} {captures : Captures} :
    ZoneShape zone → Captured pieces rest captures →
    Captured (.zone :: pieces) (zone ++ rest) ((.zone, zone) :: captures)

section
variable {count : Nat} {text rest digits zone : List Char} {first second : List Piece}
  {captures : Captures}

theorem takeDigits_eq_some : takeDigits count text = some (digits, rest) ↔
    IsDigits count digits ∧ text = digits ++ rest := by
  rw [takeDigits]
  constructor
  · intro found
    split at found
    · next good =>
      cases found
      exact ⟨⟨good.1, List.all_eq_true.1 good.2⟩, (List.take_append_drop count text).symm⟩
    · cases found
  · rintro ⟨⟨rfl, all⟩, rfl⟩
    rw [List.take_left, List.drop_left, if_pos ⟨rfl, List.all_eq_true.2 all⟩]

theorem takeColon_eq_iff {colon : List Char} : takeColon text = (colon, rest) ↔
    text = colon ++ rest ∧ (colon = [':'] ∨ colon = [] ∧ rest.head? ≠ some ':') := by
  constructor
  · intro found
    unfold takeColon at found
    split at found
    · cases found
      exact ⟨rfl, .inl rfl⟩
    · next other =>
      cases found
      refine ⟨rfl, .inr ⟨rfl, fun start => ?_⟩⟩
      obtain ⟨tail, same⟩ := List.head?_eq_some_iff.1 start
      exact other tail same
  · rintro ⟨rfl, rfl | ⟨rfl, other⟩⟩
    · rfl
    · cases rest with
      | nil => rfl
      | cons c tail =>
        unfold takeColon
        split
        · next same =>
          cases same
          exact absurd rfl other
        · rfl

theorem IsDigits.head?_append_ne {c : Char} (digits : IsDigits (count + 1) text)
    (other : c.isDigit = false) : (text ++ rest).head? ≠ some c := by
  intro start
  obtain ⟨length, digit⟩ := digits
  cases text with
  | nil => cases length
  | cons first others =>
    cases start
    rw [digit c List.mem_cons_self] at other
    cases other

theorem takeZone_eq_some :
    takeZone text = some (zone, rest) ↔ ZoneShape zone ∧ text = zone ++ rest := by
  constructor
  · intro found
    cases text with
    | nil => cases found
    | cons c others =>
      unfold takeZone at found
      split at found
      · cases found
      · next same =>
        cases same
        cases found
        exact ⟨.utc, rfl⟩
      · next same =>
        cases same
        split at found
        · next sign =>
          simp only [Option.bind_eq_bind, Option.bind_eq_some_iff, Prod.exists, takeDigits_eq_some]
            at found
          obtain ⟨hours, behind, ⟨first, rfl⟩, minutes, last, ⟨second, tail⟩, same⟩ := found
          cases split : takeColon behind with
          | mk colon after =>
          rw [split] at tail same
          obtain ⟨rfl, colons⟩ := takeColon_eq_iff.1 split
          cases same
          dsimp only at tail
          subst tail
          refine ⟨.offset sign first (colons.symm.imp_left And.left) second, ?_⟩
          simp only [List.cons_append, List.append_assoc]
        · cases found
  · rintro ⟨shape, rfl⟩
    cases shape with
    | utc => rfl
    | @offset sign hours colon minutes signed first colons second =>
      have notUtc : sign ≠ 'Z' := by
        rintro rfl
        revert signed
        decide
      have minutesRead : takeDigits 2 (minutes ++ rest) = some (minutes, rest) :=
        takeDigits_eq_some.2 ⟨second, rfl⟩
      -- Without a colon, a digit comes next.
      have colonRead : takeColon (colon ++ (minutes ++ rest)) = (colon, minutes ++ rest) :=
        takeColon_eq_iff.2
          ⟨rfl, colons.symm.imp_right fun none => ⟨none, second.head?_append_ne (by decide)⟩⟩
      have hoursRead : takeDigits 2 (hours ++ (colon ++ (minutes ++ rest))) =
          some (hours, colon ++ (minutes ++ rest)) := takeDigits_eq_some.2 ⟨first, rfl⟩
      simp only [List.cons_append, List.append_assoc, takeZone]
      rw [if_pos signed, hoursRead]
      simp [colonRead, minutesRead]

theorem captures?_eq_some {shape : List Piece} :
    captures? shape text = some captures ↔ Captured shape text captures := by
  induction shape generalizing text captures with
  | nil =>
    cases text with
    | nil =>
      constructor
      · intro found
        cases found
        exact .nil
      · intro captured
        cases captured
        rfl
    | cons c rest =>
      constructor
      · intro found
        cases found
      · intro captured
        cases captured
  | cons piece pieces ih =>
    cases piece with
    | char c =>
      constructor
      · intro found
        cases text with
        | nil => cases found
        | cons first rest =>
          rw [captures?] at found
          split at found
          · next same =>
            subst same
            exact .char (ih.1 found)
          · cases found
      · intro captured
        cases captured with
        | char captured =>
          rw [captures?]
          exact (if_pos rfl).trans (ih.2 captured)
    | digits field count =>
      rw [captures?]
      simp only [Option.bind_eq_bind, Option.bind_eq_some_iff, Prod.exists, takeDigits_eq_some, ih]
      constructor
      · rintro ⟨digits, rest, ⟨read, rfl⟩, others, captured, same⟩
        cases same
        exact .digits read captured
      · intro captured
        cases captured with
        | digits read captured => exact ⟨_, _, ⟨read, rfl⟩, _, captured, rfl⟩
    | zone =>
      rw [captures?]
      simp only [Option.bind_eq_bind, Option.bind_eq_some_iff, Prod.exists, takeZone_eq_some, ih]
      constructor
      · rintro ⟨zone, rest, ⟨read, rfl⟩, others, captured, same⟩
        cases same
        exact .zone read captured
      · intro captured
        cases captured with
        | zone read captured => exact ⟨_, _, ⟨read, rfl⟩, _, captured, rfl⟩

theorem captured_digits {field : Field} :
    Captured [.digits field count] text captures ↔
      IsDigits count text ∧ captures = [(field, text)] := by
  constructor
  · intro captured
    cases captured with
    | digits read nothing =>
      cases nothing
      rw [List.append_nil]
      exact ⟨read, rfl⟩
  · rintro ⟨read, rfl⟩
    have captured : Captured [.digits field count] (text ++ []) [(field, text)] :=
      .digits read .nil
    rwa [List.append_nil] at captured

theorem captured_zone :
    Captured [.zone] text captures ↔ ZoneShape text ∧ captures = [(.zone, text)] := by
  constructor
  · intro captured
    cases captured with
    | zone read nothing =>
      cases nothing
      rw [List.append_nil]
      exact ⟨read, rfl⟩
  · rintro ⟨read, rfl⟩
    have captured : Captured [.zone] (text ++ []) [(.zone, text)] := .zone read .nil
    rwa [List.append_nil] at captured

theorem captured_field {field : Field} {c : Char} :
    Captured (.digits field count :: .char c :: first) text captures ↔
      ∃ digits rest others, IsDigits count digits ∧ Captured first rest others ∧
        text = digits ++ c :: rest ∧ captures = (field, digits) :: others := by
  constructor
  · intro captured
    cases captured with
    | digits read captured =>
      cases captured with
      | char captured => exact ⟨_, _, _, read, captured, rfl, rfl⟩
  · rintro ⟨digits, rest, others, read, captured, rfl, rfl⟩
    exact .digits read (.char captured)

theorem captured_append : Captured (first ++ second) text captures ↔
    ∃ before after fields others, text = before ++ after ∧ captures = fields ++ others ∧
      Captured first before fields ∧ Captured second after others := by
  constructor
  · intro captured
    induction first generalizing text captures with
    | nil => exact ⟨[], text, [], captures, rfl, rfl, .nil, captured⟩
    | cons piece pieces ih =>
      cases captured with
      | char captured =>
        obtain ⟨before, after, fields, others, rfl, rfl, left, right⟩ := ih captured
        exact ⟨_, _, _, _, rfl, rfl, .char left, right⟩
      | digits read captured =>
        obtain ⟨before, after, fields, others, rfl, rfl, left, right⟩ := ih captured
        exact ⟨_, _, _, _, (List.append_assoc ..).symm, rfl, .digits read left, right⟩
      | zone read captured =>
        obtain ⟨before, after, fields, others, rfl, rfl, left, right⟩ := ih captured
        exact ⟨_, _, _, _, (List.append_assoc ..).symm, rfl, .zone read left, right⟩
  · rintro ⟨before, after, fields, others, rfl, rfl, left, right⟩
    induction left with
    | nil => exact right
    | char _ ih => exact .char ih
    | digits read _ ih =>
      rw [List.append_assoc]
      exact .digits read ih
    | zone read _ ih =>
      rw [List.append_assoc]
      exact .zone read ih

end

end ShapeInference.Literal
