import ShapeInference.Json.Basic
import ShapeInference.Json.Fault

/-! Reading numbers.

A number without fraction and exponent that fits 64 bits is an integer, apart from `-0`. Any other
number is a double, made from the leading digits that fit 64 bits: their nearest double is
multiplied or divided by the nearest double to a power of ten, and digits beyond them only count
for the exponent. The result may differ from the nearest double to the number in its last bit.

Each reader returns the text it leaves. The lemmas say that this is never longer than its input.
-/

set_option autoImplicit false

namespace ShapeInference.Json

abbrev Readout (α : Type) := Except Fault (α × List Char)

def digitValue (c : Char) : Nat := c.toNat - 0x30

def maxUnsigned : Nat := 0xFFFFFFFFFFFFFFFF

/-- The digits added to a significand until it would exceed 64 bits. -/
structure Digits where
  significand : Nat
  added : Nat := 0
  dropped : Nat := 0

def addDigits (significand : Nat) : List Char → Digits
  | [] => { significand }
  | d :: rest =>
    let next := 10 * significand + digitValue d
    if maxUnsigned < next then { significand, dropped := rest.length + 1 }
    else
      let digits := addDigits next rest
      { digits with added := digits.added + 1 }

/-- Divides by `10^count`, by at most `10^308` at a time. -/
def scaleDown (x : Magnitude) (count : Nat) : Magnitude :=
  let byPower (k : Nat) : Magnitude :=
    ((Magnitude.ofNat? (Nat.pow 10 k)).bind fun power => x.div? power).getD .zero
  if count ≤ 308 then byPower count
  else if x.significand = 0 then x
  else scaleDown (byPower 308) (count - 308)
termination_by count

/-- `significand · 10^exponent`, or nothing beyond the largest double. -/
def scale? (significand : Nat) (exponent : Int) : Option Magnitude := do
  let x ← Magnitude.ofNat? significand
  if exponent < 0 then return scaleDown x (-exponent).toNat
  else if exponent ≤ 308 then x.mul? (← Magnitude.ofNat? (Nat.pow 10 exponent.toNat))
  else if significand = 0 then return x
  else none

def double (negative : Bool) (significand : Nat) (exponent : Int) (rest : List Char) :
    Readout Number :=
  match scale? significand exponent with
  | some magnitude => .ok (.double ⟨negative, magnitude⟩, rest)
  | none => .error { cause := .numberOutOfRange, left := utf8Size rest }

/-- The least exponent of more than 31 bits. -/
def exponentBound : Nat := 0x80000000

/-- The digits of an exponent up to the first that makes it exceed 31 bits, with what follows. -/
def exponentDigits (exponent : Nat) : List Char → Nat × List Char
  | [] => (exponent, [])
  | c :: rest =>
    if c.isDigit then
      let next := 10 * exponent + digitValue c
      if exponentBound ≤ next then (next, rest) else exponentDigits next rest
    else (exponent, c :: rest)

/-- Reads the exponent after its sign, for the number `significand · 10^start`. -/
def signedExponent (negative : Bool) (significand : Nat) (start : Int) (down : Bool) :
    List Char → Readout Number
  | [] => .error { cause := .endInValue, left := 0 }
  | c :: rest =>
    if c.isDigit then
      let (exponent, rest) := exponentDigits (digitValue c) rest
      if exponent < exponentBound then
        double negative significand (if down then start - exponent else start + exponent) rest
      else if significand = 0 ∨ down then
        .ok (.double ⟨negative, .zero⟩, rest.dropWhile Char.isDigit)
      else .error { cause := .numberOutOfRange, left := utf8Size rest }
    else .error { cause := .invalidNumber, left := utf8Size (c :: rest) - 1 }

def readExponent (negative : Bool) (significand : Nat) (start : Int) (text : List Char) :
    Readout Number :=
  match text with
  | '+' :: rest => signedExponent negative significand start false rest
  | '-' :: rest => signedExponent negative significand start true rest
  | _ => signedExponent negative significand start false text

/-- Reads on after the integer part, which is `significand · 10^dropped`. -/
def readFraction (negative : Bool) (significand dropped : Nat) (text : List Char) :
    Readout Number :=
  match text with
  | '.' :: rest =>
    let digits := rest.takeWhile Char.isDigit
    let after := rest.dropWhile Char.isDigit
    let fraction := addDigits significand digits
    let exponent : Int := dropped - fraction.added
    if digits.isEmpty then
      .error {
        cause := if rest.isEmpty then .endInValue else .invalidNumber
        left := utf8Size rest - 1 }
    else
      match after with
      | 'e' :: tail => readExponent negative fraction.significand exponent tail
      | 'E' :: tail => readExponent negative fraction.significand exponent tail
      | _ => double negative fraction.significand exponent after
  | 'e' :: rest => readExponent negative significand dropped rest
  | 'E' :: rest => readExponent negative significand dropped rest
  | _ =>
    if dropped ≠ 0 then double negative significand dropped text
    else if !negative then .ok (.integer significand, text)
    else if 0 < significand ∧ significand ≤ 0x8000000000000000 then .ok (.integer (-significand), text)
    else double true significand 0 text

/-- Reads a number after its sign. -/
def readNumber (negative : Bool) (text : List Char) : Readout Number :=
  match text with
  | [] => .error { cause := .endInValue, left := 0 }
  | c :: rest =>
    if c = '0' then
      if rest.head?.any Char.isDigit then
        .error { cause := .invalidNumber, left := utf8Size rest - 1 }
      else readFraction negative 0 0 rest
    else if c.isDigit then
      let digits := addDigits (digitValue c) (rest.takeWhile Char.isDigit)
      readFraction negative digits.significand digits.dropped (rest.dropWhile Char.isDigit)
    else .error { cause := .invalidNumber, left := utf8Size text - 1 }

theorem double_rest {negative : Bool} {significand : Nat} {exponent : Int}
    {text rest : List Char} {value : Number}
    (ok : double negative significand exponent text = .ok (value, rest)) : rest = text := by
  simp only [double] at ok
  split at ok <;> simp at ok
  exact ok.2.symm

theorem exponentDigits_rest_suffix (exponent : Nat) (text : List Char) :
    (exponentDigits exponent text).2 <:+ text := by
  induction text generalizing exponent with
  | nil => exact List.suffix_refl []
  | cons c rest ih =>
    simp only [exponentDigits]
    split
    · split
      · exact List.suffix_cons c rest
      · exact (ih _).trans (List.suffix_cons c rest)
    · exact List.suffix_refl _

theorem signedExponent_rest_suffix {negative down : Bool} {significand : Nat} {start : Int}
    {text rest : List Char} {value : Number}
    (ok : signedExponent negative significand start down text = .ok (value, rest)) :
    rest <:+ text := by
  cases text with
  | nil => simp [signedExponent] at ok
  | cons c tail =>
    have digits := (exponentDigits_rest_suffix (digitValue c) tail).trans (List.suffix_cons c tail)
    simp only [signedExponent] at ok
    split at ok
    · split at ok
      · rw [double_rest ok]; exact digits
      · split at ok
        · simp only [Except.ok.injEq, Prod.mk.injEq] at ok
          rw [← ok.2]
          exact (List.dropWhile_suffix _).trans digits
        · simp at ok
    · simp at ok

theorem readExponent_rest_suffix {negative : Bool} {significand : Nat} {start : Int}
    {text rest : List Char} {value : Number}
    (ok : readExponent negative significand start text = .ok (value, rest)) : rest <:+ text := by
  simp only [readExponent] at ok
  split at ok
  · exact (signedExponent_rest_suffix ok).trans (List.suffix_cons _ _)
  · exact (signedExponent_rest_suffix ok).trans (List.suffix_cons _ _)
  · exact signedExponent_rest_suffix ok

theorem readFraction_rest_suffix {negative : Bool} {significand dropped : Nat}
    {text rest : List Char} {value : Number}
    (ok : readFraction negative significand dropped text = .ok (value, rest)) :
    rest <:+ text := by
  simp only [readFraction] at ok
  split at ok
  · next tail =>
    have after : tail.dropWhile Char.isDigit <:+ '.' :: tail :=
      (List.dropWhile_suffix _).trans (List.suffix_cons _ _)
    split at ok
    · simp at ok
    · split at ok
      · next left same =>
        rw [same] at after
        exact ((readExponent_rest_suffix ok).trans (List.suffix_cons _ _)).trans after
      · next left same =>
        rw [same] at after
        exact ((readExponent_rest_suffix ok).trans (List.suffix_cons _ _)).trans after
      · rw [double_rest ok]; exact after
  · exact (readExponent_rest_suffix ok).trans (List.suffix_cons _ _)
  · exact (readExponent_rest_suffix ok).trans (List.suffix_cons _ _)
  · split at ok
    · exact double_rest ok ▸ List.suffix_refl _
    · split at ok
      · simp only [Except.ok.injEq, Prod.mk.injEq] at ok; exact ok.2 ▸ List.suffix_refl _
      · split at ok
        · simp only [Except.ok.injEq, Prod.mk.injEq] at ok; exact ok.2 ▸ List.suffix_refl _
        · exact double_rest ok ▸ List.suffix_refl _

theorem readNumber_shorter {negative : Bool} {text rest : List Char} {value : Number}
    (ok : readNumber negative text = .ok (value, rest)) : rest.length < text.length := by
  cases text with
  | nil => simp [readNumber] at ok
  | cons c tail =>
    simp only [readNumber] at ok
    split at ok
    · split at ok
      · simp at ok
      · have := (readFraction_rest_suffix ok).length_le
        simp only [List.length_cons]; omega
    · split at ok
      · have := (readFraction_rest_suffix ok).length_le
        have := (List.dropWhile_suffix Char.isDigit (l := tail)).length_le
        simp only [List.length_cons]; omega
      · simp at ok

end ShapeInference.Json
