import ShapeInference.Decimal.Binary64

/-! The shortest decimal that reads back as a given double, and its text.

A decimal reads back as `x` when it lies between the midpoints to the neighbours of `x`, which
themselves count when the significand is even. The decimals of `n` digits form a grid, and if one
of its points lies in that interval then so does one of the two points beside `x`. The first grid
with a hit wins, and of two hits the nearer one.
-/

set_option autoImplicit false

namespace ShapeInference

/-- `digits · 10^exponent`. -/
structure Decimal where
  digits : Nat
  exponent : Int
  deriving DecidableEq, Repr

namespace Magnitude

/-- The double and the ends of its interval, as numerators over one denominator. -/
structure Interval where
  low : Nat
  mid : Nat
  high : Nat
  den : Nat
  closed : Bool

def interval (x : Magnitude) : Interval :=
  let unit := x.exponent - 2
  let below := if x.significand = leastNormal ∧ -1074 < x.exponent then 1 else 2
  let scale := Nat.pow 2 unit.toNat
  { low := (4 * x.significand - below) * scale
    mid := 4 * x.significand * scale
    high := (4 * x.significand + 2) * scale
    den := Nat.pow 2 (-unit).toNat
    closed := x.significand % 2 = 0 }

/-- The largest exponent of ten, from 400 down, that is at most the fraction. It is -400 if none is. -/
def floorLog10 (num den : Nat) : Int :=
  400 - (List.range 800).findIdx fun (i : Nat) =>
    let k : Int := 400 - i
    decide (den * Nat.pow 10 k.toNat ≤ num * Nat.pow 10 (-k).toNat)

/-- A point of the grid of `10^exponent` that reads back as the double. -/
def gridHit? (range : Interval) (exponent : Int) : Option Decimal :=
  let up := Nat.pow 10 (-exponent).toNat
  let den := range.den * Nat.pow 10 exponent.toNat
  let inside (point : Nat) : Bool :=
    if range.closed then range.low * up ≤ point * den && point * den ≤ range.high * up
    else range.low * up < point * den && point * den < range.high * up
  let point := range.mid * up / den
  let fraction := range.mid * up % den
  match inside point, inside (point + 1) with
  | true, false => some ⟨point, exponent⟩
  | false, true => some ⟨point + 1, exponent⟩
  | true, true =>
    if den < 2 * fraction ∨ (2 * fraction = den ∧ point % 2 = 1) then some ⟨point + 1, exponent⟩
    else some ⟨point, exponent⟩
  | false, false => none

def shortest (x : Magnitude) : Decimal :=
  if x.significand = 0 then ⟨0, 0⟩
  else
    let range := x.interval
    let top := floorLog10 range.mid range.den
    ((List.range 17).findSome? fun (n : Nat) => gridHit? range (top - n)).getD ⟨x.significand, x.exponent⟩

end Magnitude

namespace Decimal

/-- The same decimal without trailing zeros in its digits. -/
def strip (x : Decimal) : Decimal :=
  if x.digits = 0 then x
  else
    let zeros := ((Nat.toDigits 10 x.digits).reverse.takeWhile (· = '0')).length
    ⟨x.digits / Nat.pow 10 zeros, x.exponent + zeros⟩

/-- Positional notation from `10^-5` up to below `10^16`, with a point in every case, and
scientific notation with one digit before the point elsewhere. -/
def text (x : Decimal) : String :=
  if x.digits = 0 then "0.0"
  else
    let x := x.strip
    let digits := Nat.toDigits 10 x.digits
    let point : Int := x.exponent + digits.length
    let zeros (n : Int) := List.replicate n.toNat '0'
    if 0 ≤ x.exponent ∧ point ≤ 16 then
      .ofList (digits ++ zeros x.exponent) ++ ".0"
    else if 0 < point ∧ point ≤ 16 then
      .ofList (digits.take point.toNat) ++ "." ++ .ofList (digits.drop point.toNat)
    else if -5 < point ∧ point ≤ 0 then
      "0." ++ .ofList (zeros (-point) ++ digits)
    else
      let fraction := if digits.length = 1 then [] else '.' :: digits.drop 1
      .ofList (digits.take 1 ++ fraction) ++ "e" ++ toString (point - 1)

end Decimal

def Binary64.text (x : Binary64) : String :=
  (if x.negative then "-" else "") ++ x.magnitude.shortest.text

end ShapeInference
