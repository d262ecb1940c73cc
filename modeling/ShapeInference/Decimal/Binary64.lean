/-! Finite doubles in exact arithmetic.

A magnitude `⟨m, e⟩` stands for `m · 2^e`. `ofRatio?` rounds a fraction to the nearest magnitude of
53 bits, a half going to the even neighbour, and has no answer beyond the largest double.
-/

set_option autoImplicit false

namespace ShapeInference

/-- The quotient rounded to the nearest natural number, a half going to the even one. -/
def divRoundEven (num den : Nat) : Nat :=
  let quotient := num / den
  let twice := 2 * (num % den)
  if den < twice ∨ (twice = den ∧ quotient % 2 = 1) then quotient + 1 else quotient

structure Magnitude where
  significand : Nat
  exponent : Int
  deriving DecidableEq, Repr

namespace Magnitude

def zero : Magnitude := ⟨0, -1074⟩

/-- The least significand of 53 bits. -/
def leastNormal : Nat := 0x10000000000000

/-- The fraction `num / den` in units of `2^exponent`, as a numerator and a denominator. -/
def inUnits (num den : Nat) (exponent : Int) : Nat × Nat :=
  (num * Nat.pow 2 (-exponent).toNat, den * Nat.pow 2 exponent.toNat)

def ofRatio? (num den : Nat) : Option Magnitude :=
  if num = 0 then some zero
  else
    let low := max ((num.log2 : Int) - den.log2 - 53) (-1074)
    let (n, d) := inUnits num den low
    let exponent := if n / d < 2 * leastNormal then low else low + 1
    let (n, d) := inUnits num den exponent
    let rounded := divRoundEven n d
    let (significand, exponent) :=
      if rounded = 2 * leastNormal then (leastNormal, exponent + 1) else (rounded, exponent)
    if exponent ≤ 971 then some ⟨significand, exponent⟩ else none

def ofNat? (n : Nat) : Option Magnitude := ofRatio? n 1

/-- The value as a numerator and a denominator. -/
def ratio (x : Magnitude) : Nat × Nat :=
  (x.significand * Nat.pow 2 x.exponent.toNat, Nat.pow 2 (-x.exponent).toNat)

def mul? (x y : Magnitude) : Option Magnitude :=
  ofRatio? (x.ratio.1 * y.ratio.1) (x.ratio.2 * y.ratio.2)

def div? (x y : Magnitude) : Option Magnitude :=
  ofRatio? (x.ratio.1 * y.ratio.2) (x.ratio.2 * y.ratio.1)

/-- The double nearest to `significand · 10^exponent`. -/
def ofDecimal? (significand : Nat) (exponent : Int) : Option Magnitude :=
  ofRatio? (significand * Nat.pow 10 exponent.toNat) (Nat.pow 10 (-exponent).toNat)

end Magnitude

/-- A double with its sign, which zero has too. -/
structure Binary64 where
  negative : Bool
  magnitude : Magnitude
  deriving DecidableEq, Repr

end ShapeInference
