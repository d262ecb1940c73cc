/-! Decoding Punycode, which spells a label of a domain name in ASCII.

An encoded label holds its ASCII characters, a hyphen, and digits of base 36 that tell which
character comes in at which place. The digits form numbers of varying length, whose end is found
by thresholds that adapt to the numbers before. All numbers stay within 32 bits.
-/

set_option autoImplicit false

namespace ShapeInference.Idna.Punycode

def digit? (c : Char) : Option Nat :=
  if 'a' ≤ c ∧ c ≤ 'z' then some (c.toNat - 0x61)
  else if 'A' ≤ c ∧ c ≤ 'Z' then some (c.toNat - 0x41)
  else if c.isDigit then some (c.toNat - 0x30 + 26)
  else none

def threshold (position bias : Nat) : Nat :=
  if position ≤ bias then 1 else if bias + 26 ≤ position then 26 else position - bias

def adaptFrom (delta bias : Nat) : Nat :=
  if 455 < delta then adaptFrom (delta / 35) (bias + 36) else bias + 36 * delta / (delta + 38)
termination_by delta

def adapt (delta length : Nat) (first : Bool) : Nat :=
  let scaled := if first then delta / 700 else delta / 2
  adaptFrom (scaled + scaled / length) 0

/-- `code` and `index` are the character and the place that the next number counts from. While a
number is read, `index` holds its sum so far, and `start` what it was before. -/
structure State where
  output : List Char
  code : Nat := 0x80
  bias : Nat := 72
  start : Nat := 0
  index : Nat := 0
  weight : Nat := 1
  position : Nat := 36

def insertAt (index : Nat) (c : Char) (cs : List Char) : List Char :=
  cs.take index ++ c :: cs.drop index

def within? (n : Nat) : Option Nat := if n < 0x100000000 then some n else none

def step (state : State) (c : Char) : Option State := do
  let d ← digit? c
  let index ← within? (state.index + d * state.weight)
  let t := threshold state.position state.bias
  if t ≤ d then
    let weight ← within? (state.weight * (36 - t))
    return { state with index, weight, position := state.position + 36 }
  else
    let length := state.output.length + 1
    let code ← within? (state.code + index / length)
    if !code.isValidChar then none
    else
      return {
        output := insertAt (index % length) (Char.ofNat code) state.output
        code
        bias := adapt (index - state.start) length (state.start = 0)
        start := index % length + 1
        index := index % length + 1 }

/-- The ASCII part ends at the last hyphen, unless that is the first character. -/
def decode? (label : List Char) : Option (List Char) := do
  let digits := (label.reverse.takeWhile (· != '-')).reverse
  let base := label.take (label.length - digits.length - 1)
  let digits := if base.isEmpty then label else digits
  let state ← digits.foldlM step { output := base }
  if state.weight = 1 ∧ state.position = 36 then some state.output else none

end ShapeInference.Idna.Punycode
