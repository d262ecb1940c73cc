import ShapeInference.Text.Split

/-! IPv4 addresses in the forms that URLs allow: up to four numbers in decimal, octal or hexadecimal
notation, of which the last fills all bytes that the others leave. -/

set_option autoImplicit false

namespace ShapeInference.Url

def numeral? (radix : Nat) (digits : List Char) : Option Nat :=
  let digit? (c : Char) : Option Nat :=
    let value :=
      if '0' ≤ c ∧ c ≤ '9' then c.toNat - 0x30
      else if 'a' ≤ c ∧ c ≤ 'f' then c.toNat - 0x57
      else if 'A' ≤ c ∧ c ≤ 'F' then c.toNat - 0x37
      else radix
    if value < radix then some value else none
  (digits.mapM digit?).map fun values => values.foldl (fun n d => radix * n + d) 0

/-- The number of a part, of any size. `0x` alone is zero. -/
def ipv4Number? (part : List Char) : Option Nat :=
  match part with
  | [] => none
  | '0' :: 'x' :: digits => numeral? 16 digits
  | '0' :: 'X' :: digits => numeral? 16 digits
  | '0' :: d :: digits => numeral? 8 (d :: digits)
  | part => numeral? 10 part

/-- The last part that is not an empty one behind a final point. -/
def lastPart (parts : List (List Char)) : List Char :=
  match parts.reverse with
  | [] => []
  | [] :: last :: _ => last
  | last :: _ => last

/-- Whether a domain must be an IPv4 address. -/
def endsInNumber (parts : List (List Char)) : Bool :=
  let last := lastPart parts
  (!last.isEmpty && last.all Char.isDigit) || (ipv4Number? last).isSome

def ipv4? (parts : List (List Char)) : Option Nat := do
  let parts := if parts.getLast? = some [] then parts.dropLast else parts
  let numbers ← parts.mapM ipv4Number?
  match numbers.reverse with
  | [] => none
  | last :: others =>
    let room := Nat.pow 256 (4 - others.length)
    let fits := others.length ≤ 3 && others.all (· ≤ 255) && last < room
    if fits then some (others.reverse.foldl (fun n d => 256 * n + d) 0 * room + last)
    else none

end ShapeInference.Url
