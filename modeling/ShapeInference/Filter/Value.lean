import ShapeInference.Json.Printer

/-! The values that filters work on: JSON, with numbers that can be as exact as they were written.

An integer of 64 bits is kept as such. Any other numeral keeps its text until it is computed with,
and counts as the nearest double.
-/

set_option autoImplicit false

namespace ShapeInference.Filter

inductive Numeral where
  | integer (value : Int)
  | literal (text : List Char)
  | double (value : Binary64)
  deriving DecidableEq, Repr

inductive Value where
  | null
  | bool (value : Bool)
  | number (value : Numeral)
  | string (value : String)
  | array (elements : List Value)
  | object (members : List (String × Value))
  deriving Repr, Inhabited

namespace Numeral

def fitsInteger (value : Int) : Bool := -0x8000000000000000 ≤ value && value < 0x8000000000000000

def ofNumber : Json.Number → Numeral
  | .integer value => if fitsInteger value then .integer value else .literal (toString value).toList
  | .double value => .literal value.text.toList

def chars : Numeral → List Char
  | .integer value => (toString value).toList
  | .literal text => text
  | .double value => value.text.toList

def natOfDigits (digits : List Char) : Nat :=
  digits.foldl (fun n c => 10 * n + (c.toNat - '0'.toNat)) 0

/-- The numeral of a filter's text, which has no sign. -/
def ofText (text : List Char) : Numeral :=
  if text.all Char.isDigit && natOfDigits text < 0x8000000000000000 then .integer (natOfDigits text)
  else .literal text

/-- The exponent behind its mark. -/
def exponentOf : List Char → Int
  | _ :: '-' :: digits => -(natOfDigits digits : Int)
  | _ :: '+' :: digits => natOfDigits digits
  | _ :: digits => natOfDigits digits
  | [] => 0

/-- The nearest double, or none beyond the largest. Exponents far from the doubles are not
multiplied out. -/
def literalDouble? (text : List Char) : Option Binary64 :=
  let (negative, text) :=
    match text with
    | '-' :: rest => (true, rest)
    | text => (false, text)
  let isMark (c : Char) : Bool := c = 'e' || c = 'E'
  let mantissa := text.takeWhile (!isMark ·)
  let fraction := (mantissa.dropWhile (· ≠ '.')).drop 1
  let digits := mantissa.filter Char.isDigit
  let significand := natOfDigits digits
  let exponent := exponentOf (text.dropWhile (!isMark ·)) - fraction.length
  if significand = 0 || exponent < -400 - digits.length then some ⟨negative, .zero⟩
  else if 400 < exponent then none
  else (Magnitude.ofDecimal? significand exponent).map (⟨negative, ·⟩)

def double? : Numeral → Option Binary64
  | .integer value => (Magnitude.ofNat? value.natAbs).map (⟨value < 0, ·⟩)
  | .literal text => literalDouble? text
  | .double value => some value

/-- Zeros are equal whatever their sign. -/
def sameDouble (x y : Binary64) : Bool :=
  x = y || (x.magnitude.significand = 0 && y.magnitude.significand = 0)

/-- Integers are equal as such, and other numerals when their doubles are. -/
def equal : Numeral → Numeral → Bool
  | .integer x, .integer y => x = y
  | x, y =>
    match x.double?, y.double? with
    | some x, some y => sameDouble x y
    | none, none => true
    | _, _ => false

end Numeral

namespace Value

mutual

def ofJson : Json → Value
  | .null => .null
  | .bool value => .bool value
  | .number value => .number (.ofNumber value)
  | .string value => .string value
  | .array elements => .array (elementsOfJson elements)
  | .object members => .object (membersOfJson members)

def elementsOfJson : List Json → List Value
  | [] => []
  | element :: rest => ofJson element :: elementsOfJson rest

def membersOfJson : List (String × Json) → List (String × Value)
  | [] => []
  | (key, value) :: rest => (key, ofJson value) :: membersOfJson rest

end

mutual

/-- The value as compact JSON text. -/
def chars : Value → List Char
  | .null => ['n', 'u', 'l', 'l']
  | .bool true => ['t', 'r', 'u', 'e']
  | .bool false => ['f', 'a', 'l', 's', 'e']
  | .number value => value.chars
  | .string value => Json.stringChars value
  | .array [] => ['[', ']']
  | .array (element :: rest) => '[' :: (element.chars ++ elementsChars rest)
  | .object [] => ['{', '}']
  | .object ((key, value) :: rest) =>
    '{' :: (Json.stringChars key ++ ':' :: (value.chars ++ membersChars rest))

def elementsChars : List Value → List Char
  | [] => [']']
  | element :: rest => ',' :: (element.chars ++ elementsChars rest)

def membersChars : List (String × Value) → List Char
  | [] => ['}']
  | (key, value) :: rest =>
    ',' :: (Json.stringChars key ++ ':' :: (value.chars ++ membersChars rest))

end

mutual

/-- Equality that ignores the order of members. -/
def equal : Value → Value → Bool
  | .null, .null => true
  | .bool x, .bool y => x = y
  | .number x, .number y => x.equal y
  | .string x, .string y => x = y
  | .array xs, .array ys => equalElements xs ys
  | .object xs, .object ys => xs.length = ys.length && equalMembers xs ys
  | _, _ => false

def equalElements : List Value → List Value → Bool
  | [], [] => true
  | x :: xs, y :: ys => x.equal y && equalElements xs ys
  | _, _ => false

/-- Whether each member of the first list is a member of the second. -/
def equalMembers : List (String × Value) → List (String × Value) → Bool
  | [], _ => true
  | (key, x) :: rest, ys =>
    (match ys.lookup key with
    | some y => x.equal y
    | none => false) && equalMembers rest ys

end

mutual

/-- The value and all values inside it, each before those inside it. -/
def descendants : Value → List Value
  | .array elements => .array elements :: elementsDescendants elements
  | .object members => .object members :: membersDescendants members
  | value => [value]

def elementsDescendants : List Value → List Value
  | [] => []
  | element :: rest => element.descendants ++ elementsDescendants rest

def membersDescendants : List (String × Value) → List Value
  | [] => []
  | (_, value) :: rest => value.descendants ++ membersDescendants rest

end

/-- All but null and false. -/
def isTruthy : Value → Bool
  | .null => false
  | .bool value => value
  | _ => true

end Value

end ShapeInference.Filter
