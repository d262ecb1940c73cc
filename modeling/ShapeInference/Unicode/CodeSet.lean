import ShapeInference.Text.Split

/-! Sets of code points, written as hexadecimal ranges between blanks and line ends: `41-5A 5F`
holds the capital letters of ASCII and the underscore. -/

set_option autoImplicit false

namespace ShapeInference.Unicode

def hexDigit (c : Char) : Nat :=
  if c.isDigit then c.toNat - 0x30 else c.toNat - 0x37

def readHex (digits : List Char) : Nat :=
  digits.foldl (fun n c => 16 * n + hexDigit c) 0

/-- Ranges with their first and last members. -/
abbrev CodeSet := List (Nat × Nat)

namespace CodeSet

def readRange (word : List Char) : Nat × Nat :=
  match word.span (· != '-') with
  | (first, []) => (readHex first, readHex first)
  | (first, _ :: last) => (readHex first, readHex last)

def ofText (text : String) : CodeSet :=
  (Text.tokens text.toList).map readRange

def contains (set : CodeSet) (c : Char) : Bool :=
  set.any fun range => range.1 ≤ c.toNat && c.toNat ≤ range.2

end CodeSet

end ShapeInference.Unicode
