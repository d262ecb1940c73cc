import ShapeInference.Json.Basic
import ShapeInference.Text.Split

/-! JSON pointers: the path to a value inside a document, in steps that a slash starts. In a step
`~1` stands for a slash and `~0` for a tilde. -/

set_option autoImplicit false

namespace ShapeInference.Json

/-- Puts `c` wherever a tilde stands before `mark`. -/
def unescape (mark c : Char) : List Char → List Char
  | [] => []
  | [a] => [a]
  | a :: b :: rest =>
    if a = '~' ∧ b = mark then c :: unescape mark c rest else a :: unescape mark c (b :: rest)

/-- An index has neither a sign nor leading zeros. -/
def indexOf? (step : List Char) : Option Nat :=
  if step.isEmpty || !step.all Char.isDigit || (step.head? = some '0' && step.length ≠ 1) then none
  else some (step.foldl (fun n c => 10 * n + (c.toNat - '0'.toNat)) 0)

def child? (step : List Char) : Json → Option Json
  | .object members => members.lookup (.ofList step)
  | .array elements => (indexOf? step).bind (elements[·]?)
  | _ => none

/-- The value at a pointer. The empty pointer means the whole document. -/
def pointer? (pointer : String) (document : Json) : Option Json :=
  match pointer.toList with
  | [] => some document
  | '/' :: rest =>
    (Text.splitOn '/' rest).foldlM
      (fun json step => json.child? (unescape '0' '~' (unescape '1' '/' step))) document
  | _ => none

end ShapeInference.Json
