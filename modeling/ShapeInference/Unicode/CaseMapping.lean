import ShapeInference.Unicode.CaseTable

/-! Full case mapping of a single character, without context or locale.

A character may map to several: `upper 'ß'` is `SS`. Inside ASCII the mappings are those of `Char`.
-/

set_option autoImplicit false

namespace ShapeInference.Unicode

def mapCase (special : List (Nat × List Nat)) (runs : List CaseRun) (c : Char) : List Char :=
  match special.lookup c.toNat with
  | some codes => codes.map Char.ofNat
  | none =>
    match runs.findSome? (·.map? c.toNat) with
    | some code => [Char.ofNat code]
    | none => [c]

def upper (c : Char) : List Char :=
  if c.toNat < 0x80 then [c.toUpper] else mapCase upperSpecial upperRuns c

def lower (c : Char) : List Char :=
  if c.toNat < 0x80 then [c.toLower] else mapCase lowerSpecial lowerRuns c

end ShapeInference.Unicode
