import ShapeInference.Json.Basic
import ShapeInference.Shape.Basic

/-! The shape of a single document.

Objects and arrays take the key under which they stand as their name, and the root takes a given
one. The elements of an array are named like the array, so that they can merge.
-/

set_option autoImplicit false

namespace ShapeInference

def Json.Number.kind : Json.Number → NumberKind
  | .integer _ => .int
  | .double _ => .double

namespace Shape

mutual

def ofJson (name : String) : Json → Shape
  | .null => .absent
  | .bool value => .bool value
  | .number value => .number value.kind
  | .string value => .text value
  | .array elements => .array name (valuesOfJson name elements)
  | .object members => .object name (fieldsOfJson members)

def valuesOfJson (name : String) : List Json → List Shape
  | [] => []
  | element :: rest => ofJson name element :: valuesOfJson name rest

def fieldsOfJson : List (String × Json) → List (String × Shape)
  | [] => []
  | (key, value) :: rest => (key, ofJson key value) :: fieldsOfJson rest

end

@[simp] theorem valuesOfJson_eq_map (name : String) (elements : List Json) :
    valuesOfJson name elements = elements.map (ofJson name) := by
  induction elements with
  | nil => rfl
  | cons element rest ih => simp [valuesOfJson, ih]

@[simp] theorem fieldsOfJson_eq_map (members : List (String × Json)) :
    fieldsOfJson members = members.map fun member => (member.1, ofJson member.1 member.2) := by
  induction members with
  | nil => rfl
  | cons member rest ih => simp [fieldsOfJson, ih]

/-- The shapes of documents under one name, in their order. -/
def seeds (name : String) (documents : List Json) : List Shape := documents.map (ofJson name)

end Shape

end ShapeInference
