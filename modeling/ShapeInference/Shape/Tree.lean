import ShapeInference.Json.Printer
import ShapeInference.Shape.Basic

/-! Shapes as JSON: an object that names the kind of a node and holds its contents as `value`. -/

set_option autoImplicit false

namespace ShapeInference

def NumberKind.name : NumberKind → String
  | .int => "int"
  | .double => "double"

def DateFormat.name : DateFormat → String
  | .timestamp => "timestamp"
  | .dateOnly => "date_only"

namespace Shape

def node (kind : Kind) (value : Json) : Json :=
  .object [("kind", .string kind.name), ("value", value)]

mutual

def toJson : Shape → Json
  | .empty => .object [("kind", .string Kind.empty.name)]
  | .absent => node .optional .null
  | .optional t => node .optional t.toJson
  | .bool sample => node .bool (.bool sample)
  | .number kind => node .number (.string kind.name)
  | .text sample => node .text (.string sample)
  | .object name fields =>
    node .object (.object [("name", .string name), ("fields", .object (fieldsToJson fields))])
  | .array name values =>
    node .array (.object [("name", .string name), ("values", .array (valuesToJson values))])
  | .url literal => node .url (.string literal)
  | .date format => node .date (.string format.name)

def fieldsToJson : List (String × Shape) → List (String × Json)
  | [] => []
  | (key, t) :: rest => (key, t.toJson) :: fieldsToJson rest

def valuesToJson : List Shape → List Json
  | [] => []
  | t :: rest => t.toJson :: valuesToJson rest

end

/-- The tree as compact JSON. -/
def treeText (t : Shape) : String := t.toJson.compact

end Shape

end ShapeInference
