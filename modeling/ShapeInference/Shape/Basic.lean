import ShapeInference.Members
import ShapeInference.Naming

/-! The shape of sample documents.

One tree serves every stage of inference: the seed of one document, the merged tree of many, and
the refined tree with type names, URLs and dates. The fields of an object keep their order.
-/

set_option autoImplicit false

namespace ShapeInference

inductive NumberKind where
  | int
  | double
  deriving DecidableEq, Repr

inductive DateFormat where
  | timestamp
  | dateOnly
  deriving DecidableEq, Repr

/-- `absent` was null in every sample, and `optional` was missing or null in some of them. Leaves
keep one literal of the samples. -/
inductive Shape where
  | empty
  | absent
  | optional (inner : Shape)
  | bool (sample : Bool)
  | number (kind : NumberKind)
  | text (sample : String)
  | object (name : String) (fields : List (String × Shape))
  | array (name : String) (values : List Shape)
  | url (literal : String)
  | date (format : DateFormat)
  deriving Repr, BEq, Inhabited

abbrev Fields := Members Shape

/-- What a node is, apart from its contents. -/
inductive Kind where
  | empty
  | optional
  | bool
  | number
  | text
  | object
  | array
  | url
  | date
  deriving DecidableEq, Repr

def Kind.name : Kind → String
  | .empty => "empty"
  | .optional => "optional"
  | .bool => "bool"
  | .number => "number"
  | .text => "text"
  | .object => "object"
  | .array => "array"
  | .url => "url"
  | .date => "date"

namespace Shape

def kind : Shape → Kind
  | .empty => .empty
  | .absent => .optional
  | .optional _ => .optional
  | .bool _ => .bool
  | .number _ => .number
  | .text _ => .text
  | .object _ _ => .object
  | .array _ _ => .array
  | .url _ => .url
  | .date _ => .date

def isOptional (t : Shape) : Bool := t.kind = .optional

/-- The shape with null allowed. It never puts one optional around another. -/
def orAbsent : Shape → Shape
  | .empty => .absent
  | .absent => .absent
  | .optional t => .optional t
  | t => .optional t

@[simp] theorem isOptional_orAbsent (t : Shape) : t.orAbsent.isOptional = true := by
  cases t <;> rfl

@[simp] theorem orAbsent_orAbsent (t : Shape) : t.orAbsent.orAbsent = t.orAbsent := by
  cases t <;> rfl

/-- The type of the node in the notation of the generated code. An array takes the type of its
first value. -/
def descriptor : Shape → String
  | .empty => "Any"
  | .absent => "Any?"
  | .optional t => t.descriptor ++ "?"
  | .bool _ => "Bool"
  | .number .int => "Int"
  | .number .double => "Double"
  | .text _ => "String"
  | .object name _ => typeName name
  | .array _ [] => "[Any]"
  | .array _ (t :: _) => "[" ++ t.descriptor ++ "]"
  | .url _ => "URL"
  | .date _ => "Date"

end Shape

end ShapeInference
