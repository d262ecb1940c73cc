import ShapeInference.Json.Printer
import ShapeInference.Model.Catalogue

/-! The type model of a shape: what a code generator has to declare. -/

set_option autoImplicit false

namespace ShapeInference

structure Property where
  key : String
  name : String
  type : String
  isOptional : Bool
  /-- A value that some sample had. -/
  sample : Option Json
  deriving Repr

structure RecordType where
  name : String
  properties : List Property
  deriving Repr

structure Model where
  root : String
  types : List RecordType
  deriving Repr

/-- The literal that a leaf keeps. -/
def Shape.sample? : Shape → Option Json
  | .text sample => some (.string sample)
  | .bool sample => some (.bool sample)
  | .url literal => some (.string literal)
  | .optional t => t.sample?
  | _ => none

namespace Property

def ofField (field : String × Shape) : Property where
  key := field.1
  name := propertyName field.1
  type := field.2.descriptor
  isOptional := field.2.isOptional
  sample := field.2.sample?

def toJson (property : Property) : Json :=
  .object ([("key", .string property.key), ("name", .string property.name),
    ("type", .string property.type), ("optional", .bool property.isOptional)] ++
    property.sample.toList.map fun sample => ("sample", sample))

end Property

namespace RecordType

def ofRecord (record : String × Fields) : RecordType where
  name := record.1
  properties := record.2.map .ofField

def toJson (type : RecordType) : Json :=
  .object [("name", .string type.name), ("properties", .array (type.properties.map Property.toJson))]

end RecordType

namespace Model

def ofShape (t : Shape) : Model where
  root := t.descriptor
  types := t.catalogue.records.map .ofRecord

def toJson (model : Model) : Json :=
  .object [("root", .string model.root), ("types", .array (model.types.map RecordType.toJson))]

end Model

end ShapeInference
