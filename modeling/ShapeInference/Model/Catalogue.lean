import ShapeInference.Log.Event
import ShapeInference.Shape.Merge

/-! The record types of a shape.

Objects of one type name form one record, which stands where the first of them does. Its fields are
those of all of them merged, unless an object does not fit those before it, which is then left out.
-/

set_option autoImplicit false

namespace ShapeInference

structure Catalogue where
  records : Members Fields := []
  events : List Event := []
  deriving Repr

namespace Catalogue

def add (catalogue : Catalogue) (typeName : String) (fields : Fields) : Catalogue :=
  match catalogue.records.lookup typeName with
  | none => { catalogue with records := catalogue.records.insert typeName fields }
  | some seen =>
    let events := catalogue.events ++ [.seenAgain typeName]
    match (Shape.object typeName seen).merge (.object typeName fields) with
    | .ok (.object _ unified) =>
      { records := catalogue.records.insert typeName unified, events }
    | .ok _ => { catalogue with events }
    | .error error => { catalogue with events := events ++ [.incompatible typeName error] }

end Catalogue

namespace Shape

mutual

/-- The objects of a shape with their type names, each before those inside it. -/
def objects : Shape → List (String × Fields)
  | .object name fields => (typeName name, fields) :: objectsInFields fields
  | .array _ values => objectsInValues values
  | .optional t => t.objects
  | _ => []

def objectsInFields : List (String × Shape) → List (String × Fields)
  | [] => []
  | (_, t) :: rest => t.objects ++ objectsInFields rest

def objectsInValues : List Shape → List (String × Fields)
  | [] => []
  | t :: rest => t.objects ++ objectsInValues rest

end

def catalogue (t : Shape) : Catalogue :=
  t.objects.foldl (fun catalogue object => catalogue.add object.1 object.2) {}

end Shape

end ShapeInference
