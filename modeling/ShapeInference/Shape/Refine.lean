import ShapeInference.Literal.Date
import ShapeInference.Literal.Url
import ShapeInference.Log.Logged
import ShapeInference.Shape.Merge
import ShapeInference.Singular

/-! Refining a merged shape: type names, URLs and dates.

Every object and array takes the type name of the key it stands under, and the elements of an array
take the singular of its name. A text that is a URL or a date becomes one. As that can change what
an element is, the elements of an array are merged once more.
-/

set_option autoImplicit false

namespace ShapeInference

structure Refinement where
  singular : Singularizer := dropLast
  /-- Whether what stands below an optional is refined too. -/
  throughOptionals : Bool := false

namespace Refinement

def text (name sample : String) : Logged MergeError Shape :=
  if Literal.isUrl sample then do
    .report (.foundUrl name)
    return .url sample
  else
    match Literal.dateFormat? sample with
    | some format => do
      .report (.foundDate name format)
      return .date format
    | none => return .text sample

mutual

def node (r : Refinement) (name : String) : Shape → Logged MergeError Shape
  | .text sample => text name sample
  | .object _ fields => do return .object (typeName name) (← r.fields fields)
  | .array _ values => do
    let values ← r.values (r.singular name) values
    return .array (typeName name) (← .ofExcept (Shape.representative values))
  | .optional t => do
    if r.throughOptionals then return (← r.node name t).orAbsent else return .optional t
  | t => return t

def fields (r : Refinement) : List (String × Shape) → Logged MergeError Fields
  | [] => return []
  | (key, t) :: rest => do
    let t ← r.node key t
    return (key, t) :: (← r.fields rest)

def values (r : Refinement) (name : String) : List Shape → Logged MergeError (List Shape)
  | [] => return []
  | t :: rest => do
    let t ← r.node name t
    return t :: (← r.values name rest)

end

def run (r : Refinement) (name : String) (t : Shape) : Logged MergeError Shape := do
  .report (.refining name t.kind)
  r.node name t

end Refinement

/-- The refined shape, whose root is named `name`. -/
def Shape.refine (t : Shape) (r : Refinement) (name : String) : Except MergeError Shape :=
  (r.node name t).outcome

namespace Refinement

variable (r : Refinement) (name : String)

@[simp] theorem outcome_run (t : Shape) : (r.run name t).outcome = t.refine r name := by
  simp [run, Shape.refine, Except.bind]

theorem refine_object (n : String) (members : Fields) :
    (Shape.object n members).refine r name =
      (r.fields members).outcome.map (.object (typeName name)) := by
  simp [Shape.refine, node]
  cases (r.fields members).outcome <;> rfl

theorem refine_array (n : String) (elements : List Shape) :
    (Shape.array n elements).refine r name =
      ((r.values (r.singular name) elements).outcome.bind Shape.representative).map
        (.array (typeName name)) := by
  simp [Shape.refine, node]
  cases (r.values (r.singular name) elements).outcome with
  | error e => rfl
  | ok values => simp only [Except.bind]; cases Shape.representative values <;> rfl

theorem refine_optional (t : Shape) :
    (Shape.optional t).refine r name =
      if r.throughOptionals then (t.refine r name).map Shape.orAbsent else .ok (.optional t) := by
  simp only [Shape.refine, node]
  split
  · simp; cases (r.node name t).outcome <;> rfl
  · rfl

theorem outcome_fields_cons (key : String) (t : Shape) (rest : Fields) :
    (r.fields ((key, t) :: rest)).outcome =
      (t.refine r key).bind fun t => (r.fields rest).outcome.map ((key, t) :: ·) := by
  simp [Shape.refine, fields]
  cases (r.node key t).outcome with
  | error e => rfl
  | ok t => simp only [Except.bind]; cases (r.fields rest).outcome <;> rfl

theorem outcome_values_cons (t : Shape) (rest : List Shape) :
    (r.values name (t :: rest)).outcome =
      (t.refine r name).bind fun t => (r.values name rest).outcome.map (t :: ·) := by
  simp [Shape.refine, values]
  cases (r.node name t).outcome with
  | error e => rfl
  | ok t => simp only [Except.bind]; cases (r.values name rest).outcome <;> rfl

end Refinement

end ShapeInference
