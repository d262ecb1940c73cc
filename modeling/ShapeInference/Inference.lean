import ShapeInference.Json.Reader
import ShapeInference.Model.Basic
import ShapeInference.Shape.Refine
import ShapeInference.Shape.Seed

/-! Inference: from documents over their merged shape to the refined shape and its type model. -/

set_option autoImplicit false

namespace ShapeInference

namespace Json

/-- The documents of a source: the first one, or the whole stream. -/
def readDocuments (stream : Bool) (source : String) : Except ReadError (List Json) :=
  if stream then readAll source else (read source).map ([·])

end Json

namespace Shape

def reduceLogged (samples : List Shape) : Logged MergeError Shape := do
  let t ← .ofExcept (reduce samples)
  .report (.reduced samples.length t.descriptor)
  return t

@[simp] theorem outcome_reduceLogged (samples : List Shape) :
    (reduceLogged samples).outcome = reduce samples := by
  simp [reduceLogged]
  cases reduce samples <;> rfl

end Shape

def Model.report {ε : Type} (t : Shape) : Logged ε Model := do
  .reportAll t.catalogue.events
  return .ofShape t

inductive Stage where
  | merging
  | refining
  deriving DecidableEq, Repr

structure InferenceError where
  stage : Stage
  error : MergeError
  deriving DecidableEq, Repr

structure Inference where
  merged : Shape
  refined : Shape
  model : Model
  deriving Repr

/-- What documents show, when each of them is a sample of one type named `name`. -/
def infer (r : Refinement) (name : String) (documents : List Json) :
    Logged InferenceError Inference := do
  let merged ← (Shape.reduceLogged (Shape.seeds name documents)).mapError (⟨.merging, ·⟩)
  let refined ← (r.run name merged).mapError (⟨.refining, ·⟩)
  let model ← Model.report refined
  return { merged, refined, model }

end ShapeInference
