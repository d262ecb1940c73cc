import ShapeInference.Inference

/-! Sessions that build up one shape in steps. A step that fails leaves the shape as it was. -/

set_option autoImplicit false

namespace ShapeInference.Session

inductive Step where
  | set (t : Shape)
  /-- Merges a shape into the current one, behind it. -/
  | merge (t : Shape)
  | mergeInto (t : Shape)
  | add (source : String) (stream : Bool) (name : String)
  | refine (r : Refinement) (name : String)
  | orAbsent
  | wrap (name : String)
  | field (name key : String)
  | model

inductive StepError where
  | reading (error : Json.ReadError)
  | merging (error : MergeError)
  deriving DecidableEq, Repr

inductive Answer where
  | shape (t : Shape)
  | model (m : Model)
  deriving Repr

/-- The shape after a step. The samples of `add` count from one, as the current shape is number
zero. -/
def Step.shape (step : Step) (current : Shape) : Logged StepError Shape :=
  match step with
  | .set t => return t
  | .merge t => (Logged.ofExcept (current.merge t)).mapError .merging
  | .mergeInto t => (Logged.ofExcept (t.merge current)).mapError .merging
  | .add source stream name => do
    let documents ← (Logged.ofExcept (Json.readDocuments stream source)).mapError .reading
    (Shape.reduceLogged (current :: Shape.seeds name documents)).mapError .merging
  | .refine r name => (r.run name current).mapError .merging
  | .orAbsent => return current.orAbsent
  | .wrap name => return .array name [current]
  | .field name key => return .object name [(key, current)]
  | .model => return current

def Step.answer (step : Step) (after : Shape) : Logged StepError Answer :=
  match step with
  | .model => return .model (← Model.report after)
  | _ => return .shape after

/-- The answers to all steps, and what they reported. -/
def run (current : Shape) : List Step → List (Except StepError Answer) × List Event
  | [] => ([], [])
  | step :: rest =>
    let moved := step.shape current
    let answered := moved >>= step.answer
    let next :=
      match moved.outcome with
      | .ok t => t
      | .error _ => current
    let (answers, events) := run next rest
    (answered.outcome :: answers, answered.events ++ events)

end ShapeInference.Session
