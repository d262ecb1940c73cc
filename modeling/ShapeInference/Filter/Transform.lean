import ShapeInference.Filter.Evaluation
import ShapeInference.Filter.Parser
import ShapeInference.Filter.Scope
import ShapeInference.Json.Reader

/-! Transforming documents by the text of a filter.

Every output is written as JSON and read back, so that it obeys the limits of documents.
-/

set_option autoImplicit false

namespace ShapeInference.Filter

inductive TransformError where
  | malformed
  | undefined (names : List UnknownName)
  | failed
  | notJson (output : String) (error : Json.ReadError)
  deriving DecidableEq, Repr

/-- `source` is the text of the filter. -/
def TransformError.message (source : String) : TransformError → String
  | .malformed => "parse error"
  | .undefined names =>
    "\n".intercalate (names.map fun name => name.text ++ " in `" ++ source ++ "`")
  | .failed => "jq filter `" ++ source ++ "` failed"
  | .notJson output error =>
    "jq filter `" ++ source ++ "` produced non-JSON output: " ++ output ++ ": " ++ error.causeText

/-- The outputs as documents, up to the first failure. -/
def documents : Outputs → Except TransformError (List Json)
  | [] => .ok []
  | none :: _ => .error .failed
  | some value :: rest =>
    let text := String.ofList value.chars
    match Json.read text with
    | .error error => .error (.notJson text error)
    | .ok document => (documents rest).map (document :: ·)

def transform (source : String) (document : Json) : Except TransformError (List Json) :=
  match parse? source with
  | none => .error .malformed
  | some f =>
    match unknownNames f with
    | [] => documents (run f (.ofJson document))
    | names => .error (.undefined names)

end ShapeInference.Filter
