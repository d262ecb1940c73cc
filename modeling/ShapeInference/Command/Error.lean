import ShapeInference.Files.Search
import ShapeInference.Filter.Transform
import ShapeInference.Shape.Clash

/-! Why a command fails. -/

set_option autoImplicit false

namespace ShapeInference.Command

open Files (OsError TextError)

inductive CommandError where
  | pattern (pattern : String) (error : Files.PatternError)
  | search (error : Files.SearchError)
  | noMatch (pattern : String)
  | source (path : String) (error : TextError)
  | document (path : String) (error : Json.ReadError)
  | pointer (pointer path : String)
  | filter (path source : String) (error : Filter.TransformError)
  | noSamples
  | merging (rootType : String) (error : MergeError)
  | singularsFile (path : String) (error : TextError)
  | singulars (path : String) (error : Json.ReadError)
  | refining (rootType : String) (error : MergeError)
  | createDirectory (path : String) (error : OsError)
  | write (path : String) (error : OsError)
  deriving DecidableEq, Repr

/-- A fault in JSON tells its cause once with the path and once without it. -/
def readErrorText (error : Json.ReadError) : String :=
  error.message ++ ": " ++ error.causeText

def CommandError.message : CommandError → String
  | .pattern text error => "bad glob pattern " ++ text ++ ": " ++ error.text
  | .search error => error.text
  | .noMatch text => "glob pattern matched no files: " ++ text
  | .source path error => "failed to read source file " ++ path ++ ": " ++ error.text
  | .document path error =>
    "failed to parse JSON source file " ++ path ++ ": " ++ readErrorText error
  | .pointer text path => "JSON pointer `" ++ text ++ "` matched nothing in " ++ path
  | .filter path text error =>
    "failed to apply jq expression to " ++ path ++ ": " ++ error.message text
  | .noSamples => "no samples to infer from"
  | .merging rootType error => "failed to merge samples of `" ++ rootType ++ "`: " ++ error.message
  | .singularsFile path error => "failed to read singulars file " ++ path ++ ": " ++ error.text
  | .singulars path error => "invalid singulars file " ++ path ++ ": " ++ readErrorText error
  | .refining rootType error => "failed to upgrade `" ++ rootType ++ "`: " ++ error.message
  | .createDirectory path error => "failed to create " ++ path ++ ": " ++ error.text
  | .write path error => "failed to write " ++ path ++ ": " ++ error.text

end ShapeInference.Command
