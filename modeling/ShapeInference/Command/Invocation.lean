/-! What a command line asks for. -/

set_option autoImplicit false

namespace ShapeInference.Command

/-- What is put out: the type model, or the whole tree of the shape. -/
inductive Form where
  | model
  | tree
  deriving DecidableEq, Repr

structure InputOptions where
  /-- Whether a source holds many documents. -/
  stream : Bool := false
  pointer : Option String := none
  filter : Option String := none
  /-- Paths, or patterns for them. -/
  patterns : List String
  deriving DecidableEq, Repr

structure InferenceOptions where
  rootType : String := "Root"
  /-- The path of a table of singular names. -/
  singulars : Option String := none
  throughOptionals : Bool := false
  deriving DecidableEq, Repr

structure Invocation where
  verbose : Bool := false
  form : Form
  input : InputOptions
  inference : InferenceOptions := {}
  out : Option String := none
  /-- Only shows the invocation. -/
  noOp : Bool := false
  deriving DecidableEq, Repr

end ShapeInference.Command
