import ShapeInference.Command.Error
import ShapeInference.Command.Invocation
import ShapeInference.Inference
import ShapeInference.Json.Pointer
import ShapeInference.Json.TableReader

/-! What an invocation reads: its sources, and its table of singular names.

`gather` looks at files and decides nothing, so that all else is a function of what it found.
-/

set_option autoImplicit false

namespace ShapeInference.Command

open Files (TextError View)

structure Source where
  path : String
  text : Except TextError String

structure Gathered where
  sources : Except CommandError (List Source)
  singulars : Option Source

section

variable {m : Type → Type} [Monad m] [View m]

/-- The paths that an input stands for. -/
def expand (input : String) : m (Except CommandError (List String)) := do
  if Files.hasWildcard input then
    match Files.Pattern.parse input with
    | .error error => return .error (.pattern input error)
    | .ok pattern =>
      match (← Files.search pattern).mapM id with
      | .error error => return .error (.search error)
      | .ok [] => return .error (.noMatch input)
      | .ok paths => return .ok paths
  else return .ok [input]

def readSource (path : String) : m Source := do
  return { path, text := ← View.read path }

def gather (i : Invocation) : m Gathered := do
  let expanded ← i.input.patterns.mapM expand
  let sources ← match expanded.mapM id with
    | .error error => pure (.error error)
    | .ok paths => do
      let sources ← paths.flatten.mapM readSource
      pure (.ok sources)
  let singulars ← match i.inference.singulars with
    | none => pure none
    | some path => do
      let source ← readSource path
      pure (some source)
  return { sources, singulars }

end

/-- The parts of a document that the options ask for. -/
def select (options : InputOptions) (path : String) (document : Json) :
    Except CommandError (List Json) := do
  let part ← match options.pointer with
    | none => .ok document
    | some pointer =>
      match document.pointer? pointer with
      | some part => .ok part
      | none => .error (.pointer pointer path)
  match options.filter with
  | none => .ok [part]
  | some source => (Filter.transform source part).mapError (.filter path source)

def Source.samples (options : InputOptions) (source : Source) : Except CommandError (List Json) := do
  let text ← source.text.mapError (.source source.path)
  let documents ← (Json.readDocuments options.stream text).mapError (.document source.path)
  let parts ← documents.mapM (select options source.path)
  .ok parts.flatten

/-- An empty table if there is no source. -/
def singularTable : Option Source → Except CommandError SingularTable
  | none => .ok {}
  | some source => do
    let text ← source.text.mapError (.singularsFile source.path)
    let entries ← (Json.readTable text).mapError (.singulars source.path)
    .ok (.ofList entries)

end ShapeInference.Command
