import ShapeInference.Files.Pattern
import ShapeInference.Files.View

/-! Finding the paths that a pattern describes, in the order of their names. A directory comes
before what it holds. -/

set_option autoImplicit false

namespace ShapeInference.Files

structure SearchError where
  path : String
  error : OsError
  deriving DecidableEq, Repr

def SearchError.text (error : SearchError) : String :=
  "attempting to read `" ++ error.path ++ "` resulted in an error: " ++ error.error.text

abbrev Found := List (Except SearchError String)

namespace Search

variable {m : Type → Type} [Monad m] [View m]

/-- A path below the working directory goes without it. -/
def below (path name : String) : String := if isHere path then name else join path name

/-- What a path gives that fits the pattern up to `rest`. `deeper` follows the components left. -/
def advance (pattern : Pattern) (deeper : List Pattern.Component → String → m Found)
    (rest : List Pattern.Component) (path : String) : m Found := do
  match rest with
  | [] =>
    if !pattern.directoriesOnly || (← View.isDirectory path) then return [.ok path] else return []
  | rest => deeper rest path

/-- What an entry of a directory gives. -/
def visit (pattern : Pattern) (deeper : List Pattern.Component → String → m Found)
    (components : List Pattern.Component) (path name : String) : m Found := do
  let here (components : List Pattern.Component) : m Found :=
    match components with
    | [] => return []
    | component :: rest =>
      if component.fits name then advance pattern deeper rest path else return []
  match components with
  | .directories :: rest =>
    let rest := rest.dropWhile (· = .directories)
    if ← View.isDirectory path then
      let found ← if rest = [] then pure [.ok path] else here rest
      return found ++ (← deeper (.directories :: rest) path)
    else here rest
  | components => here components

/-- What the components describe below a path. -/
def step (pattern : Pattern) (deeper : List Pattern.Component → String → m Found)
    (components : List Pattern.Component) (path : String) : m Found := do
  match components with
  | [] => return []
  | .literal name :: rest =>
    let next := below path name
    let found ← if name = "." ∨ name = ".." then View.isDirectory path else View.isPresent next
    if found then advance pattern deeper rest next else return []
  | component :: rest =>
    if !(← View.isDirectory path) then return []
    else
      match ← View.entries path with
      | .error error => return [.error ⟨path, error⟩]
      | .ok names =>
        let specials ← ["..", "."].mapM fun name => do
          if component.fitsSpecial name then advance pattern deeper rest (join path name)
          else return []
        let ordinary ← (names.mergeSort fun a b => decide (a ≤ b)).mapM fun name =>
          visit pattern deeper (component :: rest) (below path name) name
        return specials.flatten ++ ordinary.flatten

/-- Goes down at most as many levels and components as the first argument says. -/
def run (pattern : Pattern) : Nat → List Pattern.Component → String → m Found
  | 0, _, _ => return []
  | levels + 1, components, path => step pattern (run pattern levels) components path

end Search

/-- A path has at most 4095 bytes, and each of its levels takes up one of them. -/
def maxLevels : Nat := 4096

def search {m : Type → Type} [Monad m] [View m] (pattern : Pattern) : m Found :=
  Search.run pattern (maxLevels + pattern.components.length) pattern.components
    (if pattern.isAbsolute then "/" else ".")

end ShapeInference.Files
