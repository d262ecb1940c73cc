import ShapeInference.Text.Split

/-! Paths: names between slashes. A path that starts with a slash is absolute. Empty names and
points lead nowhere, except that a point may come first. -/

set_option autoImplicit false

namespace ShapeInference.Files

def names (path : String) : List String :=
  (Text.splitOn '/' path.toList).map .ofList

def isAbsolute (path : String) : Bool := path.toList.head? = some '/'

def endsInSlash (path : String) : Bool := path.toList.getLast? = some '/'

/-- A name below a path. -/
def join (path name : String) : String :=
  if path = "" ∨ endsInSlash path then path ++ name else path ++ "/" ++ name

/-- Drops slashes and points at the end, of a path written backwards. What the path starts with
stays. -/
def trimBack : List Char → List Char
  | ['/'] => ['/']
  | '/' :: rest => trimBack rest
  | '.' :: '/' :: rest => trimBack ('/' :: rest)
  | cs => cs

/-- The path without its last name, or nothing if it has no name. -/
def parent? (path : String) : Option String :=
  match trimBack path.toList.reverse with
  | [] => none
  | ['/'] => none
  | last =>
    match last.dropWhile (· ≠ '/') with
    | [] => some ""
    | rest => some (.ofList (trimBack rest).reverse)

/-- Whether the path is the working directory, spelled with points alone. -/
def isHere (path : String) : Bool :=
  path.toList.head? = some '.' && (names path).all fun name => name = "." || name = ""

end ShapeInference.Files
