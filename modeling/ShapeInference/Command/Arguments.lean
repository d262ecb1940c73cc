import ShapeInference.Command.Invocation

/-! Reading command lines.

A flag is given once at most, and so is a setting other than the inputs. A setting takes its values
from the arguments behind it, or one from its own argument. It is settled, and checked, only when
another flag or setting follows or the arguments end.
-/

set_option autoImplicit false

namespace ShapeInference.Command

inductive UsageError where
  | help
  | helpOnNothing
  | missingCommand
  | invalidCommand
  | unknownArgument
  | missingArgument
  | invalidValue
  | tooManyValues
  | conflict
  deriving DecidableEq, Repr

/-- Help that was asked for is no failure. -/
def UsageError.exitCode : UsageError → Nat
  | .help => 0
  | _ => 2

inductive Flag where
  | help
  | verbose
  | stream
  | throughOptionals
  | noOp
  deriving DecidableEq, Repr

inductive Setting where
  | inputs
  | pointer
  | filter
  | rootType
  | singulars
  | out
  deriving DecidableEq, Repr

inductive Argument where
  | flag (flag : Flag)
  | setting (setting : Setting)
  deriving DecidableEq, Repr

/-- The names of the arguments that may stand in one place. -/
structure Grammar where
  long : List (String × Argument)
  short : List (Char × Argument)

/-- What may stand before the command. -/
def Grammar.outer : Grammar where
  long := [("verbose", .flag .verbose), ("help", .flag .help)]
  short := [('v', .flag .verbose), ('h', .flag .help)]

/-- What may stand behind the command. -/
def Grammar.inner : Grammar where
  long := Grammar.outer.long ++ [("ndjson", .flag .stream), ("json-pointer", .setting .pointer),
    ("jq-expr", .setting .filter), ("input", .setting .inputs), ("root-type", .setting .rootType),
    ("singulars", .setting .singulars), ("upgrade-optionals", .flag .throughOptionals),
    ("out", .setting .out), ("no-op", .flag .noOp)]
  short := Grammar.outer.short ++ [('i', .setting .inputs), ('o', .setting .out)]

namespace Setting

def takesMany (setting : Setting) : Bool := setting = .inputs

/-- Paths must not be empty. -/
def isPath (setting : Setting) : Bool := setting = .singulars || setting = .out

end Setting

/-- A setting that may still get values. -/
structure Pending where
  setting : Setting
  values : List String := []
  accepts : Bool := true
  deriving DecidableEq, Repr

/-- The arguments read so far. -/
structure Given where
  flags : List Flag := []
  values : List (Setting × List String) := []
  pending : Option Pending := none
  deriving DecidableEq, Repr

namespace Given

def set (given : Given) (setting : Setting) (values : List String) : Except UsageError Given :=
  if values.isEmpty then .error .invalidValue
  else if !setting.takesMany && (given.values.lookup setting).isSome then .error .conflict
  else if setting.isPath && values.contains "" then .error .invalidValue
  else .ok { given with values := given.values ++ [(setting, values)] }

def settle (given : Given) : Except UsageError Given :=
  match given.pending with
  | none => .ok given
  | some pending => set { given with pending := none } pending.setting pending.values

def raise (given : Given) (flag : Flag) : Except UsageError Given := do
  let given ← given.settle
  if flag = .help then .error .help
  else if flag ∈ given.flags then .error .conflict
  else .ok { given with flags := flag :: given.flags }

/-- Starts a setting, or gives it the one value that was attached to its name. -/
def start (given : Given) (setting : Setting) (attached : Option String) :
    Except UsageError Given := do
  let given ← given.settle
  match attached with
  | some value => given.set setting [value]
  | none => .ok { given with pending := some { setting } }

/-- Reads an argument with a long name, from behind its dashes. -/
def readLong (given : Given) (grammar : Grammar) (text : List Char) : Except UsageError Given :=
  let attached : Option String :=
    match text.dropWhile (· ≠ '=') with
    | [] => none
    | _ :: value => some (.ofList value)
  match grammar.long.lookup (.ofList (text.takeWhile (· ≠ '='))), attached with
  | none, _ => .error .unknownArgument
  | some (.flag _), some _ => .error .tooManyValues
  | some (.flag flag), none => given.raise flag
  | some (.setting setting), attached => given.start setting attached

/-- Reads arguments with short names, from behind their dash. What follows a setting is its value. -/
def readShort (given : Given) (grammar : Grammar) : List Char → Except UsageError Given
  | [] => .ok given
  | c :: rest =>
    match grammar.short.lookup c with
    | none => .error .unknownArgument
    | some (.flag flag) => do
      let given ← given.raise flag
      given.readShort grammar rest
    | some (.setting setting) =>
      given.start setting <|
        match rest with
        | [] => none
        | '=' :: value => some (.ofList value)
        | value => some (.ofList value)

/-- Adds a value to the pending setting, if it accepts one. -/
def accept? (given : Given) (value : String) : Option Given :=
  match given.pending with
  | some pending =>
    if pending.accepts then
      some { given with
        pending := some { pending with
          values := pending.values ++ [value]
          accepts := pending.setting.takesMany } }
    else none
  | none => none

/-- An argument with dashes, or nothing if it is a value. A dash by itself is a value. -/
def readDashed? (given : Given) (grammar : Grammar) (argument : String) :
    Option (Except UsageError Given) :=
  match argument.toList with
  | '-' :: '-' :: text => some (given.readLong grammar text)
  | '-' :: c :: text => some (given.readShort grammar (c :: text))
  | _ => none

/-- Reads the arguments behind the command. No value may follow two dashes. -/
def readInner (given : Given) : List String → Except UsageError Given
  | [] => given.settle
  | argument :: rest =>
    if argument = "--" then if rest.isEmpty then given.settle else .error .unknownArgument
    else
      match given.readDashed? .inner argument with
      | some read => do
        let given ← read
        given.readInner rest
      | none =>
        match given.accept? argument with
        | some given => given.readInner rest
        | none => .error .unknownArgument

def valueOf (given : Given) (setting : Setting) : Option String :=
  (given.values.lookup setting).bind List.head?

/-- All values of a setting, in order. -/
def valuesOf (given : Given) (setting : Setting) : List String :=
  given.values.flatMap fun (other, values) => if other = setting then values else []

def invocation (given : Given) (form : Form) (verbose : Bool) : Except UsageError Invocation :=
  let has (flag : Flag) : Bool := given.flags.contains flag
  let patterns := given.valuesOf .inputs
  if patterns.isEmpty then .error .missingArgument
  else
    .ok {
      verbose := verbose || has .verbose
      form
      input := {
        stream := has .stream
        pointer := given.valueOf .pointer
        filter := given.valueOf .filter
        patterns }
      inference := {
        rootType := (given.valueOf .rootType).getD "Root"
        singulars := given.valueOf .singulars
        throughOptionals := has .throughOptionals }
      out := given.valueOf .out
      noOp := has .noOp }

end Given

def commandNames : List String := ["model", "tree", "help"]

/-- Help on the command that is named, if one is. -/
def helpOn : List String → UsageError
  | [] => .help
  | [name] => if name ∈ commandNames then .help else .invalidCommand
  | _ => .invalidCommand

/-- Reads the arguments up to the command, and then those behind it. -/
def readOuter (given : Given) : List String → Except UsageError Invocation
  | [] => .error (if given.flags.isEmpty then .helpOnNothing else .missingCommand)
  | argument :: rest =>
    let command (form : Form) : Except UsageError Invocation := do
      let inner ← Given.readInner {} rest
      inner.invocation form (given.flags.contains .verbose)
    if argument = "model" then command .model
    else if argument = "tree" then command .tree
    else if argument = "help" then .error (helpOn rest)
    else if argument = "--" then
      match rest with
      | [] => .error (if given.flags.isEmpty then .helpOnNothing else .missingCommand)
      | next :: _ => .error (if next ∈ commandNames then .unknownArgument else .invalidCommand)
    else
      match given.readDashed? .outer argument with
      | some read => do
        let given ← read
        readOuter given rest
      | none => .error .invalidCommand

def Invocation.ofArguments (arguments : List String) : Except UsageError Invocation :=
  readOuter {} arguments

end ShapeInference.Command
