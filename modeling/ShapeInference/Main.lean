import ShapeInference.Command.Arguments
import ShapeInference.Command.Run

/-! The command line program, on the files of the machine. -/

set_option autoImplicit false

namespace ShapeInference.Program

open Command
open Files (OsError TextError View)

def ofSystem (error : IO.Error) : OsError :=
  match error with
  | .noFileOrDirectory .. => .notFound
  | .alreadyExists .. => .alreadyExists
  | .inappropriateType _ code _ =>
    if code = 20 then .notDirectory else if code = 21 then .isDirectory else .other (toString error)
  | error => .other (toString error)

def attempt {α : Type} (action : IO α) : IO (Except OsError α) := do
  match ← action.toBaseIO with
  | .ok value => return .ok value
  | .error error => return .error (ofSystem error)

def entryAt (path : String) : IO.FS.DirEntry := { root := path, fileName := "" }

instance : View IO where
  read path := do
    match ← attempt (IO.FS.readBinFile path) with
    | .error error => return .error (.system error)
    | .ok bytes =>
      match Text.ofUtf8? bytes.toList with
      | some text => return .ok text
      | none => return .error .notUtf8
  isPresent path := (entryAt path).root.pathExists
  isDirectory path := (entryAt path).root.isDir
  entries path := attempt do
    return (← (entryAt path).root.readDir).toList.map (·.fileName)

/-- A directory that is there already counts as made. -/
def settle (path : String) (made : Except OsError Unit) : IO (Except OsError Unit) := do
  match made with
  | .ok () => return .ok ()
  | .error error =>
    let isThere : Bool ← View.isDirectory path
    return if isThere then .ok () else .error error

/-- Makes a directory and those above it that are missing. -/
def createDirectories (path : String) : IO (Except OsError Unit) := do
  if path = "" then return .ok ()
  let made ← attempt (IO.FS.createDir path)
  match made, found : Files.parent? path with
  | .error .notFound, none => return .error (.other "failed to create whole tree")
  | .error .notFound, some parent =>
    have := Files.length_parent_lt found
    let above ← createDirectories parent
    match above with
    | .error error => return .error error
    | .ok () => settle path (← attempt (IO.FS.createDir path))
  | made, _ => settle path made
termination_by path.length

def save (path text : String) : IO (Except CommandError Unit) := do
  let made ← match Files.parent? path with
    | none => pure (.ok ())
    | some parent => do
      let made ← createDirectories parent
      pure (made.mapError (CommandError.createDirectory parent))
  match made with
  | .error error => return .error error
  | .ok () => return (← attempt (IO.FS.writeFile path text)).mapError (.write path)

def report (i : Invocation) (events : List Event) : IO Unit :=
  (Event.lines i.threshold events).forM fun line => IO.eprintln line

def fail (error : CommandError) : IO UInt32 := do
  IO.eprintln ("error: " ++ error.message)
  return 1

def runInvocation (i : Invocation) : IO UInt32 := do
  if i.noOp then
    IO.eprintln (i.dump.text 0)
    return 0
  let result := resultText i (← gather i)
  report i result.events
  match result.outcome, i.out with
  | .error error, _ => fail error
  | .ok text, none => do
    IO.println text
    return 0
  | .ok text, some path => do
    match ← save path text with
    | .error error => fail error
    | .ok () => do
      report i [.wrote path]
      return 0

def usage : String :=
  "usage: (model | tree) --input PATH... [--ndjson] [--json-pointer POINTER] [--jq-expr FILTER]\n" ++
  "  [--root-type NAME] [--singulars PATH] [--upgrade-optionals] [--out PATH] [--no-op] [--verbose]"

end ShapeInference.Program

open ShapeInference in
def main (arguments : List String) : IO UInt32 := do
  match Command.Invocation.ofArguments arguments with
  | .error .help => do
    IO.println Program.usage
    return 0
  | .error error => do
    IO.eprintln Program.usage
    return error.exitCode.toUInt32
  | .ok i => Program.runInvocation i
