import ShapeInference.Command.Dump
import ShapeInference.Command.Load
import ShapeInference.Files.Change
import ShapeInference.Shape.Tree

/-! Running an invocation: reading, inferring, and putting out the result. -/

set_option autoImplicit false

namespace ShapeInference.Command

open Files (Disk)

/-- The shape of all samples. A table of singular names counts only once they have merged. -/
def inferShape (i : Invocation) (gathered : Gathered) : Logged CommandError Shape := do
  let rootType := i.inference.rootType
  let sources ← .ofExcept gathered.sources
  let samples ← .ofExcept (sources.mapM (·.samples i.input))
  let samples := samples.flatten
  .report (.loaded samples.length sources.length)
  if samples.isEmpty then .ofExcept (.error .noSamples)
  let merged ← (Shape.reduceLogged (Shape.seeds rootType samples)).mapError (.merging rootType)
  let table ← .ofExcept (singularTable gathered.singulars)
  let r : Refinement :=
    { singular := table.singularizer, throughOptionals := i.inference.throughOptionals }
  (r.run rootType merged).mapError (.refining rootType)

/-- The text that the invocation puts out. -/
def resultText (i : Invocation) (gathered : Gathered) : Logged CommandError String := do
  let t ← inferShape i gathered
  match i.form with
  | .model => do
    let model ← Model.report t
    return model.toJson.pretty
  | .tree => return t.toJson.pretty

structure Printed where
  stdout : String := ""
  stderr : String := ""
  deriving DecidableEq, Repr

/-- Makes the directory of a file if it is missing. -/
def makeParent (disk : Disk) (path : String) : Except CommandError Unit × Disk :=
  match Files.parent? path with
  | none => (.ok (), disk)
  | some parent =>
    let (made, disk) := disk.createDirectories parent
    (made.mapError (.createDirectory parent), disk)

def save (disk : Disk) (path text : String) : Logged CommandError Unit × Disk :=
  match makeParent disk path with
  | (.error error, disk) => (.ofExcept (.error error), disk)
  | (.ok (), disk) =>
    match disk.write path text with
    | .error error => (.ofExcept (.error (.write path error)), disk)
    | .ok disk => (.report (.wrote path), disk)

/-- Puts a text out, to a file or else to the standard output. -/
def putOut (disk : Disk) (out : Option String) (text : String) :
    Logged CommandError Printed × Disk :=
  match out with
  | none => (return { stdout := text ++ "\n" }, disk)
  | some path =>
    let (saved, disk) := save disk path text
    (saved >>= fun () => return {}, disk)

/-- What an invocation prints, and the disk that it leaves. -/
def Invocation.run (i : Invocation) (disk : Disk) : Logged CommandError Printed × Disk :=
  if i.noOp then (return { stderr := i.dump.text 0 ++ "\n" }, disk)
  else
    let result := resultText i ((gather i : ReaderM Disk Gathered).run disk)
    match result.outcome with
    | .error error => (⟨.error error, result.events⟩, disk)
    | .ok text =>
      let (put, disk) := putOut disk i.out text
      (result >>= fun _ => put, disk)

/-- How much an invocation reports. -/
def Invocation.threshold (i : Invocation) : Level := if i.verbose then .debug else .info

end ShapeInference.Command
