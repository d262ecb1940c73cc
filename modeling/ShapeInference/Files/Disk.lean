import ShapeInference.Files.OsError
import ShapeInference.Files.Path
import ShapeInference.Members
import ShapeInference.Text.Utf8

/-! A disk: a tree of directories and files, seen from a working directory.

A place is the list of names that lead to a node from the root. Resolving a path gives its place,
and every name on the way but the last must be that of a directory.
-/

set_option autoImplicit false

namespace ShapeInference.Files

inductive Node where
  | file (bytes : List UInt8)
  | directory (entries : List (String × Node))
  deriving Repr, Inhabited, BEq

abbrev Place := List String

structure Disk where
  root : Node
  here : Place
  deriving Repr

namespace Node

def find? : Node → Place → Option Node
  | node, [] => some node
  | .directory entries, name :: rest => (entries.lookup name).bind (·.find? rest)
  | .file _, _ :: _ => none

/-- Puts a node at a place, if the way there exists. -/
def put : Node → Place → Node → Node
  | _, [], new => new
  | .directory entries, [name], new => .directory (Members.insert entries name new)
  | .directory entries, name :: rest, new =>
    match entries.lookup name with
    | some node => .directory (Members.insert entries name (node.put rest new))
    | none => .directory entries
  | .file bytes, _ :: _, _ => .file bytes

end Node

namespace Disk

def node? (disk : Disk) (place : Place) : Option Node := disk.root.find? place

/-- The names below a directory. -/
def entriesAt (disk : Disk) (place : Place) : Except OsError (List String) :=
  match disk.node? place with
  | some (.directory entries) => .ok (entries.map (·.1))
  | some (.file _) => .error .notDirectory
  | none => .error .notFound

def checkName (name : String) : Except OsError Unit :=
  if name.utf8ByteSize ≤ 255 then .ok () else .error .nameTooLong

/-- Goes from a directory to one of its entries. -/
def enter (disk : Disk) (place : Place) (name : String) : Except OsError Place := do
  let entries ← disk.entriesAt place
  if name = "" ∨ name = "." then .ok place
  else if name = ".." then .ok place.dropLast
  else do
    checkName name
    if name ∈ entries then .ok (place ++ [name]) else .error .notFound

def start (disk : Disk) (path : String) : Place := if isAbsolute path then [] else disk.here

def checkPath (path : String) : Except OsError Unit :=
  if '\x00' ∈ path.toList then .error .nulInName
  else if path = "" then .error .notFound
  else if path.utf8ByteSize ≤ 4095 then .ok ()
  else .error .nameTooLong

def resolve (disk : Disk) (path : String) : Except OsError Place := do
  checkPath path
  (names path).foldlM disk.enter (disk.start path)

def isPresent (disk : Disk) (path : String) : Bool :=
  match disk.resolve path with
  | .ok _ => true
  | .error _ => false

def entries (disk : Disk) (path : String) : Except OsError (List String) :=
  disk.resolve path >>= disk.entriesAt

def isDirectory (disk : Disk) (path : String) : Bool :=
  match disk.entries path with
  | .ok _ => true
  | .error _ => false

def read (disk : Disk) (path : String) : Except TextError String :=
  match disk.resolve path with
  | .error error => .error (.system error)
  | .ok place =>
    match disk.node? place with
    | none => .error (.system .notFound)
    | some (.directory _) => .error (.system .isDirectory)
    | some (.file bytes) =>
      match Text.ofUtf8? bytes with
      | some text => .ok text
      | none => .error .notUtf8

end Disk

end ShapeInference.Files
