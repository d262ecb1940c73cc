import ShapeInference.Files.Disk

/-! Changing a disk: making directories and writing files. What was made before a failure stays. -/

set_option autoImplicit false

namespace ShapeInference.Files

/-- The directory that a path names last, and the name in it, which slashes may follow. -/
structure Target where
  directory : Place
  name : String
  deriving DecidableEq, Repr

namespace Disk

/-- The root has no name in any directory. -/
def target (disk : Disk) (path : String) : Except OsError (Option Target) := do
  checkPath path
  match (names path).reverse.dropWhile (· = "") with
  | [] => .ok none
  | name :: parents =>
    let directory ← parents.reverse.foldlM disk.enter (disk.start path)
    let _ ← disk.entriesAt directory
    .ok (some { directory, name })

def put (disk : Disk) (target : Target) (node : Node) : Disk :=
  { disk with root := disk.root.put (target.directory ++ [target.name]) node }

/-- Makes one directory. -/
def createDirectory (disk : Disk) (path : String) : Except OsError Disk := do
  match ← disk.target path with
  | none => .error .alreadyExists
  | some target =>
    if target.name = "." ∨ target.name = ".." then .error .alreadyExists
    else do
      checkName target.name
      if (disk.node? (target.directory ++ [target.name])).isSome then .error .alreadyExists
      else .ok (disk.put target (.directory []))

end Disk

theorem length_trimBack_le (cs : List Char) : (trimBack cs).length ≤ cs.length := by
  fun_induction trimBack cs <;> simp_all <;> omega

theorem length_dropWhile_lt_of_head {p : Char → Bool} {c : Char} {rest : List Char}
    (first : p c = true) : ((c :: rest).dropWhile p).length < (c :: rest).length := by
  have := (List.dropWhile_suffix p (l := rest)).length_le
  simp only [List.dropWhile_cons, first, if_true, List.length_cons]; omega

theorem head_trimBack (cs rest : List Char) (same : trimBack cs = '/' :: rest) : rest = [] := by
  fun_induction trimBack cs with
  | case1 => simp_all
  | case2 _ _ ih => exact ih same
  | case3 _ ih => exact ih same
  | case4 cs h1 h2 h3 => exact absurd same (h2 _)

theorem length_parent_lt {path parent : String} (found : parent? path = some parent) :
    parent.length < path.length := by
  have trimmed := length_trimBack_le path.toList.reverse
  simp only [List.length_reverse, String.length_toList] at trimmed
  unfold parent? at found
  split at found
  · simp at found
  · simp at found
  · next notEmpty notRoot =>
    generalize last : trimBack path.toList.reverse = cs at *
    cases cs with
    | nil => exact absurd rfl notEmpty
    | cons c rest =>
      have noSlash : c ≠ '/' := fun same => by
        subst same
        exact notRoot (by rw [head_trimBack _ _ last])
      have shorter := @length_dropWhile_lt_of_head (· ≠ '/') c rest
        (by simpa using noSlash)
      split at found
      · cases found
        simp only [List.length_cons] at trimmed
        show 0 < path.length
        omega
      · cases found
        have := length_trimBack_le ((c :: rest).dropWhile (· ≠ '/'))
        simp only [String.length_ofList, List.length_reverse]
        omega

namespace Disk

/-- Makes a directory and those above it that are missing. -/
def createDirectories (disk : Disk) (path : String) : Except OsError Unit × Disk :=
  let settle (disk : Disk) (error : OsError) : Except OsError Unit × Disk :=
    if disk.isDirectory path then (.ok (), disk) else (.error error, disk)
  if path = "" then (.ok (), disk)
  else
    match disk.createDirectory path with
    | .ok disk => (.ok (), disk)
    | .error .notFound =>
      match found : parent? path with
      | none => (.error (.other "failed to create whole tree"), disk)
      | some parent =>
        have := length_parent_lt found
        match createDirectories disk parent with
        | (.error error, disk) => (.error error, disk)
        | (.ok (), disk) =>
          match disk.createDirectory path with
          | .ok disk => (.ok (), disk)
          | .error error => settle disk error
    | .error error => settle disk error
termination_by path.length

/-- Writes a file, and makes it if it does not exist. -/
def write (disk : Disk) (path text : String) : Except OsError Disk := do
  match ← disk.target path with
  | none => .error .isDirectory
  | some target =>
    if endsInSlash path ∨ target.name = "." ∨ target.name = ".." then .error .isDirectory
    else do
      checkName target.name
      match disk.node? (target.directory ++ [target.name]) with
      | some (.directory _) => .error .isDirectory
      | _ => .ok (disk.put target (.file (Text.utf8 text)))

end Disk

end ShapeInference.Files
