import ShapeInference.Files.Disk

/-! Looking at files without changing them, on a disk given as a value or on a real one. -/

set_option autoImplicit false

namespace ShapeInference.Files

class View (m : Type → Type) where
  read : String → m (Except TextError String)
  isPresent : String → m Bool
  isDirectory : String → m Bool
  entries : String → m (Except OsError (List String))

instance : View (ReaderM Disk) where
  read path := fun disk => disk.read path
  isPresent path := fun disk => disk.isPresent path
  isDirectory path := fun disk => disk.isDirectory path
  entries path := fun disk => disk.entries path

end ShapeInference.Files
