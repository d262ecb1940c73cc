import ShapeInference.Members

/-! Names for the elements of an array, made from the name of the array. -/

set_option autoImplicit false

namespace ShapeInference

abbrev Singularizer := String → String

/-- The name without its last character: `tags` gives `tag`, and `boxes` gives `boxe`. -/
def dropLast : Singularizer := fun plural => .ofList plural.toList.dropLast

/-- Plural names with their singular names. Names are looked up exactly. -/
structure SingularTable where
  entries : Members String := []

namespace SingularTable

/-- Of two entries for one plural the later counts. -/
def ofList (entries : List (String × String)) : SingularTable := ⟨.ofList entries⟩

def size (table : SingularTable) : Nat := table.entries.length

def isEmpty (table : SingularTable) : Bool := table.entries.isEmpty

/-- The table as a rule for all names, with `fallback` for those it lacks. -/
def singularizer (table : SingularTable) (fallback : Singularizer := dropLast) : Singularizer :=
  fun plural => (table.entries.lookup plural).getD (fallback plural)

theorem isEmpty_iff (table : SingularTable) : table.isEmpty = true ↔ table.size = 0 := by
  simp [isEmpty, size]

end SingularTable

end ShapeInference
