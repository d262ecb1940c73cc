import ShapeInference.Shape.Basic

/-! Why two shapes do not merge, and which sample was being merged when it happened. -/

set_option autoImplicit false

namespace ShapeInference

inductive Container where
  | object
  | array
  deriving DecidableEq, Repr

def Container.name : Container → String
  | .object => "object"
  | .array => "array"

/-- Two containers of one kind with different names, or two kinds that never merge. -/
inductive Clash where
  | names (container : Container) (left right : String)
  | kinds (left right : Kind)
  deriving DecidableEq, Repr

def Clash.message : Clash → String
  | .names container left right =>
    "cannot merge " ++ container.name ++ " `" ++ left ++ "` with " ++ container.name ++ " `" ++
      right ++ "`"
  | .kinds left right => "no merge rule for " ++ left.name ++ " with " ++ right.name

structure MergeError where
  clash : Clash
  sample : Option Nat := none
  deriving DecidableEq, Repr

namespace MergeError

/-- The error at a sample. The first index that was given stays. -/
def atSample (error : MergeError) (index : Nat) : MergeError :=
  { error with sample := error.sample.or (some index) }

def message (error : MergeError) : String :=
  error.clash.message ++
    match error.sample with
    | some index => " (sample #" ++ toString index ++ ")"
    | none => ""

@[simp] theorem atSample_atSample (error : MergeError) (first second : Nat) :
    (error.atSample first).atSample second = error.atSample first := by
  cases error with
  | mk clash sample => cases sample <;> rfl

end MergeError

end ShapeInference
