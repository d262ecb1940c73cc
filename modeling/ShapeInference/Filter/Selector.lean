import ShapeInference.Filter.Value

/-! Selectors: steps from a value into its parts, with all indices computed. -/

set_option autoImplicit false

namespace ShapeInference.Filter

/-- What a filter gives, in order. `none` stands for a failure, behind which outputs may follow. -/
abbrev Outputs := List (Option Value)

/-- All outputs of `f` on the values. A failure stays in its place. -/
def Outputs.feed (outputs : Outputs) (f : Value → Outputs) : Outputs :=
  outputs.flatMap fun output =>
    match output with
    | some value => f value
    | none => [none]

inductive Selector where
  | index (key : Value) (optional : Bool)
  | slice (first last : Value) (optional : Bool)
  | each (optional : Bool)

namespace Selector

/-- A position from the front, or from the end if it is negative. -/
def position? (index : Int) (size : Nat) : Option Nat :=
  if 0 ≤ index then some index.toNat
  else if -index ≤ size then some (size + index).toNat
  else none

def atIndex : Value → Value → Option Value
  | .array elements, .number (.integer i) =>
    some ((position? i elements.length).bind (elements[·]?) |>.getD .null)
  | .object members, .string key => some ((members.lookup key).getD .null)
  | _, _ => none

/-- The elements from `first` on and before `last`. -/
def cut {α : Type} (first last : Option Int) (elements : List α) : List α :=
  let size := elements.length
  let clip (bound : Int) : Nat := min ((position? bound size).getD 0) size
  let start := (first.map clip).getD 0
  let stop := (last.map clip).getD size
  (elements.drop start).take (stop - start)

def bound? : Value → Option (Option Int)
  | .null => some none
  | .number (.integer i) => some (some i)
  | _ => none

def between (value first last : Value) : Option Value :=
  match bound? first, bound? last with
  | some first, some last =>
    match value with
    | .array elements => some (.array (cut first last elements))
    | .string text => some (.string (.ofList (cut first last text.toList)))
    | _ => none
  | _, _ => none

def elements : Value → Outputs
  | .array elements => elements.map some
  | .object members => members.map fun member => some member.2
  | _ => [none]

def select (selector : Selector) (value : Value) : Outputs :=
  let trim (optional : Bool) (outputs : Outputs) : Outputs :=
    if optional then outputs.filter Option.isSome else outputs
  match selector with
  | .index key optional => trim optional [atIndex value key]
  | .slice first last optional => trim optional [between value first last]
  | .each optional => trim optional (elements value)

/-- Follows selectors one after the other. -/
def follow (selectors : List Selector) (value : Value) : Outputs :=
  match selectors with
  | [] => [some value]
  | selector :: rest => (selector.select value).feed (follow rest)

end Selector

end ShapeInference.Filter
