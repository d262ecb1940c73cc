import ShapeInference.Filter.Basic
import ShapeInference.Filter.Selector
import ShapeInference.Members

/-! Running filters.

Where a filter combines the outputs of several others, those of the first vary slowest. The indices
of a path are computed on the input of the path, before its source is followed.
-/

set_option autoImplicit false

namespace ShapeInference.Filter

def negated : Value → Option Value
  | .number (.integer value) => some (.number (.integer (-value)))
  | .number value =>
    match value.double? with
    | some x => some (.number (.double ⟨!x.negative, x.magnitude⟩))
    | none => some .null
  | _ => none

def keysOf : Value → Option Value
  | .array elements =>
    some (.array ((List.range elements.length).map fun (i : Nat) => .number (.integer i)))
  | .object members =>
    some (.array ((members.map (·.1)).mergeSort (fun x y => decide (x ≤ y)) |>.map .string))
  | _ => none

/-- Characters of a string, elements of an array, members of an object, and the absolute value of a
number. -/
def lengthOf : Value → Option Value
  | .null => some (.number (.integer 0))
  | .bool _ => none
  | .number (.integer value) => some (.number (.integer value.natAbs))
  | .number value =>
    match value.double? with
    | some x => some (.number (.double ⟨false, x.magnitude⟩))
    | none => some .null
  | .string text => some (.number (.integer text.length))
  | .array elements => some (.number (.integer elements.length))
  | .object members => some (.number (.integer members.length))

mutual

def run (f : Filter) (value : Value) : Outputs :=
  match f with
  | .input => [some value]
  | .nothing => []
  | .descendants => value.descendants.map some
  | .literal constant => [some constant]
  | .negate f => (run f value).map (·.bind negated)
  | .pipe f g => (run f value).feed (run g)
  | .comma f g => run f value ++ run g value
  | .alternative f g =>
    match (run f value).filter fun output => (output.map Value.isTruthy).getD true with
    | [] => run g value
    | outputs => outputs
  | .either f g =>
    (run f value).feed fun x =>
      if x.isTruthy then [some (.bool true)]
      else (run g value).map (·.map fun y => .bool y.isTruthy)
  | .both f g =>
    (run f value).feed fun x =>
      if x.isTruthy then (run g value).map (·.map fun y => .bool y.isTruthy)
      else [some (.bool false)]
  | .equal f g =>
    (run f value).feed fun x => (run g value).map (·.map fun y => .bool (x.equal y))
  | .differ f g =>
    (run f value).feed fun x => (run g value).map (·.map fun y => .bool (!x.equal y))
  | .collect f => [((run f value).mapM id).map .array]
  | .object entries =>
    (runEntries entries value).map (·.map fun members => .object (Members.ofList members))
  | .conditional test yes no =>
    (run test value).feed fun x => if x.isTruthy then run yes value else run no value
  | .attempt f => (run f value).filter Option.isSome
  | .path source parts =>
    (run source value).feed fun start =>
      (runParts parts value).flatMap fun selectors =>
        match selectors with
        | some selectors => Selector.follow selectors start
        | none => [none]
  | .keys => [keysOf value]
  | .length => [lengthOf value]
  | .variable _ => [none]
  | .unknown _ _ => [none]

/-- All choices of members, of which `none` is a failure. -/
def runEntries (entries : List (Filter × Filter)) (value : Value) :
    List (Option (List (String × Value))) :=
  match entries with
  | [] => [some []]
  | (key, f) :: rest =>
    (run key value).flatMap fun name =>
      match name with
      | some (.string name) =>
        (run f value).flatMap fun x =>
          match x with
          | some x => (runEntries rest value).map (·.map ((name, x) :: ·))
          | none => [none]
      | _ => [none]

def runPart (part : Part) (value : Value) : List (Option Selector) :=
  match part with
  | .index f optional => (run f value).map (·.map (.index · optional))
  | .slice first last optional =>
    (run first value).flatMap fun start =>
      match start with
      | some start => (run last value).map (·.map (.slice start · optional))
      | none => [none]
  | .each optional => [some (.each optional)]

def runParts (parts : List Part) (value : Value) : List (Option (List Selector)) :=
  match parts with
  | [] => [some []]
  | part :: rest =>
    (runPart part value).flatMap fun selector =>
      match selector with
      | some selector => (runParts rest value).map (·.map (selector :: ·))
      | none => [none]

end

end ShapeInference.Filter
