import ShapeInference.Filter.Value

/-! Filters: programs that turn one value into any number of values. -/

set_option autoImplicit false

namespace ShapeInference

mutual

inductive Filter where
  | input
  | nothing
  /-- The input and all values inside it. -/
  | descendants
  | literal (value : Filter.Value)
  | negate (f : Filter)
  | pipe (f g : Filter)
  | comma (f g : Filter)
  /-- The truthy outputs of `f`, or the outputs of `g` if there are none. -/
  | alternative (f g : Filter)
  | either (f g : Filter)
  | both (f g : Filter)
  | equal (f g : Filter)
  | differ (f g : Filter)
  /-- All outputs in one array. -/
  | collect (f : Filter)
  | object (entries : List (Filter × Filter))
  | conditional (test yes no : Filter)
  /-- The outputs without failures. -/
  | attempt (f : Filter)
  | path (source : Filter) (parts : List Filter.Part)
  | keys
  | length
  | variable (name : String)
  | unknown (name : String) (arguments : List Filter)

/-- A step of a path. An optional step goes nowhere where it would fail. -/
inductive Filter.Part where
  | index (f : Filter) (optional : Bool)
  /-- A bound that is null is absent. -/
  | slice (first last : Filter) (optional : Bool)
  | each (optional : Bool)

end

namespace Filter

/-- A filter that is called by its name. -/
def named (name : String) (arguments : List Filter) : Filter :=
  match name, arguments with
  | "null", [] => .literal .null
  | "true", [] => .literal (.bool true)
  | "false", [] => .literal (.bool false)
  | "empty", [] => .nothing
  | "not", [] => .conditional .input (.literal (.bool false)) (.literal (.bool true))
  | "keys", [] => .keys
  | "length", [] => .length
  | "map", [f] => .collect (.pipe (.path .input [.each false]) f)
  | "select", [f] => .conditional f .input .nothing
  | name, arguments => .unknown name arguments

end Filter

end ShapeInference
