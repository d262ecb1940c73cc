import ShapeInference.Filter.Basic

/-! The names in a filter that nothing defines. -/

set_option autoImplicit false

namespace ShapeInference.Filter

/-- A variable, or a filter with its number of arguments. -/
inductive UnknownName where
  | variable (name : String)
  | filter (name : String) (arity : Nat)
  deriving DecidableEq, Repr

def UnknownName.text : UnknownName → String
  | .variable name => "undefined `" ++ name ++ "`: Var"
  | .filter name arity => "undefined `" ++ name ++ "`: Filter(" ++ toString arity ++ ")"

mutual

/-- From left to right, arguments before the name they are given to. The branches of a conditional
go before its test. -/
def unknownNames : Filter → List UnknownName
  | .input => []
  | .nothing => []
  | .descendants => []
  | .literal _ => []
  | .keys => []
  | .length => []
  | .negate f => unknownNames f
  | .collect f => unknownNames f
  | .attempt f => unknownNames f
  | .pipe f g => unknownNames f ++ unknownNames g
  | .comma f g => unknownNames f ++ unknownNames g
  | .alternative f g => unknownNames f ++ unknownNames g
  | .either f g => unknownNames f ++ unknownNames g
  | .both f g => unknownNames f ++ unknownNames g
  | .equal f g => unknownNames f ++ unknownNames g
  | .differ f g => unknownNames f ++ unknownNames g
  | .object entries => unknownInEntries entries
  | .conditional test yes no => unknownNames no ++ (unknownNames test ++ unknownNames yes)
  | .path source parts => unknownNames source ++ unknownInParts parts
  | .variable name => [.variable name]
  | .unknown name arguments => unknownInArguments arguments ++ [.filter name arguments.length]

def unknownInEntries : List (Filter × Filter) → List UnknownName
  | [] => []
  | (key, f) :: rest => unknownNames key ++ unknownNames f ++ unknownInEntries rest

def unknownInPart : Part → List UnknownName
  | .index f _ => unknownNames f
  | .slice first last _ => unknownNames first ++ unknownNames last
  | .each _ => []

def unknownInParts : List Part → List UnknownName
  | [] => []
  | part :: rest => unknownInPart part ++ unknownInParts rest

def unknownInArguments : List Filter → List UnknownName
  | [] => []
  | f :: rest => unknownNames f ++ unknownInArguments rest

end

end ShapeInference.Filter
