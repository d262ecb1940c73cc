import ShapeInference.Json.Reader

/-! Reading an object whose values are strings. A value of another form is a fault that names the
form, and that stands behind the value where reading it takes up text. -/

set_option autoImplicit false

namespace ShapeInference.Json

/-- The fault of a value at the start of `text`, where no value of its form is wanted. -/
def wrongForm (wanted : Wanted) (text : List Char) : Fault :=
  let wrong (found : Unexpected) (rest : List Char) : Fault :=
    { cause := .wrongType found wanted, left := utf8Size rest }
  let number (read : Readout Number) : Fault :=
    match read with
    | .error fault => fault
    | .ok (.integer value, rest) => wrong (.integer value) rest
    | .ok (.double value, rest) => wrong (.double value) rest
  let name (spelling rest : List Char) (found : Unexpected) : Fault :=
    match readName spelling rest with
    | .error fault => fault
    | .ok rest => wrong found rest
  match text with
  | [] => { cause := .endInValue, left := 0 }
  | c :: rest =>
    if c = 'n' then name ['u', 'l', 'l'] rest .null
    else if c = 't' then name ['r', 'u', 'e'] rest (.bool true)
    else if c = 'f' then name ['a', 'l', 's', 'e'] rest (.bool false)
    else if c = '-' then number (readNumber true rest)
    else if c.isDigit then number (readNumber false text)
    else if c = '"' then
      match readString rest with
      | .error fault => fault
      | .ok (cs, rest) => wrong (.string (.ofList cs)) rest
    else if c = '[' then wrong .sequence text
    else if c = '{' then wrong .map text
    else { cause := .expectedValue, left := utf8Size text - 1 }

def readStringValue (text : List Char) : Except Fault (Step String text) :=
  match start : skipBlanks text with
  | '"' :: rest =>
    match read : readString rest with
    | .error fault => .error fault
    | .ok (cs, left) => .ok ⟨.ofList cs, left, by
        have := length_skipBlanks_le text
        have := readString_shorter read
        rw [start] at *; simp only [List.length_cons] at *; omega⟩
  | found => .error (wrongForm .string found)

def readStringMembers (first : Bool) (text : List Char) : Except Fault (List (String × String)) :=
  match next : nextMember first text with
  | .error fault => .error fault
  | .ok (none, _) => .ok []
  | .ok (some key, start) =>
    have bound : start.length < text.length := nextMember_shorter next
    match readStringValue start with
    | .error fault => .error (fault.under (.key key))
    | .ok value =>
      have : value.rest.length < text.length := Nat.lt_trans value.shorter bound
      (readStringMembers false value.rest).map ((key, value.value) :: ·)
termination_by text.length

/-- The members of the object at the start of a text. -/
def readTable (source : String) : Except ReadError (List (String × String)) :=
  let read :=
    match skipBlanks source.toList with
    | '{' :: rest => readStringMembers true rest
    | found => .error (wrongForm .map found)
  read.mapError (·.locate source.toList)

end ShapeInference.Json
