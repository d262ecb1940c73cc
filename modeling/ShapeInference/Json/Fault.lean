import ShapeInference.Decimal.Shortest
import ShapeInference.Text.Quoted

/-! Why a text is no JSON document of the wanted form, and where.

A `Fault` counts the bytes that are left of the text, which the reader knows without the text
before it. `Fault.locate` turns that count into a line and a column of the whole text.
-/

set_option autoImplicit false

namespace ShapeInference

namespace Json

/-- A value of a form that was not wanted. -/
inductive Unexpected where
  | null
  | bool (value : Bool)
  | integer (value : Int)
  | double (value : Binary64)
  | string (value : String)
  | sequence
  | map
  deriving DecidableEq, Repr

def Unexpected.text : Unexpected → String
  | .null => "null"
  | .bool value => "boolean `" ++ (if value then "true" else "false") ++ "`"
  | .integer value => "integer `" ++ toString value ++ "`"
  | .double value => "floating point `" ++ value.text ++ "`"
  | .string value => "string " ++ Text.quoted value
  | .sequence => "sequence"
  | .map => "map"

inductive Wanted where
  | map
  | string
  deriving DecidableEq, Repr

def Wanted.text : Wanted → String
  | .map => "a map"
  | .string => "a string"

inductive Cause where
  | endInList
  | endInObject
  | endInString
  | endInValue
  | expectedColon
  | expectedListCommaOrEnd
  | expectedObjectCommaOrEnd
  | expectedIdent
  | expectedValue
  | invalidEscape
  | invalidNumber
  | numberOutOfRange
  | controlCharacter
  | keyNotString
  | loneSurrogate
  | trailingComma
  | unpairedSurrogate
  | tooDeep
  | wrongType (found : Unexpected) (wanted : Wanted)
  deriving DecidableEq, Repr

def Cause.text : Cause → String
  | .endInList => "EOF while parsing a list"
  | .endInObject => "EOF while parsing an object"
  | .endInString => "EOF while parsing a string"
  | .endInValue => "EOF while parsing a value"
  | .expectedColon => "expected `:`"
  | .expectedListCommaOrEnd => "expected `,` or `]`"
  | .expectedObjectCommaOrEnd => "expected `,` or `\x7d`"
  | .expectedIdent => "expected ident"
  | .expectedValue => "expected value"
  | .invalidEscape => "invalid escape"
  | .invalidNumber => "invalid number"
  | .numberOutOfRange => "number out of range"
  | .controlCharacter => "control character (\\u0000-\\u001F) found while parsing a string"
  | .keyNotString => "key must be a string"
  | .loneSurrogate => "lone leading surrogate in hex escape"
  | .trailingComma => "trailing comma"
  | .unpairedSurrogate => "unexpected end of hex escape"
  | .tooDeep => "recursion limit exceeded"
  | .wrongType found wanted => "invalid type: " ++ found.text ++ ", expected " ++ wanted.text

/-- A step from a value into a part of it. `unnamed` stands for a member whose key was not read. -/
inductive Segment where
  | key (name : String)
  | index (position : Nat)
  | unnamed
  deriving DecidableEq, Repr

/-- The steps in order. A point stands before each key but the first step. -/
def pathText (path : List Segment) : String :=
  let step (segment : Segment) : String :=
    match segment with
    | .key name => "." ++ name
    | .index position => "[" ++ toString position ++ "]"
    | .unnamed => ".?"
  match path with
  | [] => "."
  | .key name :: rest => name ++ String.join (rest.map step)
  | .unnamed :: rest => "?" ++ String.join (rest.map step)
  | path => String.join (path.map step)

/-- `left` is the number of bytes from the place of the fault to the end of the text. -/
structure Fault where
  cause : Cause
  left : Nat
  path : List Segment := []
  deriving DecidableEq, Repr

def Fault.under (segment : Segment) (fault : Fault) : Fault :=
  { fault with path := segment :: fault.path }

/-- Lines count from one, and columns count the bytes of the line before the place. -/
structure Position where
  line : Nat
  column : Nat
  deriving DecidableEq, Repr

def utf8Size (cs : List Char) : Nat :=
  cs.foldr (fun c size => c.utf8Size + size) 0

/-- The position `bytes` further on. It may lie inside a character. -/
def Position.advance (position : Position) (bytes : Nat) : List Char → Position
  | [] => position
  | c :: rest =>
    if bytes < c.utf8Size then { position with column := position.column + bytes }
    else if c = '\n' then
      advance ⟨position.line + 1, 0⟩ (bytes - c.utf8Size) rest
    else
      advance ⟨position.line, position.column + c.utf8Size⟩ (bytes - c.utf8Size) rest

structure ReadError where
  path : List Segment
  cause : Cause
  position : Position
  deriving DecidableEq, Repr

def Fault.locate (source : List Char) (fault : Fault) : ReadError where
  path := fault.path
  cause := fault.cause
  position := (Position.mk 1 0).advance (utf8Size source - fault.left) source

def ReadError.causeText (error : ReadError) : String :=
  error.cause.text ++ " at line " ++ toString error.position.line ++ " column " ++
    toString error.position.column

def ReadError.message (error : ReadError) : String :=
  "at JSON path " ++ pathText error.path ++ " → " ++ error.causeText

end Json

end ShapeInference
