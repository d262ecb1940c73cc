import ShapeInference.Json.StringReader
import ShapeInference.Unicode.WhiteSpace

/-! The tokens of a filter's text. White space separates them, and a number sign starts a comment
that goes on to the end of the line. -/

set_option autoImplicit false

namespace ShapeInference.Filter

inductive Token where
  | word (name : String)
  | variable (name : String)
  | numeral (text : List Char)
  | string (text : String)
  | symbol (text : String)
  deriving DecidableEq, Repr

namespace Token

def isWordChar (c : Char) : Bool := c.isAlphanum || c = '_'

def isOperatorChar (c : Char) : Bool :=
  ['|', '=', '!', '<', '>', '+', '-', '*', '/', '%'].contains c

def isPunctuation (c : Char) : Bool :=
  ['.', ',', ':', ';', '?', '(', ')', '[', ']', '{', '}'].contains c

def digitCount (text : List Char) : Nat := (text.takeWhile Char.isDigit).length

def fractionSize : List Char → Nat
  | '.' :: rest => 1 + digitCount rest
  | _ => 0

/-- The size of an exponent, which is refused without digits. -/
def exponentSize? (text : List Char) : Option Nat :=
  let digits? (marks : Nat) : Option Nat :=
    let digits := digitCount (text.drop marks)
    if digits = 0 then none else some (marks + digits)
  match text with
  | mark :: rest =>
    if mark = 'e' ∨ mark = 'E' then
      if rest.head? = some '+' ∨ rest.head? = some '-' then digits? 2 else digits? 1
    else some 0
  | [] => some 0

def numeralSize? (text : List Char) : Option Nat :=
  let whole := digitCount text
  let mantissa := whole + fractionSize (text.drop whole)
  (exponentSize? (text.drop mantissa)).map (mantissa + ·)

def escaped? : Char → Option Char
  | '\\' => some '\\'
  | '/' => some '/'
  | '"' => some '"'
  | 'b' => some '\x08'
  | 'f' => some '\x0c'
  | 'n' => some '\n'
  | 'r' => some '\r'
  | 't' => some '\t'
  | _ => none

/-- The character of a code point in four hexadecimal digits. -/
def coded? (digits : List Char) : Option Char := do
  let values ← digits.mapM Json.hexValue?
  let code := values.foldl (fun n d => 16 * n + d) 0
  if code.isValidChar then some (.ofNat code) else none

/-- The text up to the closing quote, and its size with that quote. -/
def quoted? : List Char → Option (List Char × Nat)
  | '"' :: _ => some ([], 1)
  | '\\' :: 'u' :: a :: b :: c :: d :: rest => do
    let first ← coded? [a, b, c, d]
    let (text, size) ← quoted? rest
    some (first :: text, size + 6)
  | '\\' :: mark :: rest => do
    let first ← escaped? mark
    let (text, size) ← quoted? rest
    some (first :: text, size + 2)
  | c :: rest => do
    let (text, size) ← if c = '\\' then none else quoted? rest
    some (c :: text, size + 1)
  | [] => none

/-- The token that starts with `c`, and how many characters of `rest` belong to it. -/
def starting? (c : Char) (rest : List Char) : Option (Token × Nat) :=
  if c.isDigit then
    (numeralSize? (c :: rest)).map fun size => (.numeral ((c :: rest).take size), size - 1)
  else if isWordChar c then
    let tail := rest.takeWhile isWordChar
    some (.word (.ofList (c :: tail)), tail.length)
  else if c = '$' then
    let name := rest.takeWhile isWordChar
    if name.isEmpty then none else some (.variable (.ofList ('$' :: name)), name.length)
  else if c = '"' then
    (quoted? rest).map fun (text, size) => (.string (.ofList text), size)
  else if c = '.' ∧ rest.head? = some '.' then some (.symbol "..", 1)
  else if isPunctuation c then some (.symbol (.ofList [c]), 0)
  else if isOperatorChar c then
    let tail := rest.takeWhile isOperatorChar
    some (.symbol (.ofList (c :: tail)), tail.length)
  else none

end Token

def tokens? : List Char → Option (List Token)
  | [] => some []
  | c :: rest =>
    if Unicode.isWhiteSpace c then tokens? rest
    else if c = '#' then tokens? (rest.dropWhile (· ≠ '\n'))
    else
      match Token.starting? c rest with
      | none => none
      | some (token, size) => (tokens? (rest.drop size)).map (token :: ·)
termination_by text => text.length
decreasing_by
  · simp
  · have := (List.dropWhile_suffix (· ≠ '\n') (l := rest)).length_le
    simp only [List.length_cons]; omega
  · simp only [List.length_drop, List.length_cons]; omega

end ShapeInference.Filter
