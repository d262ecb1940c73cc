import ShapeInference.Json.Basic
import ShapeInference.Decimal.Shortest

/-! Writing JSON, without any blank or over indented lines.

A string escapes quotes, backslashes and the controls below the space, five of them by a letter.
-/

set_option autoImplicit false

namespace ShapeInference.Json

def hexDigits4 (n : Nat) : List Char :=
  [n / 0x1000, n / 0x100, n / 0x10, n].map fun d => Nat.digitChar (d % 16)

def escapeChar (c : Char) : List Char :=
  if c = '"' then ['\\', '"']
  else if c = '\\' then ['\\', '\\']
  else if c = '\x08' then ['\\', 'b']
  else if c = '\x0c' then ['\\', 'f']
  else if c = '\n' then ['\\', 'n']
  else if c = '\r' then ['\\', 'r']
  else if c = '\t' then ['\\', 't']
  else if c.toNat < 0x20 then '\\' :: 'u' :: hexDigits4 c.toNat
  else [c]

def stringChars (text : String) : List Char :=
  '"' :: (text.toList.flatMap escapeChar ++ ['"'])

def Number.chars : Number → List Char
  | .integer value => (toString value).toList
  | .double value => value.text.toList

mutual

def compactChars : Json → List Char
  | .null => ['n', 'u', 'l', 'l']
  | .bool true => ['t', 'r', 'u', 'e']
  | .bool false => ['f', 'a', 'l', 's', 'e']
  | .number n => n.chars
  | .string text => stringChars text
  | .array [] => ['[', ']']
  | .array (x :: rest) => '[' :: (compactChars x ++ compactElements rest)
  | .object [] => ['{', '}']
  | .object ((key, x) :: rest) =>
    '{' :: (stringChars key ++ ':' :: (compactChars x ++ compactMembers rest))

/-- The elements after the first, and the end of the list. -/
def compactElements : List Json → List Char
  | [] => [']']
  | x :: rest => ',' :: (compactChars x ++ compactElements rest)

/-- The members after the first, and the end of the object. -/
def compactMembers : List (String × Json) → List Char
  | [] => ['}']
  | (key, x) :: rest =>
    ',' :: (stringChars key ++ ':' :: (compactChars x ++ compactMembers rest))

end

def compact (json : Json) : String := .ofList (compactChars json)

/-- A new line that is indented by two blanks for each level. -/
def newLine (level : Nat) : List Char := '\n' :: List.replicate (2 * level) ' '

mutual

def prettyChars (level : Nat) : Json → List Char
  | .array [] => ['[', ']']
  | .array (x :: rest) =>
    '[' :: (newLine (level + 1) ++ (prettyChars (level + 1) x ++ prettyElements level rest))
  | .object [] => ['{', '}']
  | .object ((key, x) :: rest) =>
    '{' :: (newLine (level + 1) ++ (stringChars key ++ (':' :: ' ' ::
      (prettyChars (level + 1) x ++ prettyMembers level rest))))
  | json => compactChars json

def prettyElements (level : Nat) : List Json → List Char
  | [] => newLine level ++ [']']
  | x :: rest =>
    ',' :: (newLine (level + 1) ++ (prettyChars (level + 1) x ++ prettyElements level rest))

def prettyMembers (level : Nat) : List (String × Json) → List Char
  | [] => newLine level ++ ['}']
  | (key, x) :: rest =>
    ',' :: (newLine (level + 1) ++ (stringChars key ++ (':' :: ' ' ::
      (prettyChars (level + 1) x ++ prettyMembers level rest))))

end

def pretty (json : Json) : String := .ofList (prettyChars 0 json)

end ShapeInference.Json
