import ShapeInference.Unicode.Visible

/-! Text between double quotes, with escapes for what cannot be seen.

NUL, tab, line feed, carriage return, quotes and the backslash have short escapes. Any other
character that does not show by itself is written as its code point, `\u{301}`.
-/

set_option autoImplicit false

namespace ShapeInference.Text

def codeEscape (c : Char) : List Char :=
  '\\' :: 'u' :: '{' :: Nat.toDigits 16 c.toNat ++ ['}']

/-- `marks` are the quotation marks to escape. -/
def escapeChar (marks : List Char) (c : Char) : List Char :=
  if c = '\x00' then ['\\', '0']
  else if c = '\t' then ['\\', 't']
  else if c = '\n' then ['\\', 'n']
  else if c = '\r' then ['\\', 'r']
  else if c = '\\' ∨ c ∈ marks then ['\\', c]
  else if 0x20 ≤ c.toNat ∧ c.toNat < 0x7F then [c]
  else if Unicode.graphemeExtend.contains c || Unicode.unprintable.contains c then codeEscape c
  else [c]

def quotedWith (marks : List Char) (text : String) : String :=
  .ofList ('"' :: text.toList.flatMap (escapeChar marks) ++ ['"'])

def quoted (text : String) : String := quotedWith ['"'] text

end ShapeInference.Text
