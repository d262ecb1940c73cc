import ShapeInference.Idna.Table
import ShapeInference.Unicode.Normalization

/-! The mapping step of UTS 46: case is folded, compatibility forms are replaced and invisible
characters are removed. Characters that no domain name may hold have no mapping. -/

set_option autoImplicit false

namespace ShapeInference.Idna

/-- Code points `first, first + step, ...` up to `last`. With `moving` the single image goes up
with the code point, and otherwise all have the same images. -/
structure MappedRun where
  first : Nat
  last : Nat
  step : Nat
  images : List Nat
  moving : Bool

def MappedRun.ofWord (word : List Char) : MappedRun :=
  let (codes, image) := word.span fun c => c != '>' && c != '='
  let (range, step) := codes.span (· != '/')
  let (first, last) := Unicode.CodeSet.readRange range
  { first, last
    step := if step.isEmpty then 1 else 2
    images := (Text.splitOn ',' (image.drop 1)).map Unicode.readHex
    moving := image.head? = some '>' }

def MappedRun.map? (run : MappedRun) (code : Nat) : Option (List Nat) :=
  if run.first ≤ code ∧ code ≤ run.last ∧ (code - run.first) % run.step = 0 then
    some (if run.moving then run.images.map (· + (code - run.first)) else run.images)
  else none

def mapped : List MappedRun := (Text.tokens mappedText.toList).map .ofWord

def mapChar? (c : Char) : Option (List Char) :=
  if c.toNat < 0x80 then some [c.toLower]
  else if valid.contains c then some [c]
  else if ignored.contains c then some []
  else (mapped.findSome? (·.map? c.toNat)).map (·.map Char.ofNat)

def isAscii (cs : List Char) : Bool := cs.all (·.toNat < 0x80)

/-- The mapped text in normalization form C. -/
def map? (cs : List Char) : Option (List Char) :=
  (cs.mapM mapChar?).map fun images =>
    if isAscii images.flatten then images.flatten else Unicode.nfc images.flatten

end ShapeInference.Idna
