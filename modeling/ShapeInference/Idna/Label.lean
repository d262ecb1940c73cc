import ShapeInference.Idna.Mapping
import ShapeInference.Idna.Punycode
import ShapeInference.Unicode.Bidi
import ShapeInference.Unicode.Joining
import ShapeInference.Unicode.Mark

/-! What a label of a domain name must look like, by UTS 46 without rules for hyphens. -/

set_option autoImplicit false

namespace ShapeInference.Idna

/-- ASCII characters that no label of a URL may hold: controls, the space and delimiters. -/
def isDenied (c : Char) : Bool :=
  c.toNat ≤ 0x20 || c.toNat = 0x7F ||
  ['%', '#', '/', ':', '<', '>', '?', '@', '[', '\\', ']', '^', '|'].contains c

def zeroWidthNonJoiner : Char := '\u200c'

def zeroWidthJoiner : Char := '\u200d'

/-- A joiner stands behind a virama, or it keeps apart two letters that would join. `before` are
the characters before it, last first. -/
def joinerFits (c : Char) (before after : List Char) : Bool :=
  let afterVirama := before.head?.any Unicode.viramas.contains
  let joined (side : Unicode.CodeSet) (cs : List Char) : Bool :=
    (cs.dropWhile Unicode.joinsThrough.contains).head?.any fun d =>
      side.contains d || Unicode.joinsBoth.contains d
  if c = zeroWidthJoiner then afterVirama
  else if c = zeroWidthNonJoiner then
    afterVirama || (joined Unicode.joinsLeft before && joined Unicode.joinsRight after)
  else true

def joinersFit (before : List Char) : List Char → Bool
  | [] => true
  | c :: rest => joinerFits c before rest && joinersFit (c :: before) rest

def hasPunycodeMark (label : List Char) : Bool := ['x', 'n', '-', '-'].isPrefixOf label

/-- The label in Unicode. Its encoded form must be the only one: the decoded characters must not
change by mapping and must not all be ASCII. -/
def decode? (label : List Char) : Option (List Char) :=
  if hasPunycodeMark label then
    let encoded := label.drop 4
    if isAscii label && encoded.length ≤ 2000 then do
      let decoded ← Punycode.decode? encoded
      let fits := !isAscii decoded && !hasPunycodeMark decoded && !decoded.contains '.' &&
        !decoded.any isDenied && decide (map? decoded = some decoded)
      if fits then some decoded else none
    else none
  else if label.length ≤ 1000 || isAscii label then some label
  else none

def isValidLabel (label : List Char) : Bool :=
  isAscii label || (!label.head?.any Unicode.marks.contains && joinersFit [] label)

def isRightToLeft (c : Char) : Bool :=
  let direction := Unicode.BidiClass.of c
  direction = .rightToLeft || direction = .arabicNumber

/-- The Bidi rule of domain names for one label. -/
def obeysBidi (label : List Char) : Bool :=
  let classes := label.map Unicode.BidiClass.of
  let final := (classes.reverse.dropWhile (· = .nonspacing)).head?
  match classes with
  | [] => true
  | .leftToRight :: _ =>
    classes.all (fun d => d ≠ .rightToLeft && d ≠ .arabicNumber) &&
    final.any fun d => d = .leftToRight || d = .europeanNumber
  | .rightToLeft :: _ =>
    classes.all (· ≠ .leftToRight) &&
    !(classes.contains .europeanNumber && classes.contains .arabicNumber) &&
    final.any fun d => d = .rightToLeft || d = .europeanNumber || d = .arabicNumber
  | _ => false

/-- The mapped labels of a domain name, if all of them are valid. The Bidi rule counts once a
character of any label runs from right to left. -/
def labels? (domain : List Char) : Option (List (List Char)) := do
  let text ← map? domain
  let labels := Text.splitOn '.' text
  let decoded ← labels.mapM decode?
  let fits := !text.any isDenied && decoded.all isValidLabel &&
    (!decoded.any (·.any isRightToLeft) || decoded.all obeysBidi)
  if fits then some labels else none

end ShapeInference.Idna
