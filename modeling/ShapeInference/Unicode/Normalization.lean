import ShapeInference.Unicode.CanonicalTable

/-! Normalization form C, for the characters of the canonical table and Hangul syllables. -/

set_option autoImplicit false

namespace ShapeInference.Unicode

/-- A character and the two that it falls into. -/
structure Composite where
  code : Nat
  first : Nat
  second : Nat

def readComposite (word : List Char) : Composite :=
  let (code, parts) := word.span (· != '=')
  let (first, second) := (parts.drop 1).span (· != ',')
  ⟨readHex code, readHex first, readHex (second.drop 1)⟩

def composites : List Composite := (Text.tokens composedText.toList).map readComposite

def readClass (word : List Char) : (Nat × Nat) × Nat :=
  let (range, value) := word.span (· != '=')
  (CodeSet.readRange range, readHex (value.drop 1))

def combiningClasses : List ((Nat × Nat) × Nat) :=
  (Text.tokens classText.toList).map readClass

def combiningClass (c : Char) : Nat :=
  if c.toNat < 0x300 then 0
  else
    match combiningClasses.find? fun entry => entry.1.1 ≤ c.toNat && c.toNat ≤ entry.1.2 with
    | some entry => entry.2
    | none => 0

/-- A syllable has a leading consonant, a vowel and perhaps a trailing consonant: 19 leads, 21
vowels, and 28 ends of which the first is empty. -/
def hangulParts? (c : Char) : Option (List Char) :=
  if 0xAC00 ≤ c.toNat ∧ c.toNat < 0xAC00 + 19 * 588 then
    let i := c.toNat - 0xAC00
    let lead := Char.ofNat (0x1100 + i / 588)
    let vowel := Char.ofNat (0x1161 + i % 588 / 28)
    some (lead :: vowel :: if i % 28 = 0 then [] else [Char.ofNat (0x11A7 + i % 28)])
  else none

def hangulPair? (a b : Char) : Option Char :=
  let lead := a.toNat - 0x1100
  let vowel := b.toNat - 0x1161
  let trail := b.toNat - 0x11A7
  if 0x1100 ≤ a.toNat ∧ lead < 19 ∧ 0x1161 ≤ b.toNat ∧ vowel < 21 then
    some (Char.ofNat (0xAC00 + (lead * 21 + vowel) * 28))
  else if 0xAC00 ≤ a.toNat ∧ a.toNat < 0xAC00 + 19 * 588 ∧ (a.toNat - 0xAC00) % 28 = 0 ∧
      0x11A7 < b.toNat ∧ trail < 28 then
    some (Char.ofNat (a.toNat + trail))
  else none

def compose? (a b : Char) : Option Char :=
  match hangulPair? a b with
  | some c => some c
  | none =>
    (composites.find? fun x => x.first = a.toNat && x.second = b.toNat).map fun x => Char.ofNat x.code

/-- Takes a character apart. Only a first part falls into parts again, at most three times. -/
def decompose : Nat → Char → List Char
  | 0, c => [c]
  | depth + 1, c =>
    match hangulParts? c with
    | some parts => parts
    | none =>
      match composites.find? fun x => x.code = c.toNat with
      | some x => decompose depth (Char.ofNat x.first) ++ [Char.ofNat x.second]
      | none => [c]

/-- Puts a mark behind the marks of lower class. -/
def orderMark (c : Char) : List Char → List Char
  | [] => [c]
  | d :: rest =>
    if combiningClass d ≠ 0 ∧ combiningClass d < combiningClass c then d :: orderMark c rest
    else c :: d :: rest

def canonicalOrder (cs : List Char) : List Char := cs.foldr orderMark []

/-- Composes what follows a starter. `kept` are the marks, last first, that stayed apart from it,
and `last` is the class of the last of them. -/
def composeOnto (starter : Char) (kept : List Char) (last : Nat) : List Char → List Char
  | [] => starter :: kept.reverse
  | c :: rest =>
    let blocked := !kept.isEmpty && combiningClass c ≤ last
    match if blocked then none else compose? starter c with
    | some composite => composeOnto composite kept last rest
    | none =>
      if combiningClass c = 0 then (starter :: kept.reverse) ++ composeOnto c [] 0 rest
      else composeOnto starter (c :: kept) (combiningClass c) rest

def compose : List Char → List Char
  | [] => []
  | c :: rest => if combiningClass c = 0 then composeOnto c [] 0 rest else c :: compose rest

def nfc (cs : List Char) : List Char := compose (canonicalOrder (cs.flatMap (decompose 4)))

end ShapeInference.Unicode
