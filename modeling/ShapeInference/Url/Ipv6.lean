import ShapeInference.Url.Ipv4

/-! IPv6 addresses: eight groups of up to four hexadecimal digits, where one double colon stands for
at least one group, and the last two groups may be written as a dotted IPv4 address. -/

set_option autoImplicit false

namespace ShapeInference.Url

def isHexDigit (c : Char) : Bool :=
  c.isDigit || ('a' ≤ c && c ≤ 'f') || ('A' ≤ c && c ≤ 'F')

def isGroup (part : List Char) : Bool :=
  !part.isEmpty && part.length ≤ 4 && part.all isHexDigit

/-- A decimal number of a dotted address, without leading zeros. -/
def isOctet (part : List Char) : Bool :=
  !part.isEmpty && part.all Char.isDigit && (part.length = 1 || part.head? ≠ some '0') &&
  (numeral? 10 part).any (· ≤ 255)

def isDotted (part : List Char) : Bool :=
  let octets := Text.splitOn '.' part
  octets.length = 4 && octets.all isOctet

/-- How many groups the parts between colons stand for, when each of them is well formed. A dotted
address may only come last. -/
def groupCount? : List (List Char) → Option Nat
  | [] => some 0
  | [part] => if isGroup part then some 1 else if isDotted part then some 2 else none
  | part :: rest => if isGroup part then (groupCount? rest).map (· + 1) else none

/-- Cuts at the first double colon. -/
def cutDoubleColon : List Char → List Char × Option (List Char)
  | ':' :: ':' :: rest => ([], some rest)
  | [] => ([], none)
  | c :: rest =>
    let (before, after) := cutDoubleColon rest
    (c :: before, after)

def partsOf (text : List Char) : List (List Char) :=
  if text.isEmpty then [] else Text.splitOn ':' text

def isIpv6 (text : List Char) : Bool :=
  match cutDoubleColon text with
  | (before, none) => groupCount? (partsOf before) = some 8
  | (before, some after) =>
    (partsOf before).all isGroup &&
    (groupCount? (partsOf after)).any fun count => (partsOf before).length + count ≤ 7

end ShapeInference.Url
