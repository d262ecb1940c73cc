import ShapeInference.Idna.Label
import ShapeInference.Text.Utf8
import ShapeInference.Url.Ipv4
import ShapeInference.Url.Ipv6

/-! Hosts of URLs.

Where a scheme knows domain names, a host is an IPv6 address in brackets, an IPv4 address in any of
its forms, or a domain name after percent decoding and mapping. Elsewhere it is any text without
delimiters.
-/

set_option autoImplicit false

namespace ShapeInference.Url

inductive Host where
  | ipv4 (address : Nat)
  | ipv6 (groups : List Char)
  | domain (labels : List (List Char))
  | plain (text : List Char)
  deriving DecidableEq, Repr

/-- Bytes with each `%` and two hexadecimal digits replaced by the byte they spell. -/
def percentDecode : List UInt8 → List UInt8
  | 0x25 :: high :: low :: rest =>
    match numeral? 16 [Char.ofNat high.toNat, Char.ofNat low.toNat] with
    | some byte => byte.toUInt8 :: percentDecode rest
    | none => 0x25 :: percentDecode (high :: low :: rest)
  | byte :: rest => byte :: percentDecode rest
  | [] => []

/-- The address between brackets. A text that opens a bracket is nothing else. -/
def bracketed? (text : List Char) : Option Host :=
  let inner := text.tail.dropLast
  if text.getLast? = some ']' ∧ isIpv6 inner then some (.ipv6 inner) else none

def domainHost? (text : List Char) : Option Host :=
  if text.head? = some '[' then bracketed? text
  else do
    let name ← Text.ofUtf8? (percentDecode (Text.utf8 (.ofList text)))
    let labels ← Idna.labels? name.toList
    if labels = [[]] then none
    else if endsInNumber labels then (ipv4? labels).map .ipv4
    else some (.domain labels)

/-- Characters that end a host or that no host may hold. -/
def hostDelimiters : List Char :=
  ['\x00', '\t', '\n', '\r', ' ', '#', '/', ':', '<', '>', '?', '@', '[', '\\', ']', '^', '|']

def plainHost? (text : List Char) : Option Host :=
  if text.head? = some '[' then bracketed? text
  else if text.isEmpty || text.any hostDelimiters.contains then none
  else some (.plain text)

end ShapeInference.Url
