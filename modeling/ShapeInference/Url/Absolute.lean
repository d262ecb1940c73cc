import ShapeInference.Url.Host

/-! Absolute URLs, as far as they decide about the host.

A scheme and a colon come first. The schemes of the web have an authority behind any number of
slashes, `file` has a host behind two, and all others have an authority behind two. Path, query and
fragment never make a URL invalid, but the path of a `file` URL can take its host away.
-/

set_option autoImplicit false

namespace ShapeInference.Url

/-- The scheme in lower case, and the text behind its colon. -/
def takeScheme (text : List Char) : Option (List Char × List Char) :=
  let inScheme (c : Char) : Bool := c.isAlphanum || c = '+' || c = '-' || c = '.'
  match text.head?, text.dropWhile inScheme with
  | some first, ':' :: rest =>
    if first.isAlpha then some ((text.takeWhile inScheme).map Char.toLower, rest) else none
  | _, _ => none

def webSchemes : List (List Char) := ["http", "https", "ws", "wss", "ftp"].map String.toList

def isSlash (c : Char) : Bool := c = '/' || c = '\\'

def endsAuthority (c : Char) : Bool := c = '/' || c = '?' || c = '#'

/-- The text behind the last `@`. -/
def dropUser (authority : List Char) : List Char :=
  (authority.reverse.takeWhile (· ≠ '@')).reverse

/-- Cuts at the colon before the port. Colons between brackets belong to the host. -/
def splitPort (inBrackets : Bool) : List Char → List Char × Option (List Char)
  | [] => ([], none)
  | c :: rest =>
    if c = ':' ∧ ¬inBrackets then ([], some rest)
    else
      let (host, port) := splitPort (if c = '[' then true else if c = ']' then false else inBrackets) rest
      (c :: host, port)

/-- A port may be empty. A backslash ends it in any scheme. -/
def isPort (text : List Char) : Bool :=
  let digits := text.takeWhile (· ≠ '\\')
  digits.all Char.isDigit && (digits.isEmpty || (numeral? 10 digits).any (· < 65536))

def authorityHost? (host? : List Char → Option Host) (authority : List Char) : Option Host :=
  match splitPort false (dropUser authority) with
  | (host, none) => host? host
  | (host, some port) => if isPort port then host? host else none

/-- A letter with a colon or a bar, which names a drive and not a host. -/
def isDrive : List Char → Bool
  | [letter, mark] => letter.isAlpha && (mark = ':' || mark = '|')
  | _ => false

/-- Pieces of a path between slashes of both kinds. -/
def segments (path : List Char) : List (List Char) :=
  Text.splitOn '/' (path.map fun c => if c = '\\' then '/' else c)

/-- A segment with encoded points decoded, in which no other character is encoded. -/
def plainPoints : List Char → List Char
  | '%' :: '2' :: 'e' :: rest => '.' :: plainPoints rest
  | '%' :: '2' :: 'E' :: rest => '.' :: plainPoints rest
  | c :: rest => c :: plainPoints rest
  | [] => []

/-- Whether some segment names a drive at the root of the path. `parents` are the segments above,
the innermost first. One that names a drive is never left. -/
def reachesDrive (parents : List (List Char)) : List (List Char) → Bool
  | [] => false
  | segment :: rest =>
    let points := plainPoints segment
    if points = ['.'] then reachesDrive parents rest
    else if points = ['.', '.'] then
      reachesDrive (if parents.head?.any isDrive then parents else parents.tail) rest
    else (parents.isEmpty && isDrive segment) || reachesDrive (segment :: parents) rest

def fileHost? (text : List Char) : Option Host :=
  match text with
  | first :: second :: rest =>
    if isSlash first && isSlash second then
      let name := rest.takeWhile fun c => !(endsAuthority c || c = '\\')
      let path := ((rest.drop name.length).takeWhile fun c => c ≠ '?' && c ≠ '#').tail
      if isDrive name then none
      else
        match domainHost? name with
        | none => none
        | some host =>
          if host = .domain ["localhost".toList] ∨ reachesDrive [] (segments path) then none
          else some host
    else none
  | _ => none

/-- The controls of ASCII and the space, which do not count around a URL. -/
def isPadding (c : Char) : Bool := c ≤ ' '

/-- The text without the padding around it. -/
def trim (text : List Char) : List Char :=
  ((text.dropWhile isPadding).reverse.dropWhile isPadding).reverse

/-- The host of an absolute URL, which may have padding around it. -/
def host? (text : List Char) : Option Host :=
  match takeScheme (trim text) with
  | none => none
  | some (scheme, rest) =>
    if scheme = "file".toList then fileHost? rest
    else if scheme ∈ webSchemes then
      authorityHost? domainHost?
        ((rest.dropWhile isSlash).takeWhile fun c => !(endsAuthority c || c = '\\'))
    else
      match rest with
      | '/' :: '/' :: rest => authorityHost? plainHost? (rest.takeWhile fun c => !endsAuthority c)
      | _ => none

end ShapeInference.Url
