import ShapeInference.Text.Split

/-! Patterns for paths.

A question mark stands for one character, a star for any number of them, and brackets for one of
the characters or ranges between them, or for one that is not among them if an exclamation mark
comes first. Two stars alone between slashes stand for any number of directories.
-/

set_option autoImplicit false

namespace ShapeInference.Files

inductive PatternFault where
  | tooManyStars
  | starsInName
  | badRange
  deriving DecidableEq, Repr

/-- Positions count characters from zero. -/
structure PatternError where
  fault : PatternFault
  position : Nat
  deriving DecidableEq, Repr

def PatternFault.text : PatternFault → String
  | .tooManyStars => "wildcards are either regular `*` or recursive `**`"
  | .starsInName => "recursive wildcards must form a single path component"
  | .badRange => "invalid range pattern"

def PatternError.text (error : PatternError) : String :=
  "Pattern syntax error near position " ++ toString error.position ++ ": " ++ error.fault.text

namespace Pattern

/-- Ranges of characters with their first and last. -/
abbrev Ranges := List (Char × Char)

inductive Glyph where
  | character (c : Char)
  | any
  | sequence
  | directories
  | oneOf (ranges : Ranges)
  | noneOf (ranges : Ranges)
  deriving DecidableEq, Repr

def rangesOf : List Char → Ranges
  | a :: '-' :: b :: rest => (a, b) :: rangesOf rest
  | a :: rest => (a, a) :: rangesOf rest
  | [] => []

/-- The first character never closes the bracket. -/
def closeBracket? (make : Ranges → Glyph) (text : List Char) : Option (Glyph × List Char) :=
  match text with
  | [] => none
  | first :: rest =>
    match rest.dropWhile (· ≠ ']') with
    | [] => none
    | _ :: after => some (make (rangesOf (first :: rest.takeWhile (· ≠ ']'))), after)

/-- The glyph of a bracket that was opened before the text, and the text behind it. -/
def bracket? (text : List Char) : Option (Glyph × List Char) :=
  match text with
  | '!' :: rest => closeBracket? .noneOf rest
  | text => closeBracket? .oneOf text

theorem closeBracket?_shorter {make : Ranges → Glyph} {text after : List Char} {glyph : Glyph}
    (found : closeBracket? make text = some (glyph, after)) : after.length < text.length := by
  unfold closeBracket? at found
  split at found
  · simp at found
  · next first rest =>
    have bound := (List.dropWhile_suffix (· ≠ ']') (l := rest)).length_le
    split at found
    · simp at found
    · next same =>
      simp only [Option.some.injEq, Prod.mk.injEq] at found
      rw [same, found.2] at bound
      simp only [List.length_cons] at bound ⊢; omega

theorem bracket?_shorter {text after : List Char} {glyph : Glyph}
    (found : bracket? text = some (glyph, after)) : after.length < text.length := by
  unfold bracket? at found
  split at found
  · have := closeBracket?_shorter found
    simp only [List.length_cons]; omega
  · exact closeBracket?_shorter found

/-- `before` is the character before the text, which starts at `position`. -/
def glyphs (before : Option Char) (position : Nat) (text : List Char) :
    Except PatternError (List Glyph) :=
  match text with
  | [] => .ok []
  | c :: rest =>
    if c = '?' then (glyphs (some c) (position + 1) rest).map (.any :: ·)
    else if c = '[' then
      match found : bracket? rest with
      | none => .error ⟨.badRange, position⟩
      | some (glyph, after) =>
        have := bracket?_shorter found
        (glyphs (some ']') (position + 1 + (rest.length - after.length)) after).map (glyph :: ·)
    else if c = '*' then
      match rest with
      | '*' :: '*' :: _ => .error ⟨.tooManyStars, position + 2⟩
      | '*' :: after =>
        if before ≠ none ∧ before ≠ some '/' then .error ⟨.starsInName, position - 1⟩
        else
          match after with
          | [] => .ok [.directories]
          | '/' :: after => (glyphs (some '/') (position + 3) after).map (.directories :: ·)
          | _ => .error ⟨.starsInName, position + 2⟩
      | rest => (glyphs (some c) (position + 1) rest).map (.sequence :: ·)
    else (glyphs (some c) (position + 1) rest).map (.character c :: ·)
termination_by text.length
decreasing_by
  all_goals simp only [List.length_cons]; omega

def inRanges (ranges : Ranges) (c : Char) : Bool :=
  ranges.any fun range => range.1 ≤ c && c ≤ range.2

/-- Whether glyphs describe a whole name. -/
def fits : List Glyph → List Char → Bool
  | [], [] => true
  | [], _ :: _ => false
  | glyph :: rest, name =>
    let one (p : Char → Bool) : Bool :=
      match name with
      | [] => false
      | c :: name => p c && fits rest name
    let many : Bool :=
      fits rest name ||
      match name with
      | [] => false
      | _ :: name => fits (glyph :: rest) name
    match glyph with
    | .character c => one (· = c)
    | .any => one fun _ => true
    | .oneOf ranges => one (inRanges ranges)
    | .noneOf ranges => one (!inRanges ranges ·)
    | .sequence => many
    | .directories => many
termination_by glyphs name => glyphs.length + name.length

/-- What stands between two slashes. -/
inductive Component where
  | literal (name : String)
  | directories
  | wild (glyphs : List Glyph)
  deriving DecidableEq, Repr

namespace Component

def isPlain : Glyph → Bool
  | .character _ => true
  | _ => false

def ofName (name : List Char) : Except PatternError Component := do
  let glyphs ← glyphs none 0 name
  if glyphs.all isPlain then .ok (.literal (.ofList name))
  else if glyphs = [.directories] then .ok .directories
  else .ok (.wild glyphs)

def fits (component : Component) (name : String) : Bool :=
  match component with
  | .literal text => text = name
  | .directories => true
  | .wild glyphs => Pattern.fits glyphs name.toList

/-- Whether the component describes a special entry, whose point must be written. -/
def fitsSpecial (component : Component) (name : String) : Bool :=
  match component with
  | .wild (.character '.' :: _) => component.fits name
  | _ => false

end Component

end Pattern

structure Pattern where
  isAbsolute : Bool
  components : List Pattern.Component
  /-- A slash at the end asks for directories. -/
  directoriesOnly : Bool
  deriving Repr

/-- Whether a text is a pattern and not just a path. A brace counts, although it stands for itself. -/
def hasWildcard (text : String) : Bool :=
  text.toList.any ['*', '?', '[', '{'].contains

/-- The whole text must be well formed, and then each component by itself. -/
def Pattern.parse (text : String) : Except PatternError Pattern := do
  let _ ← glyphs none 0 text.toList
  let isAbsolute := text.toList.head? = some '/'
  let pieces := Text.splitOn '/' (if isAbsolute then text.toList.drop 1 else text.toList)
  let pieces := if pieces.getLast? = some [] then pieces.dropLast else pieces
  let components ← pieces.mapM Component.ofName
  .ok { isAbsolute, components, directoriesOnly := text.toList.getLast? = some '/' }

end ShapeInference.Files
