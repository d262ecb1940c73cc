import ShapeInference.Filter.Operator

/-! Reading filters from tokens.

Every function takes tokens from the front and gives those that are left, which are fewer. Only
`parseMore` and what reads the parts of a path may take none.
-/

set_option autoImplicit false

namespace ShapeInference.Filter

abbrev Parsed (α : Type) (tokens : List Token) :=
  Option (α × { rest : List Token // rest.length < tokens.length })

abbrev ParsedAny (α : Type) (tokens : List Token) :=
  Option (α × { rest : List Token // rest.length ≤ tokens.length })

/-- Words that name no filter. -/
def reservedWords : List String :=
  ["if", "then", "elif", "else", "end", "and", "or", "def", "reduce", "foreach", "try", "catch",
    "label", "import", "include", "as", "__loc__"]

def dropMarks (tokens : List Token) : List Token :=
  tokens.dropWhile (· = .symbol "?")

theorem length_dropMarks_le (tokens : List Token) : (dropMarks tokens).length ≤ tokens.length :=
  (List.dropWhile_suffix _).length_le

def fieldName? : Token → Option String
  | .word name => if name ∈ reservedWords then none else some name
  | .string text => some text
  | _ => none

/-- Whether a part of a path starts here when a point stands before it. -/
def startsPart (tokens : List Token) : Bool :=
  tokens.head?.any fun token => (fieldName? token).isSome || token = .symbol "["

/-- The tokens behind a given one. -/
def skip? (token : Token) (tokens : List Token) :
    Option { rest : List Token // rest.length < tokens.length } :=
  match tokens with
  | [] => none
  | first :: rest => if first = token then some ⟨rest, by simp⟩ else none

theorem lex_of_le {a b c d : Nat} (shorter : a ≤ b) (smaller : c < d) :
    Prod.Lex (· < ·) (· < ·) (a, c) (b, d) := by
  rcases Nat.lt_or_eq_of_le shorter with h | h
  · exact .left _ _ h
  · subst h; exact .right _ smaller

def fieldOf (key : String) (optional : Bool) : Part := .index (.literal (.string key)) optional

def field (key : String) : Filter := .path .input [fieldOf key false]

mutual

/-- Operators below `floor` are left to the caller, and so are commas where they separate. -/
def parseFrom (floor : Nat) (commas : Bool) (tokens : List Token) : Parsed Filter tokens :=
  match parseTerm tokens with
  | none => none
  | some (f, ⟨rest, bound⟩) =>
    match parseMore floor commas f rest with
    | none => none
    | some (f, ⟨after, bound'⟩) => some (f, ⟨after, by omega⟩)
termination_by (tokens.length, 3)

def parseMore (floor : Nat) (commas : Bool) (f : Filter) (tokens : List Token) :
    ParsedAny Filter tokens :=
  match tokens with
  | [] => some (f, ⟨[], by simp⟩)
  | token :: rest =>
    match Operator.ofToken? token with
    | none => some (f, ⟨token :: rest, by simp⟩)
    | some operator =>
      if operator.rank < floor ∨ (operator = .comma ∧ ¬commas) then
        some (f, ⟨token :: rest, by simp⟩)
      else
        match parseFrom operator.rightFloor commas rest with
        | none => none
        | some (g, ⟨after, bound⟩) =>
          match parseMore floor commas (operator.apply f g) after with
          | none => none
          | some (h, ⟨last, bound'⟩) => some (h, ⟨last, by simp only [List.length_cons]; omega⟩)
termination_by (tokens.length, 0)
decreasing_by
  · exact .left _ _ (by simp)
  · exact .left _ _ (by simp only [List.length_cons]; omega)

/-- A filter without operators between filters. -/
def parseTerm (tokens : List Token) : Parsed Filter tokens :=
  match tokens with
  | .symbol "-" :: rest =>
    match parseTerm rest with
    | none => none
    | some (f, ⟨after, bound⟩) =>
      some (.negate f, ⟨after, by simp only [List.length_cons]; omega⟩)
  | tokens =>
    match parseAtom tokens with
    | none => none
    | some (f, ⟨rest, bound⟩) =>
      let point := tokens.head? = some (.symbol ".")
      let f := if rest.head? = some (.symbol "?") then .attempt f else f
      have := length_dropMarks_le rest
      match parseParts point (dropMarks rest) with
      | none => none
      | some ([], ⟨after, bound'⟩) => some (f, ⟨after, by omega⟩)
      | some (parts, ⟨after, bound'⟩) => some (.path f parts, ⟨after, by omega⟩)
termination_by (tokens.length, 2)
decreasing_by
  · exact .left _ _ (by simp)
  · exact .right _ (by omega)
  · exact .left _ _ (by omega)

/-- Parts of a path. `point` tells that a point stands before the tokens. -/
def parseParts (point : Bool) (tokens : List Token) : ParsedAny (List Part) tokens :=
  match tokens with
  | .symbol "[" :: rest =>
    match parseBracket rest with
    | none => none
    | some (part, ⟨rest, bound⟩) =>
      match parseAfter part rest with
      | none => none
      | some (parts, ⟨after, bound'⟩) => some (parts, ⟨after, by simp only [List.length_cons]; omega⟩)
  | .symbol "." :: rest =>
    if startsPart rest then
      match parseParts true rest with
      | none => none
      | some (parts, ⟨after, bound⟩) => some (parts, ⟨after, by simp only [List.length_cons]; omega⟩)
    else none
  | token :: rest =>
    match if point then fieldName? token else none with
    | none => some ([], ⟨token :: rest, by simp⟩)
    | some name =>
      match parseAfter (fieldOf name) rest with
      | none => none
      | some (parts, ⟨after, bound⟩) => some (parts, ⟨after, by simp only [List.length_cons]; omega⟩)
  | [] => some ([], ⟨[], by simp⟩)
termination_by (tokens.length, 0)
decreasing_by
  all_goals exact .left _ _ (by simp only [List.length_cons]; omega)

/-- A part whose marks come next, and the parts behind them. -/
def parseAfter (part : Bool → Part) (tokens : List Token) : ParsedAny (List Part) tokens :=
  let optional : Bool := tokens.head? = some (.symbol "?")
  have := length_dropMarks_le tokens
  match parseParts false (dropMarks tokens) with
  | none => none
  | some (parts, ⟨after, bound⟩) => some (part optional :: parts, ⟨after, by omega⟩)
termination_by (tokens.length, 1)
decreasing_by exact lex_of_le (length_dropMarks_le tokens) (by omega)

/-- The part behind an opening bracket, with the closing one. -/
def parseBracket (tokens : List Token) : Parsed (Bool → Part) tokens :=
  match skip? (.symbol "]") tokens with
  | some rest => some (.each, rest)
  | none =>
    match skip? (.symbol ":") tokens with
    | some rest =>
      match parseClosed "]" rest.1 with
      | none => none
      | some (last, after) => some (.slice (.literal .null) last, ⟨after.1, by omega⟩)
    | none =>
      match parseFrom 0 true tokens with
      | none => none
      | some (f, ⟨rest, bound⟩) =>
        match skip? (.symbol "]") rest with
        | some after => some (.index f, ⟨after.1, by omega⟩)
        | none =>
          match skip? (.symbol ":") rest with
          | none => none
          | some rest =>
            match skip? (.symbol "]") rest.1 with
            | some after => some (.slice f (.literal .null), ⟨after.1, by omega⟩)
            | none =>
              match parseClosed "]" rest.1 with
              | none => none
              | some (last, after) => some (.slice f last, ⟨after.1, by omega⟩)
termination_by (tokens.length, 5)
decreasing_by
  · exact .left _ _ rest.2
  · exact .right _ (by omega)
  · exact .left _ _ (by omega)

/-- A filter and the symbol that closes it. -/
def parseClosed (closing : String) (tokens : List Token) : Parsed Filter tokens :=
  match parseFrom 0 true tokens with
  | none => none
  | some (f, ⟨rest, bound⟩) =>
    match skip? (.symbol closing) rest with
    | none => none
    | some after => some (f, ⟨after.1, by omega⟩)
termination_by (tokens.length, 4)
decreasing_by exact .right _ (by omega)

def parseAtom (tokens : List Token) : Parsed Filter tokens :=
  match tokens with
  | .symbol "." :: rest => some (.input, ⟨rest, by simp⟩)
  | .symbol ".." :: rest => some (.descendants, ⟨rest, by simp⟩)
  | .numeral text :: rest => some (.literal (.number (.ofText text)), ⟨rest, by simp⟩)
  | .string text :: rest => some (.literal (.string text), ⟨rest, by simp⟩)
  | .variable name :: rest => some (.variable name, ⟨rest, by simp⟩)
  | .symbol "(" :: rest =>
    match parseClosed ")" rest with
    | none => none
    | some (f, after) => some (f, ⟨after.1, by simp only [List.length_cons]; omega⟩)
  | .symbol "[" :: rest =>
    match skip? (.symbol "]") rest with
    | some after => some (.collect .nothing, ⟨after.1, by simp only [List.length_cons]; omega⟩)
    | none =>
      match parseClosed "]" rest with
      | none => none
      | some (f, after) => some (.collect f, ⟨after.1, by simp only [List.length_cons]; omega⟩)
  | .symbol "\x7b" :: rest =>
    match skip? (.symbol "\x7d") rest with
    | some after => some (.object [], ⟨after.1, by simp only [List.length_cons]; omega⟩)
    | none =>
      match parseEntries rest with
      | none => none
      | some (entries, after) =>
        some (.object entries, ⟨after.1, by simp only [List.length_cons]; omega⟩)
  | .word name :: rest =>
    if name = "if" then
      match parseConditional rest with
      | none => none
      | some (f, after) => some (f, ⟨after.1, by simp only [List.length_cons]; omega⟩)
    else if name ∈ reservedWords then none
    else
      match skip? (.symbol "(") rest with
      | none => some (named name [], ⟨rest, by simp⟩)
      | some rest =>
        match parseArguments rest.1 with
        | none => none
        | some (arguments, after) =>
          some (named name arguments, ⟨after.1, by simp only [List.length_cons]; omega⟩)
  | _ => none
termination_by (tokens.length, 1)
decreasing_by all_goals exact .left _ _ (by simp only [List.length_cons]; omega)

/-- The rest of a conditional behind its first word. -/
def parseConditional (tokens : List Token) : Parsed Filter tokens :=
  match parseFrom 0 true tokens with
  | none => none
  | some (test, ⟨rest, bound⟩) =>
    match skip? (.word "then") rest with
    | none => none
    | some rest =>
      match parseFrom 0 true rest.1 with
      | none => none
      | some (yes, ⟨rest, bound'⟩) =>
        match skip? (.word "end") rest with
        | some after => some (.conditional test yes .input, ⟨after.1, by omega⟩)
        | none =>
          match skip? (.word "elif") rest with
          | some rest =>
            match parseConditional rest.1 with
            | none => none
            | some (no, after) => some (.conditional test yes no, ⟨after.1, by omega⟩)
          | none =>
            match skip? (.word "else") rest with
            | none => none
            | some rest =>
              match parseFrom 0 true rest.1 with
              | none => none
              | some (no, ⟨rest, bound''⟩) =>
                match skip? (.word "end") rest with
                | none => none
                | some after => some (.conditional test yes no, ⟨after.1, by omega⟩)
termination_by (tokens.length, 4)
decreasing_by
  · exact .right _ (by omega)
  all_goals exact .left _ _ (by omega)

/-- Arguments up to the closing parenthesis. -/
def parseArguments (tokens : List Token) : Parsed (List Filter) tokens :=
  match parseFrom 0 true tokens with
  | none => none
  | some (f, ⟨rest, bound⟩) =>
    match skip? (.symbol ")") rest with
    | some after => some ([f], ⟨after.1, by omega⟩)
    | none =>
      match skip? (.symbol ";") rest with
      | none => none
      | some rest =>
        match parseArguments rest.1 with
        | none => none
        | some (others, after) => some (f :: others, ⟨after.1, by omega⟩)
termination_by (tokens.length, 4)
decreasing_by
  · exact .right _ (by omega)
  · exact .left _ _ (by omega)

/-- Entries up to the closing brace. -/
def parseEntries (tokens : List Token) : Parsed (List (Filter × Filter)) tokens :=
  match parseEntry tokens with
  | none => none
  | some (entry, ⟨rest, bound⟩) =>
    match skip? (.symbol "\x7d") rest with
    | some after => some ([entry], ⟨after.1, by omega⟩)
    | none =>
      match skip? (.symbol ",") rest with
      | none => none
      | some rest =>
        match parseEntries rest.1 with
        | none => none
        | some (others, after) => some (entry :: others, ⟨after.1, by omega⟩)
termination_by (tokens.length, 5)
decreasing_by
  · exact .right _ (by omega)
  · exact .left _ _ (by omega)

/-- A key by itself stands for the field of that name. -/
def parseEntry (tokens : List Token) : Parsed (Filter × Filter) tokens :=
  match parseKey tokens with
  | none => none
  | some ((key, short), ⟨rest, bound⟩) =>
    match skip? (.symbol ":") rest with
    | none => short.map fun f => ((key, f), ⟨rest, bound⟩)
    | some rest =>
      match parseFrom 0 false rest.1 with
      | none => none
      | some (f, after) => some ((key, f), ⟨after.1, by omega⟩)
termination_by (tokens.length, 4)
decreasing_by
  · exact .right _ (by omega)
  · exact .left _ _ (by omega)

/-- A key, with the value that it has by itself. -/
def parseKey (tokens : List Token) : Parsed (Filter × Option Filter) tokens :=
  match tokens with
  | .word name :: rest => some ((.literal (.string name), some (field name)), ⟨rest, by simp⟩)
  | .string text :: rest => some ((.literal (.string text), some (field text)), ⟨rest, by simp⟩)
  | .variable name :: rest =>
    some ((.literal (.string (.ofList (name.toList.drop 1))), some (.variable name)),
      ⟨rest, by simp⟩)
  | .symbol "(" :: rest =>
    match parseClosed ")" rest with
    | none => none
    | some (f, after) => some ((f, none), ⟨after.1, by simp only [List.length_cons]; omega⟩)
  | _ => none
termination_by (tokens.length, 0)
decreasing_by exact .left _ _ (by simp)

end

/-- The filter of a text, or nothing if the text is no filter. -/
def parse? (text : String) : Option Filter :=
  match tokens? text.toList with
  | none => none
  | some tokens =>
    match parseFrom 0 true tokens with
    | some (f, ⟨[], _⟩) => some f
    | _ => none

end ShapeInference.Filter
