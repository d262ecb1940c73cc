import ShapeInference.Json.StringReader
import ShapeInference.Unicode.WhiteSpace

/-! Reading JSON documents.

Values may nest 127 levels deep. A fault carries the path of the value that was being read. What
stands between the values of a list or an object belongs to the list or the object itself, and a
fault in a key belongs to an unnamed member of the object.

`read` takes the first value of a text and ignores what follows it. `readAll` takes all values of a
text, which white space may separate. Each value is read as a text of its own, so the positions of
its faults count from its first character.
-/

set_option autoImplicit false

namespace ShapeInference.Json

def isBlank (c : Char) : Bool := c = ' ' || c = '\n' || c = '\t' || c = '\r'

def skipBlanks (text : List Char) : List Char := text.dropWhile isBlank

theorem length_skipBlanks_le (text : List Char) : (skipBlanks text).length ≤ text.length :=
  (List.dropWhile_suffix _).length_le

/-- Reads the rest of a literal name. The character that differs counts as read. -/
def readName : List Char → List Char → Except Fault (List Char)
  | [], text => .ok text
  | _ :: _, [] => .error { cause := .endInValue, left := 0 }
  | expected :: name, c :: rest =>
    if c = expected then readName name rest
    else .error { cause := .expectedIdent, left := utf8Size (c :: rest) - 1 }

/-- Goes on in a list: `some` text that starts with an element, or the end of the list. -/
def nextElement (first : Bool) (text : List Char) : Except Fault (Bool × List Char) :=
  match skipBlanks text with
  | [] => .error { cause := .endInList, left := 0 }
  | ']' :: rest => .ok (false, rest)
  | c :: rest =>
    if first then .ok (true, c :: rest)
    else if c = ',' then
      match skipBlanks rest with
      | [] => .error { cause := .endInValue, left := 0 }
      | ']' :: after => .error { cause := .trailingComma, left := utf8Size (']' :: after) - 1 }
      | after => .ok (true, after)
    else .error { cause := .expectedListCommaOrEnd, left := utf8Size (c :: rest) - 1 }

def readColon (text : List Char) : Except Fault (List Char) :=
  match skipBlanks text with
  | [] => .error { cause := .endInObject, left := 0 }
  | ':' :: rest => .ok rest
  | after => .error { cause := .expectedColon, left := utf8Size after - 1 }

/-- Reads a key that must start here, and its colon. -/
def readKey (text : List Char) : Except Fault (String × List Char) :=
  match text with
  | '"' :: rest =>
    match readString rest with
    | .error fault => .error (fault.under .unnamed)
    | .ok (key, rest) =>
      match readColon rest with
      | .error fault => .error fault
      | .ok rest => .ok (.ofList key, rest)
  | _ => .error (Fault.under .unnamed { cause := .keyNotString, left := utf8Size text - 1 })

/-- Goes on in an object, to the key of a member or to the end of the object. -/
def nextMember (first : Bool) (text : List Char) : Except Fault (Option String × List Char) :=
  let fail (cause : Cause) (left : Nat) : Except Fault (Option String × List Char) :=
    .error (Fault.under .unnamed { cause, left })
  let key (text : List Char) : Except Fault (Option String × List Char) :=
    (readKey text).map fun (name, rest) => (some name, rest)
  match skipBlanks text with
  | [] => fail .endInObject 0
  | '}' :: rest => .ok (none, rest)
  | c :: rest =>
    if first then key (c :: rest)
    else if c = ',' then
      match skipBlanks rest with
      | [] => fail .endInValue 0
      | '}' :: after => fail .trailingComma (utf8Size ('}' :: after) - 1)
      | after => key after
    else fail .expectedObjectCommaOrEnd (utf8Size (c :: rest) - 1)

theorem readName_rest_suffix {name text rest : List Char} (ok : readName name text = .ok rest) :
    rest <:+ text := by
  fun_induction readName name text with
  | case1 text => simp only [Except.ok.injEq] at ok; exact ok ▸ List.suffix_refl _
  | case2 => simp at ok
  | case3 name text rest ih => exact (ih ok).trans (List.suffix_cons _ _)
  | case4 => simp at ok

theorem nextElement_rest_suffix {first more : Bool} {text rest : List Char}
    (ok : nextElement first text = .ok (more, rest)) : rest <:+ text := by
  have blanks : skipBlanks text <:+ text := List.dropWhile_suffix _
  simp only [nextElement] at ok
  split at ok
  · simp at ok
  · next tail same =>
    simp only [Except.ok.injEq, Prod.mk.injEq] at ok
    rw [← ok.2]; rw [same] at blanks
    exact (List.suffix_cons _ _).trans blanks
  · next c tail _ same =>
    rw [same] at blanks
    split at ok
    · simp only [Except.ok.injEq, Prod.mk.injEq] at ok
      rw [← ok.2]; exact blanks
    · split at ok
      · split at ok
        · simp at ok
        · simp at ok
        · simp only [Except.ok.injEq, Prod.mk.injEq] at ok
          rw [← ok.2]
          exact ((List.dropWhile_suffix _).trans (List.suffix_cons _ _)).trans blanks
      · simp at ok

theorem nextElement_end_shorter {first : Bool} {text rest : List Char}
    (ok : nextElement first text = .ok (false, rest)) : rest.length < text.length := by
  have blanks := length_skipBlanks_le text
  simp only [nextElement] at ok
  split at ok
  · simp at ok
  · next tail same =>
    simp only [Except.ok.injEq, Prod.mk.injEq, true_and] at ok
    rw [same, ok] at blanks
    simp only [List.length_cons] at blanks; omega
  · split at ok
    · simp at ok
    · split at ok
      · split at ok <;> simp at ok
      · simp at ok

theorem readKey_shorter {text rest : List Char} {key : String}
    (ok : readKey text = .ok (key, rest)) : rest.length < text.length := by
  unfold readKey at ok
  split at ok
  · next tail =>
    split at ok
    · simp at ok
    · next name left read =>
      have shorter := readString_shorter read
      split at ok
      · simp at ok
      · next after colon =>
        have blanks := length_skipBlanks_le left
        unfold readColon at colon
        split at colon
        · simp at colon
        · next same =>
          simp only [Except.ok.injEq] at colon
          simp only [Except.ok.injEq, Prod.mk.injEq] at ok
          rw [same, colon, ok.2] at blanks
          simp only [List.length_cons] at blanks ⊢; omega
        · simp at colon
  · simp at ok

theorem nextMember_shorter {first : Bool} {text rest : List Char} {key : Option String}
    (ok : nextMember first text = .ok (key, rest)) : rest.length < text.length := by
  have found {text : List Char}
      (ok : (readKey text).map (fun (name, rest) => (some name, rest)) = .ok (key, rest)) :
      rest.length < text.length := by
    cases read : readKey text with
    | error fault => simp [read, Except.map] at ok
    | ok pair =>
      simp only [read, Except.map, Except.ok.injEq, Prod.mk.injEq] at ok
      rw [← ok.2]
      exact readKey_shorter read
  have blanks := length_skipBlanks_le text
  simp only [nextMember] at ok
  split at ok
  · simp at ok
  · next tail same =>
    simp only [Except.ok.injEq, Prod.mk.injEq] at ok
    rw [same, ok.2] at blanks
    simp only [List.length_cons] at blanks; omega
  · next c tail _ same =>
    rw [same] at blanks
    split at ok
    · exact Nat.lt_of_lt_of_le (found ok) blanks
    · split at ok
      · have := length_skipBlanks_le tail
        split at ok
        · simp at ok
        · simp at ok
        · have := found ok
          simp only [List.length_cons] at blanks; omega
      · simp at ok

/-- A value with the text behind it. -/
structure Step (α : Type) (text : List Char) where
  value : α
  rest : List Char
  shorter : rest.length < text.length

mutual

/-- `depth` is one more than the number of levels that the value may have. -/
def readValue (depth : Nat) (text : List Char) : Except Fault (Step Json text) :=
  match start : skipBlanks text with
  | [] => .error { cause := .endInValue, left := 0 }
  | c :: rest =>
    have bound : rest.length < text.length := by
      have := length_skipBlanks_le text
      rw [start] at this; simp only [List.length_cons] at this; omega
    let name (rest : List Char) (value : Json) (spelling : List Char)
        (bound : rest.length < text.length) : Except Fault (Step Json text) :=
      match read : readName spelling rest with
      | .error fault => .error fault
      | .ok left =>
        .ok ⟨value, left, Nat.lt_of_le_of_lt (readName_rest_suffix read).length_le bound⟩
    if c = 'n' then name rest .null ['u', 'l', 'l'] bound
    else if c = 't' then name rest (.bool true) ['r', 'u', 'e'] bound
    else if c = 'f' then name rest (.bool false) ['a', 'l', 's', 'e'] bound
    else if c = '-' then
      match read : readNumber true rest with
      | .error fault => .error fault
      | .ok (n, left) => .ok ⟨.number n, left, Nat.lt_trans (readNumber_shorter read) bound⟩
    else if c.isDigit then
      match read : readNumber false (c :: rest) with
      | .error fault => .error fault
      | .ok (n, left) => .ok ⟨.number n, left, by
          have := readNumber_shorter read
          simp only [List.length_cons] at this; omega⟩
    else if c = '"' then
      match read : readString rest with
      | .error fault => .error fault
      | .ok (cs, left) =>
        .ok ⟨.string (.ofList cs), left, Nat.lt_trans (readString_shorter read) bound⟩
    else if c = '[' then
      if depth ≤ 1 then .error { cause := .tooDeep, left := utf8Size (c :: rest) - 1 }
      else
        match readElements (depth - 1) 0 rest with
        | .error fault => .error fault
        | .ok step => .ok ⟨.array step.value, step.rest, Nat.lt_trans step.shorter bound⟩
    else if c = '{' then
      if depth ≤ 1 then .error { cause := .tooDeep, left := utf8Size (c :: rest) - 1 }
      else
        match readMembers (depth - 1) true rest with
        | .error fault => .error fault
        | .ok step =>
          .ok ⟨.object (Members.ofList step.value), step.rest, Nat.lt_trans step.shorter bound⟩
    else .error { cause := .expectedValue, left := utf8Size (c :: rest) - 1 }
termination_by (text.length, 0)

/-- Reads a list from its element at `index` on. -/
def readElements (depth index : Nat) (text : List Char) : Except Fault (Step (List Json) text) :=
  match next : nextElement (index = 0) text with
  | .error fault => .error fault
  | .ok (false, rest) => .ok ⟨[], rest, nextElement_end_shorter next⟩
  | .ok (true, start) =>
    have bound : start.length ≤ text.length := (nextElement_rest_suffix next).length_le
    match readValue depth start with
    | .error fault => .error (fault.under (.index index))
    | .ok element =>
      match readElements depth (index + 1) element.rest with
      | .error fault => .error fault
      | .ok others => .ok ⟨element.value :: others.value, others.rest, by
          have := others.shorter; have := element.shorter; omega⟩
termination_by (text.length, 1)
decreasing_by
  · exact .right' _ bound (by omega)
  · have := element.shorter
    exact .left _ _ (by omega)

/-- Reads an object from one of its members on. -/
def readMembers (depth : Nat) (first : Bool) (text : List Char) :
    Except Fault (Step (List (String × Json)) text) :=
  match next : nextMember first text with
  | .error fault => .error fault
  | .ok (none, rest) => .ok ⟨[], rest, nextMember_shorter next⟩
  | .ok (some key, start) =>
    have bound : start.length < text.length := nextMember_shorter next
    match readValue depth start with
    | .error fault => .error (fault.under (.key key))
    | .ok value =>
      match readMembers depth false value.rest with
      | .error fault => .error fault
      | .ok others => .ok ⟨(key, value.value) :: others.value, others.rest, by
          have := others.shorter; have := value.shorter; omega⟩
termination_by (text.length, 1)
decreasing_by
  · exact .left _ _ bound
  · have := value.shorter
    exact .left _ _ (by omega)

end

/-- The first value of a text. -/
def readFirst (source : List Char) : Except ReadError (Step Json source) :=
  match readValue 128 source with
  | .ok step => .ok step
  | .error fault => .error (fault.locate source)

def read (source : String) : Except ReadError Json :=
  (readFirst source.toList).map (·.value)

def readValues (source : List Char) : Except ReadError (List Json) :=
  match start : source.dropWhile Unicode.isWhiteSpace with
  | [] => .ok []
  | c :: rest =>
    match readFirst (c :: rest) with
    | .error error => .error error
    | .ok step =>
      have : step.rest.length < source.length := by
        have := (List.dropWhile_suffix Unicode.isWhiteSpace (l := source)).length_le
        have := step.shorter
        rw [start] at *; omega
      (readValues step.rest).map (step.value :: ·)
termination_by source.length

def readAll (source : String) : Except ReadError (List Json) := readValues source.toList

end ShapeInference.Json
