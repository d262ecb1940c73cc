import ShapeInference.Filter.Transform
import ShapeInference.Proofs.Json.Rereading

/-! The identity filter keeps the shape of a document.

A value of the filters is written like the document that it was made from. So the output of the
identity is the text of the document, and this is read with the same shape.
-/

set_option autoImplicit false

namespace ShapeInference.Filter

theorem chars_ofNumber (n : Json.Number) : (Numeral.ofNumber n).chars = n.chars := by
  cases n with
  | integer value =>
    rw [Numeral.ofNumber]
    split <;> rfl
  | double value => rfl

mutual

theorem chars_ofJson (x : Json) : (Value.ofJson x).chars = Json.compactChars x := by
  match x with
  | .null => rfl
  | .bool true => rfl
  | .bool false => rfl
  | .number n => rw [Value.ofJson, Value.chars, Json.compactChars, chars_ofNumber]
  | .string text => rfl
  | .array [] => rfl
  | .array (x :: rest) =>
    rw [Value.ofJson, Value.elementsOfJson, Value.chars, Json.compactChars, chars_ofJson x,
      elementsChars_ofJson rest]
  | .object [] => rfl
  | .object ((key, x) :: rest) =>
    rw [Value.ofJson, Value.membersOfJson, Value.chars, Json.compactChars, chars_ofJson x,
      membersChars_ofJson rest]

theorem elementsChars_ofJson (xs : List Json) :
    Value.elementsChars (Value.elementsOfJson xs) = Json.compactElements xs := by
  match xs with
  | [] => rfl
  | x :: rest =>
    rw [Value.elementsOfJson, Value.elementsChars, Json.compactElements, chars_ofJson x,
      elementsChars_ofJson rest]

theorem membersChars_ofJson (xs : List (String × Json)) :
    Value.membersChars (Value.membersOfJson xs) = Json.compactMembers xs := by
  match xs with
  | [] => rfl
  | (key, x) :: rest =>
    rw [Value.membersOfJson, Value.membersChars, Json.compactMembers, chars_ofJson x,
      membersChars_ofJson rest]

end

theorem parse?_identity : parse? "." = some .input := by
  have tokens : tokens? ".".toList = some [.symbol "."] := by decide +kernel
  have term : parseTerm [.symbol "."] = some (.input, ⟨[], Nat.one_pos⟩) := by
    simp [parseTerm, parseAtom, dropMarks, parseParts]
  have whole : parseFrom 0 true [.symbol "."] = some (.input, ⟨[], Nat.one_pos⟩) := by
    simp [parseFrom, term, parseMore]
  rw [parse?, tokens]
  dsimp only
  rw [whole]

theorem transform_identity (document : Json) : transform "." document =
    match Json.read (.ofList (Json.compactChars document)) with
    | .error error => .error (.notJson (.ofList (Json.compactChars document)) error)
    | .ok output => .ok [output] := by
  rw [← chars_ofJson, transform, parse?_identity]
  show documents [some (Value.ofJson document)] = _
  rw [documents]
  cases Json.read (.ofList (Value.ofJson document).chars) <;> rfl

/-- The identity filter has one output for every document that is read, of the same shape. -/
theorem identity_keeps_shape {source : String} {document : Json}
    (ok : Json.read source = .ok document) : ∃ output, transform "." document = .ok [output] ∧
      ∀ name, Shape.ofJson name output = Shape.ofJson name document := by
  obtain ⟨output, found, same⟩ := (Json.legible_of_read ok).exists_read
  refine ⟨output, ?_, same⟩
  rw [transform_identity, found]

theorem identity_keeps_shape_largest :
    Json.read "18446744073709551615" = .ok (.number (.integer 18446744073709551615)) ∧
      ∃ output, transform "." (.number (.integer 18446744073709551615)) = .ok [output] ∧
        ∀ name, Shape.ofJson name output = .number .int := by
  have digits : Json.readNumber false "18446744073709551615".toList =
      .ok (.integer 18446744073709551615, []) := by decide
  have read : Json.read "18446744073709551615" = .ok (.number (.integer 18446744073709551615)) := by
    obtain ⟨step, found, value, _⟩ :=
      Json.readout_map_ok.1 (@Json.readValue_digits 128 _ _ _ digits)
    exact map_eq_ok.2 ⟨step, Json.readFirst_eq_ok.2 found, value⟩
  exact ⟨read, identity_keeps_shape read⟩

end ShapeInference.Filter
