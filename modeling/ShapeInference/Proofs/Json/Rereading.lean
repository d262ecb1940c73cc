import ShapeInference.Proofs.Json.DoubleText
import ShapeInference.Proofs.Json.Legible
import ShapeInference.Proofs.Json.Stream
import ShapeInference.Proofs.Json.Strings
import ShapeInference.Shape.Seed

/-! A legible value is read again from its text.

What is read has the same shape, with the same keys and strings and with numbers of the same kind.
Only a double may change, as reading it may round. The text behind a value does not matter, as long
as it does not go on with a number.
-/

set_option autoImplicit false

namespace ShapeInference.Json

section
variable {depth index : Nat} {c : Char} {text more left rest : List Char} {x y : Json}

theorem skipBlanks_of_not_blank (visible : isBlank c = false) (more : List Char) :
    skipBlanks (c :: more) = c :: more := by
  rw [skipBlanks, List.dropWhile_cons, visible]
  rfl

/-! Numbers. -/

theorem exists_digit_of_readNumber {negative : Bool} {value : Number}
    (ok : readNumber negative text = .ok (value, rest)) :
    ∃ c more, text = c :: more ∧ c.isDigit = true := by
  cases text with
  | nil => cases ok
  | cons c more =>
    refine ⟨c, more, rfl, ?_⟩
    rw [readNumber] at ok
    split at ok
    · next zero => exact zero ▸ rfl
    · split at ok
      · next digit => exact digit
      · cases ok

theorem isBlank_of_isDigit (digit : c.isDigit = true) : isBlank c = false := by
  cases blank : isBlank c with
  | false => rfl
  | true =>
    simp only [isBlank, Bool.or_eq_true, decide_eq_true_eq] at blank
    obtain ((rfl | rfl) | rfl) | rfl := blank <;> exact absurd digit (by decide)

theorem readValue_digits {value : Number} (ok : readNumber false text = .ok (value, rest)) :
    (readValue depth text).map Step.readout = .ok (.number value, rest) := by
  obtain ⟨c, more, rfl, digit⟩ := exists_digit_of_readNumber ok
  have other {d : Char} (letter : d.isDigit = false) : c ≠ d := by
    rintro rfl
    exact absurd digit (by rw [letter]; decide)
  rw [readValue_cons (skipBlanks_of_not_blank (isBlank_of_isDigit digit) more), if_neg (other rfl),
    if_neg (other rfl), if_neg (other rfl), if_neg (other rfl), if_pos digit, ok]
  rfl

theorem readValue_minus {value : Number} (ok : readNumber true text = .ok (value, rest)) :
    (readValue depth ('-' :: text)).map Step.readout = .ok (.number value, rest) := by
  rw [readValue_cons (skipBlanks_of_not_blank rfl text), if_neg (by decide), if_neg (by decide),
    if_neg (by decide), if_pos rfl, ok]
  rfl

theorem Number.Legible.exists_read {n : Number} (h : n.Legible) : ∃ negative text value,
    n.chars = (if negative then '-' :: text else text) ∧
      readNumber negative text = .ok (value, []) ∧ value.kind = n.kind := by
  cases h with
  | @natural n fits =>
    exact ⟨false, Nat.toDigits 10 n, .integer n, toList_toString_natCast n,
      readNumber_natCast fits, rfl⟩
  | @negated n positive fits =>
    exact ⟨true, Nat.toDigits 10 n, .integer (-n), toList_toString_neg positive,
      readNumber_neg positive fits, rfl⟩
  | @double x finite =>
    obtain ⟨magnitude, read⟩ := exists_readNumber_shortest finite x.negative
    refine ⟨x.negative, _, .double ⟨x.negative, magnitude⟩, ?_, read, rfl⟩
    show ((if x.negative then "-" else "") ++ x.magnitude.shortest.text).toList = _
    rw [String.toList_append]
    cases x.negative <;> rfl

/-! What a text starts with. -/

/-- The text of a value starts neither with a blank nor like the end of a list. -/
theorem Legible.exists_start (h : Legible depth x) :
    ∃ c more, compactChars x = c :: more ∧ isBlank c = false ∧ c ≠ ']' := by
  cases h with
  | null => exact ⟨_, _, rfl, by decide⟩
  | bool _ value => cases value <;> exact ⟨_, _, rfl, by decide⟩
  | number _ legible =>
    obtain ⟨negative, text, value, same, read, _⟩ := legible.exists_read
    obtain ⟨c, more, rfl, digit⟩ := exists_digit_of_readNumber read
    rw [compactChars, same]
    cases negative with
    | true => exact ⟨_, _, rfl, by decide⟩
    | false =>
      refine ⟨c, more, rfl, isBlank_of_isDigit digit, ?_⟩
      rintro rfl
      exact absurd digit (by decide)
  | string => exact ⟨_, _, rfl, by decide⟩
  | @array _ elements _ =>
    cases elements with
    | nil => exact ⟨_, _, rfl, by decide⟩
    | cons => exact ⟨'[', _, by rw [compactChars], by decide⟩
  | @object _ members _ _ =>
    cases members with
    | nil => exact ⟨_, _, rfl, by decide⟩
    | cons => exact ⟨'{', _, by rw [compactChars], by decide⟩

theorem Legible.nextElement_first (h : Legible depth x) (rest : List Char) :
    nextElement true (compactChars x ++ rest) = .ok (true, compactChars x ++ rest) := by
  obtain ⟨c, more, same, visible, other⟩ := h.exists_start
  rw [same, List.cons_append, nextElement_cons true (skipBlanks_of_not_blank visible _),
    if_neg other, if_pos rfl]

theorem Legible.nextElement_comma (h : Legible depth x) (rest : List Char) :
    nextElement false (',' :: (compactChars x ++ rest)) = .ok (true, compactChars x ++ rest) := by
  obtain ⟨c, more, same, visible, other⟩ := h.exists_start
  rw [same, List.cons_append, nextElement_cons false (skipBlanks_of_not_blank rfl _),
    if_neg (by decide), if_neg (by decide), if_pos rfl, skipBlanks_of_not_blank visible]
  exact if_neg other

theorem readKey_stringChars (key : String) (rest : List Char) :
    ∃ body, stringChars key ++ ':' :: rest = '"' :: body ∧
      readKey ('"' :: body) = .ok (key, rest) := by
  obtain ⟨body, same, read⟩ := readString_stringChars key (':' :: rest)
  refine ⟨body, same, ?_⟩
  rw [readKey, read]
  show Except.ok (String.ofList key.toList, rest) = _
  rw [String.ofList_toList]

theorem nextMember_first (key : String) (rest : List Char) :
    nextMember true (stringChars key ++ ':' :: rest) = .ok (some key, rest) := by
  obtain ⟨body, same, read⟩ := readKey_stringChars key rest
  rw [same, nextMember_cons true (skipBlanks_of_not_blank rfl body), if_neg (by decide),
    if_pos rfl, read]
  rfl

theorem nextMember_comma (key : String) (rest : List Char) :
    nextMember false (',' :: (stringChars key ++ ':' :: rest)) = .ok (some key, rest) := by
  obtain ⟨body, same, read⟩ := readKey_stringChars key rest
  rw [same, nextMember_cons false (skipBlanks_of_not_blank rfl _), if_neg (by decide),
    if_neg (by decide), if_pos rfl, skipBlanks_of_not_blank rfl]
  dsimp only
  rw [if_neg (by decide), read]
  rfl

/-! Lists and objects, from what is read inside them. -/

theorem readElements_step {ys : List Json}
    (next : nextElement (index = 0) text = .ok (true, more))
    (value : (readValue depth more).map Step.readout = .ok (y, left))
    (others : (readElements depth (index + 1) left).map Step.readout = .ok (ys, rest)) :
    (readElements depth index text).map Step.readout = .ok (y :: ys, rest) := by
  rw [readElements_eq, next, Except.bind, if_pos rfl, value]
  show ((readElements depth (index + 1) left).map Step.readout).map _ = _
  rw [others]
  rfl

theorem readMembers_step {first : Bool} {key : String} {ys : Members Json}
    (next : nextMember first text = .ok (some key, more))
    (value : (readValue depth more).map Step.readout = .ok (y, left))
    (others : (readMembers depth false left).map Step.readout = .ok (ys, rest)) :
    (readMembers depth first text).map Step.readout = .ok ((key, y) :: ys, rest) := by
  rw [readMembers_eq, next, Except.bind]
  dsimp only
  rw [value]
  show ((readMembers depth false left).map Step.readout).map _ = _
  rw [others]
  rfl

theorem readValue_bracket {ys : List Json}
    (inside : (readElements (depth + 1) 0 text).map Step.readout = .ok (ys, rest)) :
    (readValue (depth + 2) ('[' :: text)).map Step.readout = .ok (.array ys, rest) := by
  have deep : ¬ depth + 2 ≤ 1 := by omega
  rw [readValue_cons (skipBlanks_of_not_blank rfl text), if_neg (by decide), if_neg (by decide),
    if_neg (by decide), if_neg (by decide), if_neg (by decide), if_neg (by decide), if_pos rfl,
    if_neg deep]
  show ((readElements (depth + 1) 0 text).map Step.readout).map _ = _
  rw [inside]
  rfl

theorem readValue_brace {ys : Members Json}
    (inside : (readMembers (depth + 1) true text).map Step.readout = .ok (ys, rest)) :
    (readValue (depth + 2) ('{' :: text)).map Step.readout =
      .ok (.object (Members.ofList ys), rest) := by
  have deep : ¬ depth + 2 ≤ 1 := by omega
  rw [readValue_cons (skipBlanks_of_not_blank rfl text), if_neg (by decide), if_neg (by decide),
    if_neg (by decide), if_neg (by decide), if_neg (by decide), if_neg (by decide), if_neg (by decide),
    if_pos rfl, if_neg deep]
  show ((readMembers (depth + 1) true text).map Step.readout).map _ = _
  rw [inside]
  rfl

end

/-! The whole text. -/

/-- Wherever its text stands, a value of the same shape is read from it. -/
def Reread (depth : Nat) (x : Json) : Prop :=
  ∀ rest, StopsAt continuesNumber rest → ∃ y,
    (readValue depth (compactChars x ++ rest)).map Step.readout = .ok (y, rest) ∧
      ∀ name, Shape.ofJson name y = Shape.ofJson name x

section
variable {depth : Nat} {x : Json}

theorem stopsAt_compactElements (xs : List Json) (rest : List Char) :
    StopsAt continuesNumber (compactElements xs ++ rest) := by
  cases xs with
  | nil => exact stopsAt_cons rfl _
  | cons x xs =>
    rw [compactElements]
    exact stopsAt_cons rfl _

theorem stopsAt_compactMembers (members : Members Json) (rest : List Char) :
    StopsAt continuesNumber (compactMembers members ++ rest) := by
  cases members with
  | nil => exact stopsAt_cons rfl _
  | cons member members =>
    rw [compactMembers]
    exact stopsAt_cons rfl _

theorem exists_readElements {xs : List Json} (legible : ∀ x ∈ xs, Legible depth x)
    (each : ∀ x ∈ xs, Reread depth x) (index : Nat) (rest : List Char) : ∃ ys,
    (readElements depth (index + 1) (compactElements xs ++ rest)).map Step.readout = .ok (ys, rest) ∧
      ∀ name, ys.map (Shape.ofJson name) = xs.map (Shape.ofJson name) := by
  induction xs generalizing index with
  | nil =>
    refine ⟨[], ?_, fun _ => rfl⟩
    rw [readElements_eq]
    rfl
  | cons x xs ih =>
    rw [List.forall_mem_cons] at legible each
    obtain ⟨y, read, same⟩ := each.1 _ (stopsAt_compactElements xs rest)
    obtain ⟨ys, others, same'⟩ := ih legible.2 each.2 (index + 1)
    refine ⟨y :: ys, ?_, fun name => ?_⟩
    · rw [compactElements, List.cons_append, List.append_assoc]
      exact readElements_step (legible.1.nextElement_comma _) read others
    · rw [List.map_cons, List.map_cons, same, same']

theorem exists_readMembers {xs : Members Json} (each : ∀ member ∈ xs, Reread depth member.2)
    (rest : List Char) : ∃ ys : Members Json,
    (readMembers depth false (compactMembers xs ++ rest)).map Step.readout = .ok (ys, rest) ∧
      Shape.fieldsOfJson ys = Shape.fieldsOfJson xs := by
  induction xs with
  | nil =>
    refine ⟨[], ?_, rfl⟩
    rw [readMembers_eq]
    rfl
  | cons member xs ih =>
    obtain ⟨key, x⟩ := member
    rw [List.forall_mem_cons] at each
    obtain ⟨y, read, same⟩ := each.1 _ (stopsAt_compactMembers xs rest)
    obtain ⟨ys, others, same'⟩ := ih each.2
    refine ⟨(key, y) :: ys, ?_, ?_⟩
    · rw [compactMembers, List.cons_append, List.append_assoc, List.cons_append, List.append_assoc]
      exact readMembers_step (nextMember_comma key _) read others
    · rw [Shape.fieldsOfJson, Shape.fieldsOfJson, same, same']

theorem Reread.number {n : Number} (legible : n.Legible) : Reread depth (.number n) := by
  intro rest stops
  obtain ⟨negative, text, value, same, read, kind⟩ := legible.exists_read
  have alone : (readValue depth n.chars).map Step.readout = .ok (.number value, []) := by
    rw [same]
    cases negative with
    | true => exact readValue_minus read
    | false => exact readValue_digits read
  refine ⟨.number value, ?_, fun name => ?_⟩
  · exact readValue_followed depth n.chars _ [] alone fun _ => stops
  · rw [Shape.ofJson, Shape.ofJson, kind]

theorem Reread.string (value : String) : Reread depth (.string value) := by
  intro rest _
  obtain ⟨body, same, read⟩ := readString_stringChars value rest
  refine ⟨.string value, ?_, fun _ => rfl⟩
  rw [compactChars, same, readValue_cons (skipBlanks_of_not_blank rfl body)]
  show (readString body).map _ = _
  rw [read]
  show Except.ok (Json.string (.ofList value.toList), rest) = _
  rw [String.ofList_toList]

theorem Reread.array {elements : List Json}
    (legible : ∀ element ∈ elements, Legible (depth + 1) element)
    (each : ∀ element ∈ elements, Reread (depth + 1) element) :
    Reread (depth + 2) (.array elements) := by
  intro rest _
  cases elements with
  | nil =>
    refine ⟨.array [], readValue_bracket ?_, fun _ => rfl⟩
    rw [readElements_eq]
    rfl
  | cons x xs =>
    rw [List.forall_mem_cons] at legible each
    obtain ⟨y, read, same⟩ := each.1 _ (stopsAt_compactElements xs rest)
    obtain ⟨ys, others, same'⟩ := exists_readElements legible.2 each.2 0 rest
    refine ⟨.array (y :: ys), ?_, fun name => ?_⟩
    · rw [compactChars, List.cons_append, List.append_assoc]
      exact readValue_bracket (readElements_step (legible.1.nextElement_first _) read others)
    · simp only [Shape.ofJson, Shape.valuesOfJson_eq_map, List.map_cons, same, same']

theorem Reread.object {members : Members Json} (distinct : members.keys.Nodup)
    (each : ∀ member ∈ members, Reread (depth + 1) member.2) :
    Reread (depth + 2) (.object members) := by
  intro rest _
  cases members with
  | nil =>
    refine ⟨.object [], @readValue_brace _ _ _ [] ?_, fun _ => rfl⟩
    rw [readMembers_eq]
    rfl
  | cons member xs =>
    obtain ⟨key, x⟩ := member
    rw [List.forall_mem_cons] at each
    obtain ⟨y, read, same⟩ := each.1 _ (stopsAt_compactMembers xs rest)
    obtain ⟨ys, others, same'⟩ := exists_readMembers each.2 rest
    have fields : Shape.fieldsOfJson ((key, y) :: ys) = Shape.fieldsOfJson ((key, x) :: xs) := by
      rw [Shape.fieldsOfJson, Shape.fieldsOfJson, same, same']
    have keys : Members.keys ((key, y) :: ys) = Members.keys ((key, x) :: xs) := by
      rw [Shape.fieldsOfJson_eq_map, Shape.fieldsOfJson_eq_map] at fields
      rw [← Members.keys_map (fun key => Shape.ofJson key), fields,
        Members.keys_map (fun key => Shape.ofJson key)]
    refine ⟨.object ((key, y) :: ys), ?_, fun name => ?_⟩
    · rw [compactChars, List.cons_append, List.append_assoc, List.cons_append, List.append_assoc]
      rw [readValue_brace (readMembers_step (nextMember_first key _) read others),
        Members.ofList_of_nodup (keys ▸ distinct)]
    · rw [Shape.ofJson, Shape.ofJson, fields]

theorem Legible.reread (h : Legible depth x) : Reread depth x := by
  induction h with
  | null =>
    intro rest _
    refine ⟨.null, ?_, fun _ => rfl⟩
    rw [compactChars]
    exact (readValue_cons (skipBlanks_of_not_blank rfl _)).trans rfl
  | bool _ value =>
    intro rest _
    refine ⟨.bool value, ?_, fun _ => rfl⟩
    cases value <;>
    · rw [compactChars]
      exact (readValue_cons (skipBlanks_of_not_blank rfl _)).trans rfl
  | number _ legible => exact .number legible
  | string _ value => exact .string value
  | array legible each => exact .array legible each
  | object distinct _ each => exact .object distinct each

end

theorem legible_of_read {source : String} {document : Json} (ok : read source = .ok document) :
    Legible 128 document := by
  obtain ⟨step, found, rfl⟩ := map_eq_ok.1 ok
  exact (readValue_finds 128 source.toList).of_ok (readFirst_readout found)

/-- A document that was read is read from its own text with the same shape. -/
theorem Legible.exists_read {document : Json} (h : Legible 128 document) : ∃ output,
    read (.ofList (compactChars document)) = .ok output ∧
      ∀ name, Shape.ofJson name output = Shape.ofJson name document := by
  obtain ⟨output, found, same⟩ := h.reread [] (stopsAt_nil _)
  rw [List.append_nil] at found
  obtain ⟨step, first, rfl, _⟩ := readout_map_ok.1 found
  refine ⟨step.value, map_eq_ok.2 ?_, same⟩
  rw [String.toList_ofList]
  exact ⟨step, readFirst_eq_ok.2 first, rfl⟩

end ShapeInference.Json
