import Mathlib.Data.List.Basic
import ShapeInference.Naming
import ShapeInference.Proofs.Unicode.CaseMapping

/-! Names made from keys.

A type name has no underscore, it is empty only for keys of underscores alone, and it is its own
type name. A property name forgets where words were joined by underscores, and whether the head of
the first word was in upper case. Keys that are all written in one style are told apart
nevertheless.
-/

set_option autoImplicit false

namespace ShapeInference

/-! Words. -/

namespace Text

variable {sep c : Char} {cs word : List Char}

theorem not_mem_of_mem_splitOn (member : word ∈ splitOn sep cs) : sep ∉ word := by
  induction cs generalizing word with
  | nil =>
    cases List.mem_singleton.1 member
    exact List.not_mem_nil
  | cons c rest ih =>
    unfold splitOn at member
    split at member
    · rcases List.mem_cons.1 member with same | later
      · subst same
        exact List.not_mem_nil
      · exact ih later
    · next other =>
      cases pieces : splitOn sep rest with
      | nil => exact absurd pieces (splitOn_ne_nil sep rest)
      | cons first more =>
        rw [pieces] at ih member
        rw [List.modifyHead_cons] at member
        rcases List.mem_cons.1 member with same | later
        · subst same
          intro inside
          rcases List.mem_cons.1 inside with same | inFirst
          · exact other same.symm
          · exact ih List.mem_cons_self inFirst
        · exact ih (List.mem_cons_of_mem _ later)

theorem splitOn_of_not_mem (none : sep ∉ cs) : splitOn sep cs = [cs] := by
  induction cs with
  | nil => rfl
  | cons c rest ih =>
    rw [List.mem_cons, not_or] at none
    rw [splitOn, if_neg (Ne.symm none.1), ih none.2, List.modifyHead_cons]

theorem splitOn_append_cons (sep : Char) (left right : List Char) :
    splitOn sep (left ++ sep :: right) = splitOn sep left ++ splitOn sep right := by
  induction left with
  | nil => simp [splitOn]
  | cons c rest ih =>
    rw [List.cons_append, splitOn, splitOn, ih]
    split
    · rfl
    · cases pieces : splitOn sep rest with
      | nil => exact absurd pieces (splitOn_ne_nil sep rest)
      | cons first more => rfl

theorem words_append_cons (sep : Char) (left right : List Char) :
    words sep (left ++ sep :: right) = words sep left ++ words sep right := by
  unfold words
  rw [splitOn_append_cons, List.filter_append]

theorem words_of_not_mem (none : sep ∉ cs) (some : cs ≠ []) : words sep cs = [cs] := by
  rw [words, splitOn_of_not_mem none]
  cases cs with
  | nil => exact absurd rfl some
  | cons c rest => rfl

theorem words_eq_nil_iff : words sep cs = [] ↔ ∀ c ∈ cs, c = sep := by
  induction cs with
  | nil => simp [words, splitOn]
  | cons c rest ih =>
    unfold words at ih ⊢
    rw [splitOn, List.forall_mem_cons, ← ih]
    by_cases same : c = sep
    · rw [if_pos same, List.filter_cons_of_neg (by simp)]
      simp [same]
    · rw [if_neg same]
      cases pieces : splitOn sep rest with
      | nil => exact absurd pieces (splitOn_ne_nil sep rest)
      | cons first more => simp [same]

theorem words_ne_nil (member : word ∈ words sep cs) : word ≠ [] := by
  have filled := (List.mem_filter.1 member).2
  rintro rfl
  cases filled

theorem not_mem_of_mem_words (member : word ∈ words sep cs) : sep ∉ word :=
  not_mem_of_mem_splitOn (List.mem_filter.1 member).1

end Text

/-! Type names. -/

theorem capitalize_ne_nil {word : List Char} (some : word ≠ []) : capitalize word ≠ [] := by
  cases word with
  | nil => exact absurd rfl some
  | cons c rest => simp [capitalize, Unicode.upper_ne_nil]

theorem capitalize_append {word : List Char} (some : word ≠ []) (tail : List Char) :
    capitalize (word ++ tail) = capitalize word ++ tail := by
  cases word with
  | nil => exact absurd rfl some
  | cons c rest => rw [List.cons_append, capitalize, capitalize, List.append_assoc]

theorem upper_of_head_capitalize {word : List Char} {c : Char}
    (first : c ∈ (capitalize word).head?) : Unicode.upper c = [c] := by
  cases word with
  | nil => cases first
  | cons d rest =>
    rw [capitalize, List.head?_append_of_ne_nil _ (Unicode.upper_ne_nil d)] at first
    exact Unicode.upper_of_mem_upper (List.mem_of_mem_head? first)

theorem underscore_not_mem_capitalize {word : List Char} (none : '_' ∉ word) :
    '_' ∉ capitalize word := by
  cases word with
  | nil => exact none
  | cons c rest =>
    rw [List.mem_cons, not_or] at none
    rw [capitalize, List.mem_append, not_or]
    exact ⟨Unicode.underscore_not_mem_upper (Ne.symm none.1), none.2⟩

theorem typeNameChars_eq_nil_iff {key : List Char} :
    typeNameChars key = [] ↔ ∀ c ∈ key, c = '_' := by
  rw [← Text.words_eq_nil_iff, typeNameChars, List.flatMap_eq_nil_iff]
  constructor
  · intro all
    apply List.eq_nil_iff_forall_not_mem.2
    intro word member
    exact capitalize_ne_nil (Text.words_ne_nil member) (all word member)
  · intro none word member
    rw [none] at member
    cases member

theorem underscore_not_mem_typeNameChars (key : List Char) : '_' ∉ typeNameChars key := by
  intro inside
  obtain ⟨word, member, inWord⟩ := List.mem_flatMap.1 inside
  exact underscore_not_mem_capitalize (Text.not_mem_of_mem_words member) inWord

theorem typeName_eq_empty_iff {key : String} : typeName key = "" ↔ ∀ c ∈ key.toList, c = '_' := by
  rw [← typeNameChars_eq_nil_iff, ← toList_typeName, String.toList_eq_nil_iff]

theorem upper_of_head_typeNameChars {key : List Char} {c : Char}
    (first : c ∈ (typeNameChars key).head?) : Unicode.upper c = [c] := by
  rw [typeNameChars] at first
  cases pieces : Text.words '_' key with
  | nil =>
    rw [pieces] at first
    cases first
  | cons word more =>
    have some : word ≠ [] := Text.words_ne_nil (by rw [pieces]; exact List.mem_cons_self)
    rw [pieces, List.flatMap_cons, List.head?_append_of_ne_nil _ (capitalize_ne_nil some)] at first
    exact upper_of_head_capitalize first

theorem typeNameChars_of_not_mem {cs : List Char} (none : '_' ∉ cs) :
    typeNameChars cs = capitalize cs := by
  cases cs with
  | nil => rfl
  | cons c rest =>
    rw [typeNameChars, Text.words_of_not_mem none (List.cons_ne_nil c rest), List.flatMap_singleton]

theorem typeNameChars_typeNameChars (key : List Char) :
    typeNameChars (typeNameChars key) = typeNameChars key := by
  rw [typeNameChars_of_not_mem (underscore_not_mem_typeNameChars key)]
  cases chars : typeNameChars key with
  | nil => rfl
  | cons c rest =>
    have first : c ∈ (typeNameChars key).head? := by
      rw [chars]
      exact rfl
    rw [capitalize, upper_of_head_typeNameChars first, List.singleton_append]

theorem typeName_typeName (key : String) : typeName (typeName key) = typeName key := by
  rw [← String.toList_inj, toList_typeName, toList_typeName, typeNameChars_typeNameChars]

theorem typeName_append (key other : String) :
    typeName (key ++ "_" ++ other) = typeName key ++ typeName other := by
  have joined : (key ++ "_" ++ other).toList = key.toList ++ '_' :: other.toList := by simp
  rw [← String.toList_inj, String.toList_append, toList_typeName, toList_typeName, toList_typeName,
    joined, typeNameChars, Text.words_append_cons, List.flatMap_append]
  rfl

/-! Property names. -/

def lowerHead : List Char → List Char
  | [] => []
  | c :: rest => Unicode.lower c ++ rest

theorem propertyName_of_eq_empty {key : String} (empty : typeName key = "") :
    propertyName key = key := by
  rw [← String.toList_eq_nil_iff, toList_typeName] at empty
  rw [propertyName, empty]

theorem toList_propertyName {key : String} (named : typeName key ≠ "") :
    (propertyName key).toList = lowerHead (typeName key).toList := by
  rw [toList_typeName]
  rw [Ne, ← String.toList_eq_nil_iff, toList_typeName] at named
  unfold propertyName
  cases chars : typeNameChars key.toList with
  | nil => exact absurd chars named
  | cons c rest => simp [lowerHead]

theorem lowerHead_typeName {key : String} (named : typeName key ≠ "") :
    lowerHead (typeName key).toList ≠ [] ∧ '_' ∉ lowerHead (typeName key).toList := by
  rw [Ne, ← String.toList_eq_nil_iff, toList_typeName] at named
  rw [toList_typeName]
  have plain := underscore_not_mem_typeNameChars key.toList
  cases chars : typeNameChars key.toList with
  | nil => exact absurd chars named
  | cons c rest =>
    rw [chars, List.mem_cons, not_or] at plain
    rw [lowerHead, List.mem_append, not_or]
    exact ⟨by simp [Unicode.lower_ne_nil],
      Unicode.underscore_not_mem_lower (Ne.symm plain.1), plain.2⟩

/-- The name of a key without a type name, which is made of underscores, is no name of another. -/
theorem propertyName_ne {key other : String} (empty : typeName key = "")
    (named : typeName other ≠ "") : propertyName key ≠ propertyName other := by
  intro same
  obtain ⟨some, plain⟩ := lowerHead_typeName named
  rw [propertyName_of_eq_empty empty] at same
  rw [← toList_propertyName named, ← same] at some plain
  rw [typeName_eq_empty_iff] at empty
  cases chars : key.toList with
  | nil => exact some chars
  | cons c rest =>
    have first : c = '_' := empty c (by simp [chars])
    apply plain
    simp [chars, first]

theorem propertyName_eq_iff {key other : String} : propertyName key = propertyName other ↔
    key = other ∨ typeName key ≠ "" ∧ typeName other ≠ "" ∧
      lowerHead (typeName key).toList = lowerHead (typeName other).toList := by
  by_cases empty : typeName key = ""
  · by_cases otherEmpty : typeName other = ""
    · rw [propertyName_of_eq_empty empty, propertyName_of_eq_empty otherEmpty]
      simp [empty]
    · have different := propertyName_ne empty otherEmpty
      constructor
      · intro same
        exact absurd same different
      · rintro (rfl | ⟨named, _⟩)
        · rfl
        · exact absurd empty named
  · by_cases otherEmpty : typeName other = ""
    · have different := (propertyName_ne otherEmpty empty).symm
      constructor
      · intro same
        exact absurd same different
      · rintro (rfl | ⟨_, named, _⟩)
        · rfl
        · exact absurd otherEmpty named
    · rw [← String.toList_inj, toList_propertyName empty, toList_propertyName otherEmpty]
      constructor
      · intro same
        exact .inr ⟨empty, otherEmpty, same⟩
      · rintro (rfl | ⟨_, _, same⟩)
        · rfl
        · exact same

/-! Styles of keys. -/

def SmallWord : List Char → Prop
  | [] => False
  | c :: rest => c.isLower = true ∧ ∀ d ∈ rest, d.isUpper = false

-- The last condition is checked on the word, and not on all characters there are.
instance : DecidablePred SmallWord
  | [] => .isFalse id
  | _ :: rest => @instDecidableAnd _ _ _ (List.decidableBAll _ rest)

def SnakeCase (key : String) : Prop := ∀ word ∈ Text.splitOn '_' key.toList, SmallWord word

/-- There is no underscore, and the first character is one of the letters `a` to `z`. -/
def CamelCase (key : String) : Prop :=
  key.toList.head?.any Char.isLower = true ∧ '_' ∉ key.toList

instance (key : String) : Decidable (SnakeCase key) :=
  inferInstanceAs (Decidable (∀ word ∈ Text.splitOn '_' key.toList, SmallWord word))

instance (key : String) : Decidable (CamelCase key) :=
  inferInstanceAs (Decidable (key.toList.head?.any Char.isLower = true ∧ '_' ∉ key.toList))

def snakeSpelling (name : List Char) : List Char :=
  name.flatMap fun c => if c.isUpper then ['_', c.toLower] else [c]

theorem snakeSpelling_append (left right : List Char) :
    snakeSpelling (left ++ right) = snakeSpelling left ++ snakeSpelling right :=
  List.flatMap_append

theorem snakeSpelling_eq_self {cs : List Char} (plain : ∀ c ∈ cs, c.isUpper = false) :
    snakeSpelling cs = cs := by
  induction cs with
  | nil => rfl
  | cons c rest ih =>
    obtain ⟨first, later⟩ := List.forall_mem_cons.1 plain
    have tail := ih later
    unfold snakeSpelling at tail ⊢
    rw [List.flatMap_cons, first, tail]
    rfl

theorem snakeSpelling_capitalize {c : Char} {rest : List Char} (small : c.isLower = true)
    (plain : ∀ d ∈ rest, d.isUpper = false) :
    snakeSpelling (capitalize (c :: rest)) = '_' :: c :: rest := by
  obtain ⟨upper, capital, back, _⟩ := Unicode.upper_of_isLower small
  rw [capitalize, upper, snakeSpelling_append, snakeSpelling_eq_self plain]
  simp [snakeSpelling, capital, back]

theorem snakeSpelling_words {words : List (List Char)} (small : ∀ word ∈ words, SmallWord word) :
    snakeSpelling (words.flatMap capitalize) = words.flatMap ('_' :: ·) := by
  induction words with
  | nil => rfl
  | cons word more ih =>
    obtain ⟨first, later⟩ := List.forall_mem_cons.1 small
    rw [List.flatMap_cons, snakeSpelling_append, ih later, List.flatMap_cons]
    cases word with
    | nil => cases first
    | cons c rest => rw [snakeSpelling_capitalize first.1 first.2]

theorem cons_flatMap_eq_intercalate (first : List Char) (words : List (List Char)) :
    first ++ words.flatMap ('_' :: ·) = ['_'].intercalate (first :: words) := by
  induction words generalizing first with
  | nil => simp [List.intercalate]
  | cons word more ih =>
    rw [List.flatMap_cons, List.intercalate_cons_cons, ← ih word]
    simp

theorem SnakeCase.snakeSpelling_propertyName {key : String} (snake : SnakeCase key) :
    snakeSpelling (propertyName key).toList = key.toList := by
  have whole : Text.words '_' key.toList = Text.splitOn '_' key.toList := by
    apply List.filter_eq_self.2
    intro word member
    cases word with
    | nil => cases snake [] member
    | cons c rest => rfl
  have joined := Text.intercalate_splitOn '_' key.toList
  unfold SnakeCase at snake
  cases pieces : Text.splitOn '_' key.toList with
  | nil => exact absurd pieces (Text.splitOn_ne_nil _ _)
  | cons word more =>
    rw [pieces] at snake whole joined
    obtain ⟨first, later⟩ := List.forall_mem_cons.1 snake
    cases word with
    | nil => cases first
    | cons c rest =>
      obtain ⟨small, plain⟩ := first
      obtain ⟨upper, _, _, lower⟩ := Unicode.upper_of_isLower small
      have chars : typeNameChars key.toList =
          c.toUpper :: (rest ++ more.flatMap capitalize) := by
        rw [typeNameChars, whole, List.flatMap_cons, capitalize, upper, List.append_assoc]
        rfl
      have spelled : (propertyName key).toList = (c :: rest) ++ more.flatMap capitalize := by
        rw [propertyName, chars]
        simp [lower]
      have noCapital : ∀ d ∈ c :: rest, d.isUpper = false :=
        List.forall_mem_cons.2 ⟨Unicode.isUpper_of_isLower small, plain⟩
      rw [spelled, snakeSpelling_append, snakeSpelling_eq_self noCapital,
        snakeSpelling_words later, cons_flatMap_eq_intercalate, joined]

theorem CamelCase.propertyName_eq {key : String} (camel : CamelCase key) :
    propertyName key = key := by
  obtain ⟨head, plain⟩ := camel
  obtain ⟨c, first, small⟩ := (Option.any_eq_true _ _).1 head
  obtain ⟨upper, _, _, lower⟩ := Unicode.upper_of_isLower small
  cases chars : key.toList with
  | nil => rw [chars] at first; cases first
  | cons d rest =>
    rw [chars] at first
    cases Option.mem_some.1 first
    have name : typeNameChars key.toList = c.toUpper :: rest := by
      rw [typeNameChars_of_not_mem plain, chars, capitalize, upper, List.singleton_append]
    rw [← String.toList_inj, propertyName, name, chars]
    simp [lower]

/-- Keys of two styles can have one name. -/
example : SnakeCase "created_on" ∧ CamelCase "createdOn" ∧
    propertyName "created_on" = propertyName "createdOn" := by decide

end ShapeInference
