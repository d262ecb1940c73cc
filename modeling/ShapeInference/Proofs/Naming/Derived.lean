import ShapeInference.Proofs.Naming

/-! Names made from names.

A name is derived once for a shape, and again where the shape is described and where its type is
listed, so deriving it again must not change it. A property name gives the type name back where the
head comes back from lower case. That holds for the letters of ASCII and for all that has no case,
but not for each character: the Kelvin sign comes back as the letter `K`.
-/

set_option autoImplicit false

namespace ShapeInference

variable {key : String} {c : Char}

/-- On the way through the property name, the head of a type name goes to lower case and back. -/
theorem typeName_propertyName_iff : typeName (propertyName key) = typeName key ↔
    ∀ c ∈ (typeName key).toList.head?, capitalize (Unicode.lower c) = [c] := by
  by_cases empty : typeName key = ""
  · rw [propertyName_of_eq_empty empty, empty]
    simp
  · obtain ⟨_, plain⟩ := lowerHead_typeName empty
    rw [← String.toList_inj, toList_typeName (propertyName key), toList_propertyName empty,
      typeNameChars_of_not_mem plain]
    cases chars : (typeName key).toList with
    | nil => exact absurd (String.toList_eq_nil_iff.1 chars) empty
    | cons c rest =>
      rw [lowerHead, capitalize_append (Unicode.lower_ne_nil c), ← List.singleton_append,
        List.append_left_inj]
      simp

/-- The Kelvin sign is in upper case, but it comes back from lower case as a letter of ASCII. -/
example : typeName "\u212a" = "\u212a" ∧ typeName (propertyName "\u212a") = "K" := by
  decide +kernel

theorem capitalize_lower (fixed : Unicode.upper c = [c])
    (known : c.isAlpha = true ∨ Unicode.Uncased c) : capitalize (Unicode.lower c) = [c] := by
  rcases known with letter | uncased
  · obtain ⟨lower, back⟩ := Unicode.lower_of_isUpper (Unicode.isUpper_of_isAlpha letter fixed)
    rw [lower, capitalize, back, List.append_nil]
  · rw [uncased.2, capitalize, fixed, List.append_nil]

/-- A type name is a word that is its own type name, and it joins the type names of the parts of a
key. The property name gives it back if its head is a letter of ASCII or has no case. -/
theorem typeName_laws (key other : String) :
    typeName (typeName key) = typeName key ∧
    '_' ∉ (typeName key).toList ∧
    typeName (key ++ "_" ++ other) = typeName key ++ typeName other ∧
    ((∀ c ∈ (typeName key).toList.head?, c.isAlpha = true ∨ Unicode.Uncased c) →
      typeName (propertyName key) = typeName key) := by
  refine ⟨typeName_typeName key, ?_, typeName_append key other, ?_⟩
  · rw [toList_typeName]
    exact underscore_not_mem_typeNameChars key.toList
  · intro known
    rw [typeName_propertyName_iff]
    intro c first
    have fixed : Unicode.upper c = [c] := by
      rw [toList_typeName] at first
      exact upper_of_head_typeNameChars first
    exact capitalize_lower fixed (known c first)

/-- A key whose type name starts with a letter of ASCII, and one that starts without case. -/
theorem typeName_laws_owner :
    (∀ c ∈ (typeName "owner_name").toList.head?, c.isAlpha = true ∨ Unicode.Uncased c) ∧
    (∀ c ∈ (typeName "_名_ßx").toList.head?, c.isAlpha = true ∨ Unicode.Uncased c) ∧
    typeName (propertyName "owner_name") = "OwnerName" ∧
    typeName (propertyName "_名_ßx") = "名SSx" := by
  have letter : ∀ c ∈ (typeName "owner_name").toList.head?,
      c.isAlpha = true ∨ Unicode.Uncased c := by
    have head : (typeName "owner_name").toList.head? = some 'O' := by decide +kernel
    rw [head]
    rintro _ ⟨⟩
    exact .inl rfl
  have uncased : ∀ c ∈ (typeName "_名_ßx").toList.head?,
      c.isAlpha = true ∨ Unicode.Uncased c := by
    have head : (typeName "_名_ßx").toList.head? = some '名' := by decide +kernel
    rw [head]
    rintro _ ⟨⟩
    exact .inr (by decide +kernel)
  refine ⟨letter, uncased, ?_, ?_⟩
  · rw [(typeName_laws "owner_name" "").2.2.2 letter]
    decide +kernel
  · rw [(typeName_laws "_名_ßx" "").2.2.2 uncased]
    decide +kernel

end ShapeInference
