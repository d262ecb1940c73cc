import ShapeInference.Proofs.Documents.Seed

/-! Documents conform to the shape that they are merged into.

Merging never narrows: what conforms to one of two shapes conforms to the merged shape. For this no
induction on documents is needed, as the documents are arbitrary at every step of a merge.
-/

set_option autoImplicit false

namespace ShapeInference

/-- What a shape allows. Nothing conforms to the empty shape. -/
inductive Conforms : Json → Shape → Prop where
  | null {t : Shape} : t.isOptional = true → Conforms .null t
  | optional {v : Json} {t : Shape} : v ≠ .null → Conforms v t → Conforms v (.optional t)
  | bool (value sample : Bool) : Conforms (.bool value) (.bool sample)
  | integer (value : Int) (kind : NumberKind) :
      Conforms (.number (.integer value)) (.number kind)
  | double (value : Binary64) : Conforms (.number (.double value)) (.number .double)
  | string (value sample : String) : Conforms (.string value) (.text sample)
  | array {elements : List Json} {name : String} {values : List Shape} (pick : Json → Shape) :
      (∀ element ∈ elements, pick element ∈ values) →
      (∀ element ∈ elements, Conforms element (pick element)) →
      Conforms (.array elements) (.array name values)
  | object {members : Members Json} {name : String} {fields : Fields} :
      (∀ key ∈ members.keys, key ∈ Members.keys fields) →
      (∀ key v t, members.lookup key = some v → fields.lookup key = some t → Conforms v t) →
      (∀ key t, fields.lookup key = some t → t.isOptional = false → key ∈ members.keys) →
      Conforms (.object members) (.object name fields)

namespace Conforms

open Shape (absent bare entry entry_of_lookup ofJson ofJson_array ofJson_object reduce reduce_eq_ok
  seeds)

section
variable {v : Json} {t : Shape}

theorem null_iff : Conforms .null t ↔ t.isOptional = true := by
  constructor
  · intro h
    cases h with
    | null opt => exact opt
    | optional seen => exact absurd rfl seen
  · exact .null

theorem bare_iff (seen : v ≠ .null) : Conforms v t.bare ↔ Conforms v t := by
  induction t with
  | absent =>
    refine iff_of_false (fun h => ?_) fun h => ?_ <;> cases h <;> exact seen rfl
  | optional inner ih =>
    rw [bare, ih]
    constructor
    · exact .optional seen
    · intro h
      cases h with
      | null => exact absurd rfl seen
      | optional _ inside => exact inside
  | _ => rfl

theorem orAbsent (h : Conforms v t) : Conforms v t.orAbsent := by
  by_cases none : v = .null
  · subst none
    exact .null (Shape.isOptional_orAbsent t)
  · rw [← bare_iff none, Shape.bare_orAbsent, bare_iff none]
    exact h

theorem orAbsent_of_bare {s : Shape} (h : Conforms v s)
    (widens : Conforms v s.bare → Conforms v t) : Conforms v t.orAbsent := by
  by_cases none : v = .null
  · subst none
    exact .null (Shape.isOptional_orAbsent t)
  · exact (widens ((bare_iff none).2 h)).orAbsent

theorem eq_array {name : String} {values : List Shape} (h : Conforms v (.array name values)) :
    ∃ elements, v = .array elements := by
  cases h with
  | null opt => cases opt
  | @array elements => exact ⟨elements, rfl⟩

theorem eq_object {name : String} {fields : Fields} (h : Conforms v (.object name fields)) :
    ∃ members, v = .object members := by
  cases h with
  | null opt => cases opt
  | @object members => exact ⟨members, rfl⟩

theorem array_iff {elements : List Json} {name : String} {values : List Shape} :
    Conforms (.array elements) (.array name values) ↔
      ∀ element ∈ elements, ∃ value ∈ values, Conforms element value := by
  constructor
  · intro h element member
    cases h with
    | array pick inside conform =>
      exact ⟨pick element, inside element member, conform element member⟩
  · intro h
    -- Elements beyond the array are free to take any value.
    have choice : ∀ element, ∃ value, element ∈ elements →
        value ∈ values ∧ Conforms element value := by
      intro element
      by_cases member : element ∈ elements
      · obtain ⟨value, inside, conforms⟩ := h element member
        exact ⟨value, fun _ => ⟨inside, conforms⟩⟩
      · exact ⟨.empty, fun inside => absurd inside member⟩
    obtain ⟨pick, picked⟩ := Classical.skolem.1 choice
    exact .array pick (fun element member => (picked element member).1)
      fun element member => (picked element member).2

/-- An object conforms if each key of the object or of the fields shows a value, or a null for a
missing one, that conforms to its entry, and no key is unknown. -/
theorem object_iff {members : Members Json} {name : String} {fields : Fields} :
    Conforms (.object members) (.object name fields) ↔
      (∀ key ∈ members.keys, key ∈ Members.keys fields) ∧
        ∀ key, Conforms ((members.lookup key).getD .null) (entry fields key) := by
  constructor
  · intro h
    cases h with
    | object known conform required =>
      refine ⟨known, fun key => ?_⟩
      cases value : members.lookup key with
      | none =>
        refine .null ?_
        cases field : fields.lookup key with
        | none => rw [Shape.entry_of_missing field]; rfl
        | some t =>
          rw [entry_of_lookup field]
          refine Classical.byContradiction fun plain => ?_
          exact Members.lookup_eq_none.1 value (required key t field (Bool.eq_false_iff.2 plain))
      | some v =>
        have inside := known key (Members.isSome_lookup.1 (value ▸ rfl))
        obtain ⟨t, field⟩ := Option.isSome_iff_exists.1 (Members.isSome_lookup.2 inside)
        rw [entry_of_lookup field]
        exact conform key v t value field
  · rintro ⟨known, entries⟩
    refine .object known (fun key v t value field => ?_) fun key t field plain => ?_
    · have conforms := entries key
      rwa [value, entry_of_lookup field] at conforms
    · refine Classical.byContradiction fun missing => ?_
      have conforms := entries key
      rw [Members.lookup_eq_none.2 missing, entry_of_lookup field, Option.getD_none,
        null_iff, plain] at conforms
      cases conforms

theorem ofJson_self (name : String) (v : Json) : Conforms v (ofJson name v) := by
  induction v generalizing name with
  | null => exact .null rfl
  | bool value => exact .bool value value
  | number value =>
    cases value with
    | integer n => exact .integer n _
    | double x => exact .double x
  | string value => exact .string value value
  | array elements ih =>
    rw [ofJson_array, array_iff]
    exact fun element member =>
      ⟨ofJson name element, List.mem_map_of_mem member, ih element member name⟩
  | object members ih =>
    rw [ofJson_object, object_iff]
    refine ⟨fun key inside => by simpa [Members.keys] using inside, fun key => ?_⟩
    rw [Shape.entry_ofJson]
    cases value : members.lookup key with
    | none => exact .null rfl
    | some v => exact ih _ (Members.mem_of_lookup value) key

end

/-! Merging. -/

def Widens (a b t : Shape) : Prop := ∀ v, Conforms v a ∨ Conforms v b → Conforms v t

theorem object_of_entries {name : String} {side other merged : Fields} {members : Members Json}
    (keys : ∀ key ∈ Members.keys side, key ∈ Members.keys merged)
    (entries : ∀ key, Widens (entry side key) (entry other key) (entry merged key))
    (h : Conforms (.object members) (.object name side)) :
    Conforms (.object members) (.object name merged) := by
  obtain ⟨known, conform⟩ := object_iff.1 h
  exact object_iff.2 ⟨fun key inside => keys key (known key inside),
    fun key => entries key _ (.inl (conform key))⟩

theorem folds_widen {acc last : Shape} {values : List Shape}
    (folds : Shape.Folds Widens acc values last) {v : Json}
    (h : Conforms v acc ∨ ∃ value ∈ values, Conforms v value) : Conforms v last := by
  induction folds with
  | nil =>
    rcases h with inside | ⟨value, member, _⟩
    · exact inside
    · cases member
  | cons _ step _ ih =>
    refine ih ?_
    rcases h with inside | ⟨value, member, conforms⟩
    · exact .inl (step v (.inl inside))
    · rcases List.mem_cons.1 member with rfl | later
      · exact .inl (step v (.inr conforms))
      · exact .inr ⟨value, later, conforms⟩

theorem array_of_folds {name : String} {pool side : List Shape} {element : Shape}
    {elements : List Json} (folds : Shape.Folds Widens .empty pool element)
    (inPool : ∀ value ∈ side, value ∈ pool)
    (h : Conforms (.array elements) (.array name side)) :
    Conforms (.array elements) (.array name element.asValues) := by
  rw [array_iff] at h ⊢
  intro v member
  obtain ⟨value, inside, conforms⟩ := h v member
  have wide := folds_widen folds (.inr ⟨value, inPool value inside, conforms⟩)
  refine ⟨element, ?_, wide⟩
  unfold Shape.asValues
  split
  · next nothing =>
    -- Nothing conforms to the empty shape.
    rw [Shape.eq_empty_of_kind nothing] at wide
    cases wide with
    | null opt => cases opt
  · exact List.mem_singleton_self element

theorem mergeRules_widens : Shape.MergeRules Widens where
  emptyLeft b v h := by
    rcases h with inside | inside
    · cases inside with
      | null opt => cases opt
    · exact inside
  emptyRight a v h := by
    rcases h with inside | inside
    · exact inside
    · cases inside with
      | null opt => cases opt
  optionalLeft a b t _ _ _ holds v h := by
    rcases h with inside | inside
    · exact orAbsent_of_bare inside fun bare => holds v (.inl bare)
    · exact orAbsent_of_bare inside fun bare => holds v (.inr bare)
  optionalRight a b t _ _ plain _ holds v h := by
    rcases h with inside | inside
    · exact (holds v (.inr inside)).orAbsent
    · exact orAbsent_of_bare inside fun bare => holds v (.inl bare)
  bool x y v h := by
    rcases h with inside | inside <;> cases inside with
    | null opt => cases opt
    | bool value => exact .bool value _
  number x y v h := by
    rcases h with inside | inside
    · cases inside with
      | null opt => cases opt
      | integer value => exact .integer value _
      | double value => exact .double value
    · cases inside with
      | null opt => cases opt
      | integer value => exact .integer value _
      | double value => cases x <;> exact .double value
  text x y v h := by
    rcases h with inside | inside <;> cases inside with
    | null opt => cases opt
    | string value => exact .string value _
  object name left right shared ok entries v h := by
    rcases h with inside | inside
    · obtain ⟨members, rfl⟩ := eq_object inside
      refine object_of_entries (fun key known => ?_) entries inside
      exact (Shape.mem_keys_merged ok).2 (.inl known)
    · obtain ⟨members, rfl⟩ := eq_object inside
      refine object_of_entries (fun key known => ?_)
        (fun key v either => entries key v either.symm) inside
      exact (Shape.mem_keys_merged ok).2 (.inr known)
  array name left right element folds v h := by
    rcases h with inside | inside
    · obtain ⟨elements, rfl⟩ := eq_array inside
      exact array_of_folds folds (fun _ => List.mem_append_left right) inside
    · obtain ⟨elements, rfl⟩ := eq_array inside
      exact array_of_folds folds (fun _ => List.mem_append_right left) inside
  url x y v h := by
    rcases h with inside | inside <;> cases inside with
    | null opt => cases opt
  date format v h := by
    rcases h with inside | inside <;> cases inside with
    | null opt => cases opt

end Conforms

/-- Every document conforms to the shape of all of them. -/
theorem conforms_reduce {name : String} {documents : List Json} {t : Shape}
    (ok : Shape.reduce (Shape.seeds name documents) = .ok t) :
    ∀ document ∈ documents, Conforms document t := by
  intro document member
  have folds : Shape.Folds Conforms.Widens .empty (Shape.seeds name documents) t := by
    exact Conforms.mergeRules_widens.folds (Shape.wellFormed_seeds name documents)
      Shape.wellFormed_empty (Shape.reduce_eq_ok.1 ok)
  refine Conforms.folds_widen folds (.inr ⟨Shape.ofJson name document, ?_, .ofJson_self name _⟩)
  exact List.mem_map_of_mem member

/-- Three documents of which the second one lacks a key and the third one holds a null. -/
theorem conforms_reduce_pets :
    let documents : List Json := [.object [("id", .number (.integer 1)), ("tags", .array [])],
      .object [("id", .number (.integer 2))],
      .object [("id", .null), ("tags", .array [.string "a", .null])]]
    ∃ t, Shape.reduce (Shape.seeds "Pet" documents) = .ok t ∧
      ∀ document ∈ documents, Conforms document t := by
  intro documents
  have ok : Shape.reduce (Shape.seeds "Pet" documents) = .ok (.object "Pet"
      [("id", .optional (.number .int)),
        ("tags", .optional (.array "tags" [.optional (.text "a")]))]) := by
    open Shape in
    simp (disch := decide) [documents, seeds, ofJson, reduce_eq_ok, mergeOnto_cons, Except.bind,
      Except.map, merge_absent, optional_merge_of_seen, orAbsent, object_merge_object,
      array_merge_array, representative, mergeFields_cons, Members.lookup_cons,
      number_merge_number, NumberKind.widen, fieldsOnlyIn, Json.Number.kind, kind]
  exact ⟨_, ok, conforms_reduce ok⟩

end ShapeInference
