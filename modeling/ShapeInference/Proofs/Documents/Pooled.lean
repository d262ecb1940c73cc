import Mathlib.Data.List.Flatten
import ShapeInference.Proofs.Documents.Arrays
import ShapeInference.Proofs.Documents.Names
import ShapeInference.Proofs.Merge.Absorbed

/-! Documents that the shape of documents absorbs.

A shape stays what it is when one of its own documents is merged into it once more. Only an array
that was the single one at its place may change, since its elements meet each other for the first
time. So the document is absorbed if each of its arrays has a second one beside it.
-/

set_option autoImplicit false

namespace ShapeInference

namespace Json

/-! The values below a place. -/

section
variable {vs ws : List Json} {v : Json} {key : String}

/-- The members of objects under a key, with null where it is missing. -/
def column (key : String) (vs : List Json) : List Json :=
  (present vs).map fun v => (v.member key).getD .null

theorem column_append : column key (vs ++ ws) = column key vs ++ column key ws := by
  rw [column, present_append, List.map_append, ← column, ← column]

theorem present_sublist (h : vs.Sublist ws) : (present vs).Sublist (present ws) := h.filter _

theorem column_sublist (h : vs.Sublist ws) : (column key vs).Sublist (column key ws) :=
  (present_sublist h).map _

theorem mem_column (key : String) (inside : v ∈ vs) (seen : v ≠ .null) :
    (v.member key).getD .null ∈ column key vs :=
  List.mem_map.2 ⟨v, mem_present.2 ⟨inside, seen⟩, rfl⟩

theorem distinct_column (distinct : ∀ v ∈ vs, v.Distinct) : ∀ w ∈ column key vs, w.Distinct := by
  intro w inside
  obtain ⟨v, member, rfl⟩ := List.mem_map.1 inside
  cases found : v.member key with
  | none => exact .null
  | some w => exact (distinct v (mem_present.1 member).1).member found

theorem distinct_elements (distinct : ∀ v ∈ vs, v.Distinct) :
    ∀ w ∈ vs.flatMap elements, w.Distinct := by
  intro w inside
  obtain ⟨v, member, element⟩ := List.mem_flatMap.1 inside
  exact (distinct v member).element element

end

/-- Among the values at its place, each array of the document has another array beside it, unless it
has too few elements for them to meet. -/
inductive Pooled : List Json → Json → Prop where
  | scalar {vs : List Json} {v : Json} : v.isScalar = true → Pooled vs v
  | array {vs es : List Json} : (2 ≤ es.length → 2 ≤ (present vs).length) →
      (∀ e ∈ es, Pooled (vs.flatMap elements) e) → Pooled vs (.array es)
  | object {vs : List Json} {members : Members Json} :
      (∀ key v, members.lookup key = some v → Pooled (column key vs) v) →
      Pooled vs (.object members)

theorem Pooled.append {vs : List Json} {v : Json} (h : Pooled vs v) (ws : List Json) :
    Pooled (vs ++ ws) v := by
  induction h generalizing ws with
  | scalar scalar => exact .scalar scalar
  | array several _ ih =>
    refine .array (fun many => ?_) fun e inside => ?_
    · rw [present_append, List.length_append]
      exact Nat.le_add_right_of_le (several many)
    · rw [List.flatMap_append]
      exact ih e inside _
  | object _ ih =>
    refine .object fun key v found => ?_
    rw [column_append]
    exact ih key v found _

theorem pooled_of_twice {vs : List Json} {v : Json} (twice : [v, v].Sublist vs) : Pooled vs v := by
  induction v generalizing vs with
  | array es ih =>
    have arrays : [Json.array es, .array es].Sublist (present vs) := present_sublist twice
    have both : (es ++ es).Sublist (vs.flatMap elements) := by
      simpa [elements] using twice.flatMap elements
    refine .array (fun _ => arrays.length_le) fun e inside => ih e inside ?_
    have one : [e].Sublist es := List.singleton_sublist.2 inside
    exact (one.append one).trans both
  | object members ih =>
    refine .object fun key v found => ih _ (Members.mem_of_lookup found) ?_
    have both : (column key [.object members, .object members]).Sublist (column key vs) :=
      column_sublist twice
    have columns : column key [.object members, .object members] = [v, v] := by
      simp [column, present, isNull, Json.member, found]
    rwa [columns] at both
  | _ => exact .scalar rfl

end Json

namespace Shape

open Json (Pooled array_mem_present column distinct_column distinct_elements elements mem_column
  mem_present object_mem_present present)

/-! Merging a document once more. -/

section
variable {vs es : List Json} {name n : String} {values : List Shape} {fields : Fields}

/-- With a second array beside it, or with too few elements, an array is merged already. -/
theorem merged_array (reduced : reduce (seeds name (present vs)) = .ok (array n values))
    (inside : .array es ∈ vs) (several : 2 ≤ es.length → 2 ≤ (present vs).length) :
    ∃ element, reduce (seeds n (vs.flatMap elements)) = .ok element ∧
      values = element.asValues := by
  rcases array_cases reduced with ⟨es', single, rfl⟩ | ⟨_, merged⟩
  · have same : Json.array es ∈ [Json.array es'] := single ▸ array_mem_present inside
    cases List.mem_singleton.1 same
    rw [single] at several
    rw [← Json.flatMap_elements_present, single, List.flatMap_singleton, elements]
    cases es with
    | nil => exact ⟨empty, rfl, rfl⟩
    | cons e rest =>
      have last : rest = [] := by
        by_contra more
        have two : 2 ≤ (e :: rest).length := Nat.succ_le_succ (List.length_pos_iff.2 more)
        exact absurd (several two) (Nat.not_succ_le_self 1)
      have seen : (ofJson n e).kind ≠ .empty := kind_ofJson n e ▸ Json.kind_ne_empty e
      rw [last]
      refine ⟨ofJson n e, reduce_singleton _, ?_⟩
      rw [asValues, if_neg seen, List.map_singleton]
  · exact merged

theorem merged_field (distinct : (object n fields).Distinct)
    (reduced : reduce (seeds name (present vs)) = .ok (object n fields)) {field : String × Shape}
    (inside : field ∈ fields) : reduce (seeds field.1 (column field.1 vs)) = .ok field.2 := by
  obtain ⟨_, entries⟩ := reduced_object (fun v member => (mem_present.1 member).2) reduced field.1
  have found := Members.lookup_of_mem (distinct_object.1 distinct).1 inside
  rwa [entry_of_lookup found] at entries

theorem merge_of_merge_bare {v : Json} {t : Shape} (ok : reduce (seeds name vs) = .ok t)
    (seen : v ≠ .null) (bare : reduce (seeds name (present vs)) = .ok t.bare →
      t.bare.merge (ofJson name v) = .ok t.bare) : t.merge (ofJson name v) = .ok t :=
  merge_eq_self_of_bare (wellFormed_reduce (wellFormed_seeds name vs) ok) (wellFormed_ofJson name v)
    (isOptional_ofJson_of_ne name seen) (bare (reduce_present ok).1)

theorem eq_array_of_reduce {t : Shape} (reduced : reduce (seeds name (present vs)) = .ok t)
    (inside : .array es ∈ present vs) : ∃ values, t = array name values := by
  have kind := (kind_reduced (fun w member => (mem_present.1 member).2) reduced).2.2 _ inside
  cases t with
  | array n values =>
    have same := (Named.array_iff.1 ((named_reduce name (present vs)).of_ok reduced)).1
    exact ⟨values, by rw [same]; rfl⟩
  | _ => cases kind

theorem eq_object_of_reduce {members : Members Json} {t : Shape}
    (reduced : reduce (seeds name (present vs)) = .ok t) (inside : .object members ∈ present vs) :
    ∃ fields, t = object name fields := by
  have kind := (kind_reduced (fun w member => (mem_present.1 member).2) reduced).2.2 _ inside
  cases t with
  | object n fields =>
    have same := (Named.object_iff.1 ((named_reduce name (present vs)).of_ok reduced)).1
    exact ⟨fields, by rw [same]; rfl⟩
  | _ => cases kind

theorem lookup_fieldsOfJson (members : Members Json) (key : String) :
    (fieldsOfJson members).lookup key = (members.lookup key).map (ofJson key) := by
  rw [fieldsOfJson_eq_map, Members.lookup_map]

theorem merge_object_of_reduce {members : Members Json}
    (reduced : reduce (seeds name (present vs)) = .ok (object name fields))
    (inside : .object members ∈ vs) :
    (object name fields).merge (ofJson name (.object members)) =
      (mergeFields fields (fieldsOfJson members)).map (object name) := by
  have known : ∀ key ∈ Members.keys (fieldsOfJson members), key ∈ Members.keys fields := by
    intro key member
    obtain ⟨keys, _⟩ := reduced_object (fun w member => (mem_present.1 member).2) reduced key
    rw [← Members.isSome_lookup, lookup_fieldsOfJson, Option.isSome_map] at member
    exact keys.2 ⟨_, object_mem_present inside, member⟩
  rw [ofJson, object_merge_object, if_pos rfl, fieldsOnlyIn_eq_nil known]
  cases mergeFields fields (fieldsOfJson members) with
  | error e => rfl
  | ok shared => rw [Except.map, Except.map, List.append_nil]

/-- A key that an object lacks is optional already, and a value that it has is in the column. -/
theorem field_cases {members : Members Json} {key : String} {t : Shape}
    (own : reduce (seeds key (column key vs)) = .ok t) (inside : .object members ∈ vs) :
    (fieldsOfJson members).lookup key = none ∧ t.orAbsent = t ∨
      ∃ w, members.lookup key = some w ∧
        (fieldsOfJson members).lookup key = some (ofJson key w) ∧ w ∈ column key vs := by
  have inColumn := mem_column key inside (by simp)
  rw [Json.member] at inColumn
  rw [lookup_fieldsOfJson]
  cases found : members.lookup key with
  | none =>
    rw [found, Option.getD_none] at inColumn
    exact .inl ⟨rfl, orAbsent_of_isOptional ((reduce_present own).2.2 inColumn)⟩
  | some w =>
    rw [found, Option.getD_some] at inColumn
    exact .inr ⟨w, rfl, rfl, inColumn⟩

/-- The least literal of booleans, the wider of two kinds and the first text are there already. -/
theorem merge_scalar {v : Json} {t : Shape} (seen : ∀ w ∈ vs, w ≠ .null) (inside : v ∈ vs)
    (scalar : v.isScalar = true) (ok : reduce (seeds name vs) = .ok t) :
    t.merge (ofJson name v) = .ok t := by
  have kind := (kind_reduced seen ok).2.2 v inside
  cases v with
  | null => exact absurd rfl (seen _ inside)
  | array | object => cases scalar
  | bool y =>
    cases t with
    | bool x =>
      rw [ofJson, bool_merge_bool]
      cases x with
      | false => rfl
      | true =>
        cases y with
        | false => exact absurd inside ((reduced_bool seen ok).1 rfl)
        | true => rfl
    | _ => cases kind
  | number y =>
    cases t with
    | number x =>
      rw [ofJson, number_merge_number]
      cases x with
      | double => rfl
      | int =>
        cases y with
        | integer => rfl
        | double x => cases (reduced_number seen ok).2 ⟨x, inside⟩
    | _ => cases kind
  | string y =>
    cases t with
    | text x =>
      rw [ofJson, text_merge_text]
      split
      · next nothing =>
        rw [reduced_text seen ok] at nothing ⊢
        rw [nothing, Json.eq_empty_of_firstText nothing inside]
      · rfl
    | _ => cases kind

theorem merge_pooled {v : Json} {t : Shape} (distinct : ∀ w ∈ vs, w.Distinct) (inside : v ∈ vs)
    (pooled : Pooled vs v) (ok : reduce (seeds name vs) = .ok t) :
    t.merge (ofJson name v) = .ok t := by
  induction v generalizing vs name t with
  | null =>
    have opt := (reduce_present ok).2.2 inside
    rw [ofJson, merge_absent (wellFormed_reduce (wellFormed_seeds name vs) ok),
      orAbsent_of_isOptional opt]
  | array es ih =>
    apply merge_of_merge_bare ok (by simp)
    intro reduced
    cases pooled with
    | scalar scalar => cases scalar
    | array several all =>
      obtain ⟨values, same⟩ := eq_array_of_reduce reduced (array_mem_present inside)
      rw [same] at reduced ⊢
      obtain ⟨element, merged, rfl⟩ := merged_array reduced inside several
      have absorbed : mergeOnto element (es.map (ofJson name)) = .ok element := by
        apply mergeOnto_eq_self
        rw [List.forall_mem_map]
        intro e inArray
        have inPool : e ∈ vs.flatMap elements := List.mem_flatMap.2 ⟨_, inside, inArray⟩
        exact ih e inArray (distinct_elements distinct) inPool (all e inArray) merged
      rw [ofJson_array, array_merge_array, if_pos rfl, representative_eq, mergeOnto_asValues,
        absorbed, Except.map, Except.map]
  | object members ih =>
    apply merge_of_merge_bare ok (by simp)
    intro reduced
    cases pooled with
    | scalar scalar => cases scalar
    | object all =>
      obtain ⟨fields, same⟩ := eq_object_of_reduce reduced (object_mem_present inside)
      have distinctBare : t.bare.Distinct :=
        (Tidy.reduce (tidy_seeds name distinct) ok).bare.distinct
      rw [same] at reduced distinctBare ⊢
      have shared : mergeFields fields (fieldsOfJson members) = .ok fields := by
        apply mergeFields_eq_self
        intro field member
        have own := merged_field distinctBare reduced member
        rcases field_cases own inside with ⟨missing, stays⟩ | ⟨w, found, right, inColumn⟩
        · have alone := Joins.alone (a := field.2) missing
          rwa [stays] at alone
        · exact .both right (ih _ (Members.mem_of_lookup found) (distinct_column distinct) inColumn
            (all _ _ found) own)
      rw [merge_object_of_reduce reduced inside, shared]
      rfl
  | _ =>
    apply merge_of_merge_bare ok (by simp)
    intro reduced
    have present : _ ∈ present vs := mem_present.2 ⟨inside, by simp⟩
    exact merge_scalar (fun w member => (mem_present.1 member).2) present rfl reduced

end

end Shape

end ShapeInference
