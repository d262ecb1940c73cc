import ShapeInference.Proofs.Documents.Paths

/-! What the arrays of a merged shape hold.

Every node stands at a place where the documents hold some values. If two or more of these values
are arrays, all their elements merge into at most one value. A single array, however, keeps all its
values as they are, also under an optional: merging with nothing or with null merges no elements.
-/

set_option autoImplicit false

namespace ShapeInference

namespace Shape

open Json (elements present mem_present present_map_member filterMap_member_present
  flatMap_elements_present)

/-- The values of the documents at the place of a node. The values of an array that stands alone at
its place are each at a place of their own. -/
inductive Observed (documents : List Json) (t : Shape) : List Json → Shape → Prop where
  | root : Observed documents t documents t
  -- Nulls are kept among the values: an optional stands at the place of what is below it.
  | inner {vs : List Json} {u : Shape} : Observed documents t vs (optional u) →
      Observed documents t vs u
  | member {vs : List Json} {n key : String} {fields : Fields} {u : Shape} :
      Observed documents t vs (object n fields) → fields.lookup key = some u →
      Observed documents t (vs.filterMap (Json.member key)) u
  | alone {vs es : List Json} {n : String} {values : List Shape} {i : Nat} {e : Json} {u : Shape} :
      Observed documents t vs (array n values) → present vs = [.array es] → es[i]? = some e →
      values[i]? = some u → Observed documents t [e] u
  | pooled {vs : List Json} {n : String} {values : List Shape} {u : Shape} :
      Observed documents t vs (array n values) → 2 ≤ (present vs).length → u ∈ values →
      Observed documents t (vs.flatMap elements) u

section
variable {documents vs : List Json} {name n : String} {t node : Shape} {values : List Shape}

theorem array_cases {m : String} (reduced : reduce (seeds m (present vs)) = .ok (array n values)) :
    (∃ es, present vs = [.array es] ∧ values = es.map (ofJson n)) ∨
      2 ≤ (present vs).length ∧ ∃ element, reduce (seeds n (vs.flatMap elements)) = .ok element ∧
        values = element.asValues := by
  obtain ⟨rfl, single | several⟩ := reduced_array (fun v inside => (mem_present.1 inside).2) reduced
  · exact .inl single
  · rw [flatMap_elements_present] at several
    exact .inr several

/-- A node is what the values at its place reduce to. -/
theorem Observed.reduced (ok : reduce (seeds name documents) = .ok t)
    (h : Observed documents t vs node) : ∃ m, reduce (seeds m (present vs)) = .ok node.bare := by
  induction h with
  | root => exact ⟨name, (reduce_present ok).1⟩
  | inner _ ih => exact ih
  | @member vs n key fields u _ found ih =>
    obtain ⟨m, reduced⟩ := ih
    obtain ⟨_, entries⟩ := reduced_object (fun v inside => (mem_present.1 inside).2) reduced key
    rw [entry_of_lookup found] at entries
    have inner := (reduce_present entries).1
    rw [present_map_member, filterMap_member_present] at inner
    exact ⟨key, inner⟩
  | @alone vs es n values i e u _ single inDocument inShape ih =>
    obtain ⟨m, reduced⟩ := ih
    rcases array_cases reduced with ⟨es', same, rfl⟩ | ⟨several, _⟩
    · cases single.symm.trans same
      rw [List.getElem?_map, inDocument, Option.map_some] at inShape
      cases inShape
      have own : reduce (seeds n [e]) = .ok (ofJson n e) := reduce_singleton _
      exact ⟨n, (reduce_present own).1⟩
    · rw [single] at several
      exact absurd several (Nat.not_succ_le_self 1)
  | @pooled vs n values u _ several inside ih =>
    obtain ⟨m, reduced⟩ := ih
    rcases array_cases reduced with ⟨es, single, _⟩ | ⟨_, element, merged, rfl⟩
    · rw [single] at several
      exact absurd several (Nat.not_succ_le_self 1)
    · rw [mem_asValues inside]
      exact ⟨n, (reduce_present merged).1⟩

theorem Observed.nodes (ok : reduce (seeds name documents) = .ok t) (distinct : node.Distinct)
    (h : Observed documents t vs node) {other : Shape} (inside : other ∈ node.nodes) :
    ∃ ws, Observed documents t ws other := by
  induction node generalizing vs with
  | optional u ih =>
    rcases List.mem_cons.1 inside with rfl | below
    · exact ⟨vs, h⟩
    · exact ih (distinct_optional.1 distinct) h.inner below
  | object n fields ih =>
    rcases List.mem_cons.1 inside with rfl | below
    · exact ⟨vs, h⟩
    · obtain ⟨field, member, below⟩ := mem_fieldNodes.1 below
      obtain ⟨keys, all⟩ := distinct_object.1 distinct
      exact ih field member (all field member) (h.member (Members.lookup_of_mem keys member)) below
  | array n values ih =>
    rcases List.mem_cons.1 inside with rfl | below
    · exact ⟨vs, h⟩
    · obtain ⟨value, member, below⟩ := mem_valueNodes.1 below
      have distinctValue := distinct_array.1 distinct value member
      obtain ⟨m, reduced⟩ := h.reduced ok
      rcases array_cases reduced with ⟨es, single, rfl⟩ | ⟨several, _⟩
      · obtain ⟨e, inDocument, rfl⟩ := List.mem_map.1 member
        obtain ⟨i, bound, rfl⟩ := List.getElem_of_mem inDocument
        refine ih _ member distinctValue (h.alone single (List.getElem?_eq_getElem bound) ?_) below
        rw [List.getElem?_map, List.getElem?_eq_getElem bound, Option.map_some]
      · exact ih value member distinctValue (h.pooled several member) below
  | _ =>
    rw [List.mem_singleton.1 inside]
    exact ⟨vs, h⟩

/-- An array is empty if no element was seen at its place. It holds a single value if two arrays
were seen there, and if there was only one it holds all its elements. -/
theorem array_values (distinct : ∀ document ∈ documents, document.Distinct)
    (ok : reduce (seeds name documents) = .ok t) (inside : array n values ∈ t.nodes) :
    (∃ vs, Observed documents t vs (array n values)) ∧
      ∀ vs, Observed documents t vs (array n values) →
        (values = [] ↔ ∀ v ∈ vs, v.elements = []) ∧
        (2 ≤ (present vs).length → values.length ≤ 1) ∧
        ∀ es, present vs = [.array es] → values = es.map (ofJson n) := by
  have tidy : t.Tidy := Tidy.reduce (tidy_seeds name distinct) ok
  refine ⟨Observed.root.nodes ok tidy.distinct inside, fun vs observed => ?_⟩
  rw [← List.flatMap_eq_nil_iff]
  obtain ⟨m, reduced⟩ := observed.reduced ok
  rcases array_cases reduced with ⟨es, single, rfl⟩ | ⟨several, element, merged, rfl⟩
  · rw [← flatMap_elements_present, single]
    refine ⟨?_, fun several => absurd several (Nat.not_succ_le_self 1), fun es' same => ?_⟩
    · simp [elements]
    · cases same
      rfl
  · refine ⟨?_, fun _ => length_asValues_le element, fun es single => ?_⟩
    · rw [asValues_eq_nil]
      exact reduced_eq_empty_iff merged
    · rw [single] at several
      exact absurd several (Nat.not_succ_le_self 1)

end

/-! An object with an array, and one without. -/

theorem reduce_lone_array : reduce (seeds "entry" [.object [("a", .array [.number (.integer 1),
    .number (.double ⟨false, ⟨5, -1⟩⟩)])], .object []]) =
      .ok (object "entry" [("a", optional (array "a" [number .int, number .double]))]) := by
  simp [seeds, ofJson, reduce_eq_ok, mergeOnto_cons, Except.bind, Except.map, orAbsent,
    object_merge_object, mergeFields_cons, fieldsOnlyIn, Json.Number.kind]

theorem lone_array_mem_nodes : array "a" [number .int, number .double] ∈
    (object "entry" [("a", optional (array "a" [number .int, number .double]))]).nodes := by
  simp [nodes, fieldNodes]

theorem distinct_lone_array : ∀ document ∈ ([.object [("a", .array [.number (.integer 1),
    .number (.double ⟨false, ⟨5, -1⟩⟩)])], .object []] : List Json), document.Distinct := by
  intro document member
  rcases List.mem_pair.1 member with rfl | rfl
  · refine .object (by decide) fun first inside => ?_
    rw [List.mem_singleton.1 inside]
    refine .array fun element inside => ?_
    rcases List.mem_pair.1 inside with rfl | rfl
    · exact .number _
    · exact .number _
  · exact .object List.nodup_nil (List.forall_mem_nil _)

/-- The array keeps an integer beside a double. -/
theorem array_values_lone :
    let es : List Json := [.number (.integer 1), .number (.double ⟨false, ⟨5, -1⟩⟩)]
    let documents : List Json := [.object [("a", .array es)], .object []]
    (∀ document ∈ documents, document.Distinct) ∧ ∃ t values vs,
      reduce (seeds "entry" documents) = .ok t ∧ array "a" values ∈ t.nodes ∧
        Observed documents t vs (array "a" values) ∧ values = es.map (ofJson "a") := by
  intro es documents
  obtain ⟨_, values⟩ := array_values distinct_lone_array reduce_lone_array lone_array_mem_nodes
  have start : Observed documents (object "entry"
      [("a", optional (array "a" [number .int, number .double]))]) documents _ := .root
  have observed : Observed documents _ (documents.filterMap (Json.member "a"))
      (array "a" [number .int, number .double]) := (start.member rfl).inner
  exact ⟨distinct_lone_array, _, _, _, reduce_lone_array, lone_array_mem_nodes, observed,
    (values _ observed).2.2 es rfl⟩

/-- Two documents are not enough for an array to be merged. -/
theorem not_every_array_single :
    ¬ ∀ (documents : List Json) (name : String) (t : Shape), 2 ≤ documents.length →
      (∀ document ∈ documents, document.Distinct) → reduce (seeds name documents) = .ok t →
      ∀ n values, array n values ∈ t.nodes → values.length ≤ 1 := by
  intro claim
  have single := claim _ _ _ (by decide) distinct_lone_array reduce_lone_array _ _
    lone_array_mem_nodes
  exact absurd single (Nat.not_succ_le_self 1)

end Shape

end ShapeInference
