import ShapeInference.Proofs.Documents.Reduced

/-! Following keys through documents and through their shape.

A path reaches a node of the shape exactly if it reaches a value in some document. The node is then
the shape of the values that the path reaches, and it is optional if there is a null among them or
if the last key is missing in an object.
-/

set_option autoImplicit false

namespace ShapeInference

def walk {α : Type} (step : String → α → Option α) : List String → α → Option α
  | [], x => some x
  | key :: rest, x => (step key x).bind (walk step rest)

theorem walk_concat {α : Type} (step : String → α → Option α) (path : List String) (key : String)
    (x : α) : walk step (path ++ [key]) x = (walk step path x).bind (step key) := by
  induction path generalizing x with
  | nil => simp [walk]
  | cons first rest ih =>
    simp only [List.cons_append, walk, Option.bind_assoc]
    exact Option.bind_congr fun y _ => ih y

namespace Json

def follow (path : List String) (v : Json) : Option Json := walk member path v

/-- The values that a path reaches, in the order of the documents. -/
def observed (documents : List Json) (path : List String) : List Json :=
  documents.filterMap (follow path)

section
variable {documents : List Json} {path : List String} {key : String}

@[simp] theorem observed_nil : observed documents [] = documents := by
  have stay : follow [] = some := rfl
  rw [observed, stay, List.filterMap_some]

theorem observed_concat :
    observed documents (path ++ [key]) = (observed documents path).filterMap (member key) := by
  have step : follow (path ++ [key]) = fun v => (follow path v).bind (member key) := by
    funext v
    exact walk_concat member path key v
  rw [observed, step, observed, List.filterMap_filterMap]

theorem present_map_member : present (documents.map fun v => (v.member key).getD .null) =
    present (documents.filterMap (member key)) := by
  induction documents with
  | nil => rfl
  | cons v rest ih =>
    cases found : v.member key with
    | none =>
      rw [List.filterMap_cons_none found, ← ih, List.map_cons, found, Option.getD_none]
      rfl
    | some w =>
      rw [List.filterMap_cons_some found, List.map_cons, found, Option.getD_some, present, present,
        List.filter_cons, List.filter_cons, ← present, ← present, ih]

theorem filterMap_member_present :
    (present documents).filterMap (member key) = documents.filterMap (member key) := by
  rw [present, List.filterMap_filter]
  have step : (fun v : Json => if (!v.isNull) = true then v.member key else none) =
      member key := by
    funext v
    cases v <;> rfl
  rw [step]

theorem null_mem_map_member (objects : ∀ v ∈ documents, v.kind = .object) :
    .null ∈ documents.map (fun v => (v.member key).getD .null) ↔
      .null ∈ documents.filterMap (member key) ∨
        ∃ members, .object members ∈ documents ∧ key ∉ Members.keys members := by
  rw [List.mem_map, List.mem_filterMap]
  constructor
  · rintro ⟨v, inside, null⟩
    cases found : v.member key with
    | some w =>
      rw [found, Option.getD_some] at null
      exact .inl ⟨v, inside, null ▸ found⟩
    | none =>
      have kind := objects v inside
      cases v with
      | object members => exact .inr ⟨members, inside, Members.lookup_eq_none.1 found⟩
      | _ => cases kind
  · rintro (⟨v, inside, found⟩ | ⟨members, inside, missing⟩)
    · exact ⟨v, inside, by rw [found, Option.getD_some]⟩
    · exact ⟨_, inside, by rw [member, Members.lookup_eq_none.2 missing, Option.getD_none]⟩

end

/-- The last key of the path is missing in some object. -/
def Lacking (documents : List Json) (path : List String) : Prop :=
  ∃ front key members, path = front ++ [key] ∧ .object members ∈ observed documents front ∧
    key ∉ Members.keys members

theorem not_lacking_nil (documents : List Json) : ¬ Lacking documents [] := by
  rintro ⟨front, key, _, same, _⟩
  exact List.cons_ne_nil key [] (List.append_eq_nil_iff.1 same.symm).2

theorem lacking_concat {documents : List Json} {path : List String} {key : String} :
    Lacking documents (path ++ [key]) ↔
      ∃ members, .object members ∈ observed documents path ∧ key ∉ Members.keys members := by
  constructor
  · rintro ⟨front, last, members, same, inside, missing⟩
    obtain ⟨rfl, sameKey⟩ := List.append_inj' same rfl
    cases sameKey
    exact ⟨members, inside, missing⟩
  · rintro ⟨members, inside, missing⟩
    exact ⟨path, key, members, rfl, inside, missing⟩

end Json

namespace Shape

open Json (observed observed_nil observed_concat present mem_present present_map_member
  filterMap_member_present null_mem_map_member Lacking not_lacking_nil lacking_concat)

def member (key : String) (t : Shape) : Option Shape :=
  match t.bare with
  | .object _ fields => fields.lookup key
  | _ => none

def follow (path : List String) (t : Shape) : Option Shape := walk member path t

/-- The node that a path reaches, as the shape of the values that it reaches. -/
structure Summary (documents : List Json) (path : List String) (node : Shape) : Prop where
  reached : observed documents path ≠ []
  wellFormed : node.WellFormed
  reduced : ∃ name, reduce (seeds name (present (observed documents path))) = .ok node.bare
  optional : node.isOptional = true ↔ .null ∈ observed documents path ∨ Lacking documents path

section
variable {documents : List Json} {path : List String} {node : Shape}

theorem member_of_bare {key : String} {t : Shape} {name : String} {fields : Fields}
    (bare : t.bare = object name fields) : t.member key = fields.lookup key := by
  rw [member, bare]

theorem Summary.step (h : Summary documents path node) (key : String) :
    node.member key = none ∧ observed documents (path ++ [key]) = [] ∨
      ∃ next, node.member key = some next ∧ Summary documents (path ++ [key]) next := by
  obtain ⟨name, reduced⟩ := h.reduced
  have seen : ∀ v ∈ present (observed documents path), v ≠ .null := fun v inside =>
    (mem_present.1 inside).2
  obtain ⟨_, _, kinds⟩ := kind_reduced seen reduced
  have values : observed documents (path ++ [key]) =
      (present (observed documents path)).filterMap (Json.member key) := by
    rw [observed_concat, filterMap_member_present]
  cases bare : node.bare with
  | object n fields =>
    rw [bare] at reduced kinds
    rw [member_of_bare bare]
    obtain ⟨keys, entries⟩ := reduced_object seen reduced key
    cases found : fields.lookup key with
    | none =>
      refine .inl ⟨rfl, ?_⟩
      rw [values, List.filterMap_eq_nil_iff]
      intro v inside
      refine Option.not_isSome_iff_eq_none.1 fun some => ?_
      exact Members.lookup_eq_none.1 found (keys.2 ⟨v, inside, some⟩)
    | some next =>
      rw [entry_of_lookup found] at entries
      obtain ⟨inner, bit⟩ := reduce_present entries
      refine .inr ⟨next, rfl, ?_, ?_, ⟨key, ?_⟩, ?_⟩
      -- A key of the merged object is a key of some document.
      · obtain ⟨v, inside, some⟩ := keys.1 (Members.isSome_lookup.1 (found ▸ rfl))
        obtain ⟨w, member⟩ := Option.isSome_iff_exists.1 some
        rw [values]
        exact List.ne_nil_of_mem (List.mem_filterMap.2 ⟨v, inside, member⟩)
      · exact wellFormed_object.1 (bare ▸ h.wellFormed.bare) _ (Members.mem_of_lookup found)
      · rwa [present_map_member, ← values] at inner
      -- Here alone the missing members count, as nulls do.
      · have objects : ∀ v ∈ present (observed documents path), v.kind = .object :=
          fun v inside => (kinds v inside).symm
        rw [bit, null_mem_map_member objects, ← values, lacking_concat]
        simp
  | _ =>
    refine .inl ⟨by rw [member, bare], ?_⟩
    rw [values, List.filterMap_eq_nil_iff]
    intro v inside
    -- The values have the kind of the node, so none of them is an object.
    have kind := kinds v inside
    rw [bare] at kind
    cases v with
    | object => cases kind
    | _ => rfl

/-- A path reaches a node of the shape that tells about the values it reaches, or nothing. -/
theorem follow_reduced {name : String} {t : Shape} (some : documents ≠ [])
    (ok : reduce (seeds name documents) = .ok t) (path : List String) :
    t.follow path = none ∧ observed documents path = [] ∨
      ∃ node, t.follow path = .some node ∧ Summary documents path node := by
  induction path using List.reverseRecOn with
  | nil =>
    obtain ⟨reduced, bit⟩ := reduce_present ok
    refine .inr ⟨t, rfl, ?_, ?_, ⟨name, ?_⟩, ?_⟩
    · rwa [observed_nil]
    · exact wellFormed_reduce (wellFormed_seeds name documents) ok
    · rwa [observed_nil]
    · rw [bit, observed_nil]
      exact (or_iff_left (not_lacking_nil documents)).symm
  | append_singleton path key ih =>
    have next : t.follow (path ++ [key]) = (t.follow path).bind (member key) :=
      walk_concat member path key t
    rcases ih with ⟨missing, nothing⟩ | ⟨node, found, summary⟩
    · left
      rw [next, missing, observed_concat, nothing]
      exact ⟨rfl, rfl⟩
    · rw [next, found, Option.bind_some]
      exact summary.step key

theorem Summary.eq_absent_iff (h : Summary documents path node) :
    node = absent ↔ ∀ v ∈ observed documents path, v = .null := by
  obtain ⟨name, reduced⟩ := h.reduced
  have nothing := (kind_reduced (fun v inside => (mem_present.1 inside).2) reduced).2.1
  rw [← Json.present_eq_nil, ← nothing]
  constructor
  · rintro rfl
    rfl
  · intro empty
    -- Some value was reached, and it can be no other than null.
    obtain ⟨v, inside⟩ := List.exists_mem_of_ne_nil _ h.reached
    have null := Json.present_eq_nil.1 (nothing.1 empty) v inside
    have opt := h.optional.2 (.inl (null ▸ inside))
    rw [← h.wellFormed.orAbsentIf_bare, opt, eq_empty_of_kind empty]
    rfl

theorem Summary.kind_eq (h : Summary documents path node) {v : Json}
    (inside : v ∈ observed documents path) (seen : v ≠ .null) : node.bare.kind = v.kind := by
  obtain ⟨name, reduced⟩ := h.reduced
  exact (kind_reduced (fun v inside => (mem_present.1 inside).2) reduced).2.2 v
    (mem_present.2 ⟨inside, seen⟩)

theorem Summary.double_iff (h : Summary documents path node) {kind : NumberKind}
    (number : node.bare = number kind) :
    kind = .double ↔ ∃ x, .number (.double x) ∈ observed documents path := by
  obtain ⟨name, reduced⟩ := h.reduced
  rw [number] at reduced
  rw [reduced_number (fun v inside => (mem_present.1 inside).2) reduced]
  simp

end

/-- Keys, optionals, kinds and kinds of numbers in a shape are those of the documents, no more and
no fewer. -/
theorem follow_exact {documents : List Json} {name : String} {t : Shape} (some : documents ≠ [])
    (ok : reduce (seeds name documents) = .ok t) (path : List String) :
    ((∃ node, t.follow path = .some node) ↔ observed documents path ≠ []) ∧
      ∀ node, t.follow path = .some node →
        (node.isOptional = true ↔
          .null ∈ observed documents path ∨ Lacking documents path) ∧
        (node = absent ↔ ∀ v ∈ observed documents path, v = .null) ∧
        (∀ v ∈ observed documents path, v ≠ .null → node.bare.kind = v.kind) ∧
        ∀ kind, node.bare = number kind →
          (kind = .double ↔ ∃ x, .number (.double x) ∈ observed documents path) := by
  rcases follow_reduced some ok path with ⟨missing, nothing⟩ | ⟨node, found, summary⟩
  · rw [missing]
    exact ⟨iff_of_false (fun ⟨_, found⟩ => nomatch found) fun reached => reached nothing, nofun⟩
  · rw [found]
    refine ⟨iff_of_true ⟨node, rfl⟩ summary.reached, fun other same => ?_⟩
    cases same
    exact ⟨summary.optional, summary.eq_absent_iff, fun v => summary.kind_eq,
      fun kind => summary.double_iff⟩

/-- A key below a key, missing in one object and whole in another one. -/
theorem follow_exact_pets :
    let documents : List Json := [.null,
      .object [("owner", .object [("age", .number (.integer 30))])],
      .object [("owner", .object [])]]
    documents ≠ [] ∧ ∃ t, reduce (seeds "Pet" documents) = .ok t ∧
      ∃ node, t.follow ["owner", "age"] = some node ∧
        (node.isOptional = true ↔ .null ∈ observed documents ["owner", "age"] ∨
          Lacking documents ["owner", "age"]) := by
  intro documents
  have some : documents ≠ [] := List.cons_ne_nil _ _
  have ok : reduce (seeds "Pet" documents) = .ok (optional (object "Pet"
      [("owner", object "owner" [("age", optional (number .int))])])) := by
    simp (disch := decide) [documents, seeds, ofJson, reduce_eq_ok, mergeOnto_cons, Except.bind,
      Except.map, absent_merge, optional_merge_of_seen, orAbsent, object_merge_object,
      mergeFields_cons, Members.lookup_cons, fieldsOnlyIn, Json.Number.kind]
  have exact := follow_exact some ok ["owner", "age"]
  have found : ∃ node, Shape.follow ["owner", "age"] (optional (object "Pet"
      [("owner", object "owner" [("age", optional (number .int))])])) = .some node :=
    ⟨_, rfl⟩
  obtain ⟨node, found⟩ := found
  exact ⟨some, _, ok, node, found, (exact.2 node found).1⟩

end Shape

end ShapeInference
