import ShapeInference.Proofs.Documents.Promotion

/-! Literals and key order of merged shapes.

Merging puts the literal and the keys of its right side first if this side alone is optional. Seeds
are merged from the left and a seed is optional only if it is null, so what documents say is kept in
their order: at each path the first text that is not empty, and the keys as they first came.
-/

set_option autoImplicit false

namespace ShapeInference

namespace Json

def keys : Json → List String
  | .object members => Members.keys members
  | _ => []

def conjunction : List Json → Bool
  | [] => true
  | .bool value :: rest => value && conjunction rest
  | _ :: rest => conjunction rest

theorem conjunction_eq_true {documents : List Json} :
    conjunction documents = true ↔ .bool false ∉ documents := by
  induction documents with
  | nil => simp [conjunction]
  | cons v rest ih =>
    rw [List.mem_cons, not_or, ← ih]
    cases v with
    | bool value => cases value <;> simp [conjunction]
    | _ => simp [conjunction]

end Json

namespace Shape

open Json (conjunction firstText flatMap_present mem_present observed present)

section
variable {t node : Shape}

theorem Distinct.member {key : String} (h : t.Distinct) (found : t.member key = some node) :
    node.Distinct := by
  rw [Shape.member] at found
  have bare := h.bare
  split at found
  · next name fields same =>
    rw [same] at bare
    exact (distinct_object.1 bare).2 _ (Members.mem_of_lookup found)
  · cases found

theorem Distinct.follow {path : List String} (h : t.Distinct) (found : t.follow path = some node) :
    node.Distinct := by
  induction path generalizing t with
  | nil =>
    cases found
    exact h
  | cons key rest ih =>
    obtain ⟨next, step, later⟩ := Option.bind_eq_some_iff.1 found
    exact ih (h.member step) later

end

/-- Of each document, merging appends the keys that are new. -/
theorem reduced_keys {documents : List Json} {name n : String} {fields : Fields}
    (seen : ∀ v ∈ documents, v ≠ .null)
    (ok : reduce (seeds name documents) = .ok (object n fields)) :
    (Members.keys fields).eraseDups = (documents.flatMap Json.keys).eraseDups := by
  induction documents using List.reverseRecOn generalizing n fields with
  | nil => cases ok
  | append_singleton documents v ih =>
    rw [List.flatMap_append, List.flatMap_singleton]
    obtain ⟨same, first | ⟨s, before, sameBefore, unites⟩⟩ := reduced_cases seen ok
    · obtain ⟨rfl, single⟩ := first
      cases v with
      | object members =>
        rw [ofJson_object] at single
        cases single
        rw [Members.keys_map]
        rfl
      | _ => cases same
    · cases v with
      | object members =>
        rw [ofJson_object] at unites
        cases unites with
        | emptyLeft => cases sameBefore
        | @object _ left _ _ shared =>
          have inFront := fun v member => seen v (List.mem_append_left _ member)
          have new (key : String) : (left.lookup key).isNone = true ↔ key ∉ Members.keys left := by
            rw [Option.isNone_iff_eq_none, Members.lookup_eq_none]
          -- What was merged before keeps its keys in front.
          rw [Members.keys_append, keys_mergeFields shared, keys_fieldsOnlyIn, Members.keys_map]
          exact eraseDups_append_filter (ih inFront before) rfl new
      | _ => cases same

section
variable {documents : List Json} {path : List String} {node : Shape}

theorem Summary.bool_eq (h : Summary documents path node) {sample : Bool}
    (bool : node.bare = .bool sample) : sample = conjunction (observed documents path) := by
  obtain ⟨name, reduced⟩ := h.reduced
  rw [bool] at reduced
  have seen := reduced_bool (fun v inside => (mem_present.1 inside).2) reduced
  rw [Bool.eq_iff_iff, seen, Json.conjunction_eq_true, mem_present]
  simp

theorem Summary.keys_eq (h : Summary documents path node) (distinct : node.Distinct) {n : String}
    {fields : Fields} (object : node.bare = .object n fields) :
    Members.keys fields = ((observed documents path).flatMap Json.keys).eraseDups := by
  obtain ⟨name, reduced⟩ := h.reduced
  rw [object] at reduced
  have once : (Members.keys fields).Nodup := by
    have bare := distinct.bare
    rw [object] at bare
    exact (distinct_object.1 bare).1
  rw [← eraseDups_of_nodup once, reduced_keys (fun v inside => (mem_present.1 inside).2) reduced,
    flatMap_present rfl]

end

/-- At each path the first text that is not empty survives, with the conjunction of the booleans
and with the keys in the order in which they first came. Members are a map, so keys are distinct. -/
theorem first_seen_survives {documents : List Json} {name : String} {t : Shape}
    (distinct : ∀ document ∈ documents, document.Distinct) (some : documents ≠ [])
    (ok : reduce (seeds name documents) = .ok t) {path : List String} {node : Shape}
    (found : t.follow path = .some node) :
    (∀ literal, node.bare = text literal → literal = firstText (observed documents path)) ∧
      (∀ sample, node.bare = bool sample → sample = conjunction (observed documents path)) ∧
      ∀ n fields, node.bare = object n fields →
        Members.keys fields = ((observed documents path).flatMap Json.keys).eraseDups := by
  rcases follow_reduced some ok path with ⟨missing, _⟩ | ⟨other, reached, summary⟩
  · rw [missing] at found
    cases found
  cases reached.symm.trans found
  have once : t.Distinct := (Tidy.reduce (tidy_seeds name distinct) ok).distinct
  exact ⟨fun _ => summary.text_eq, fun _ => summary.bool_eq,
    fun _ _ => summary.keys_eq (once.follow found)⟩

/-- A null before the object that has the first text: it makes no later key come first. -/
theorem first_seen_survives_pets :
    let documents : List Json := [
      .object [("owner", .object [("name", .string ""), ("old", .bool true)])],
      .object [("owner", .null)],
      .object [("owner", .object [("zip", .string "1"), ("name", .string "ada"),
        ("old", .bool false)])]]
    let owner := object "owner"
      [("name", text "ada"), ("old", bool false), ("zip", optional (text "1"))]
    let t := object "Pet" [("owner", optional owner)]
    (∀ document ∈ documents, document.Distinct) ∧ documents ≠ [] ∧
      reduce (seeds "Pet" documents) = .ok t ∧ t.follow ["owner"] = some (optional owner) ∧
        t.follow ["owner", "name"] = some (text "ada") ∧
        ["name", "old", "zip"] = ((observed documents ["owner"]).flatMap Json.keys).eraseDups ∧
        "ada" = firstText (observed documents ["owner", "name"]) := by
  intro documents owner t
  have whole {owner : Json} (h : owner.Distinct) : (Json.object [("owner", owner)]).Distinct :=
    .object (List.pairwise_singleton _ _) (List.forall_mem_singleton.2 h)
  have distinct : ∀ document ∈ documents, document.Distinct := by
    simp only [documents, List.forall_mem_cons, List.not_mem_nil]
    refine ⟨whole (.object (by decide) ?_), whole .null, whole (.object (by decide) ?_), nofun⟩
    · simp [Json.Distinct.string, Json.Distinct.bool]
    · simp [Json.Distinct.string, Json.Distinct.bool]
  have some : documents ≠ [] := List.cons_ne_nil _ _
  have ok : reduce (seeds "Pet" documents) = .ok t := by
    simp (disch := decide) [documents, owner, t, seeds, ofJson, reduce_eq_ok, mergeOnto_cons,
      Except.bind, Except.map, merge_absent, optional_merge_of_seen, orAbsent, object_merge_object,
      mergeFields_cons, Members.lookup_cons, fieldsOnlyIn, text_merge_text, bool_merge_bool]
  have atOwner : t.follow ["owner"] = .some (optional owner) := rfl
  have atName : t.follow ["owner", "name"] = .some (text "ada") := rfl
  exact ⟨distinct, some, ok, atOwner, atName,
    (first_seen_survives distinct some ok atOwner).2.2 _ _ rfl,
    (first_seen_survives distinct some ok atName).1 _ rfl⟩

end Shape

end ShapeInference
