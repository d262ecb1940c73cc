import ShapeInference.Proofs.Refine.Settled

/-! Refining a merged shape never fails, and it changes no more than names and texts.

Refining merges the values of every array once more, and a merge could fail or put in optionals. In
a condensed shape there is nothing to merge, so what refining gives is known beforehand: every node
stays in its place.
-/

set_option autoImplicit false

namespace ShapeInference

open Shape (asValues)

namespace Refinement

mutual

/-- The shape with the type names and the texts replaced, as far as the refinement goes. -/
def relabel (r : Refinement) (name : String) : Shape → Shape
  | .text sample => Literal.promoted sample
  | .optional t => .optional (if r.throughOptionals then r.relabel name t else t)
  | .object _ fields => .object (typeName name) (r.relabelFields fields)
  | .array _ values => .array (typeName name) (r.relabelValues (r.singular name) values)
  | t => t

def relabelFields (r : Refinement) : List (String × Shape) → List (String × Shape)
  | [] => []
  | (key, t) :: rest => (key, r.relabel key t) :: r.relabelFields rest

def relabelValues (r : Refinement) (name : String) : List Shape → List Shape
  | [] => []
  | t :: rest => r.relabel name t :: r.relabelValues name rest

end

section
variable {r : Refinement} {name : String} {t : Shape}

theorem relabelFields_eq_map (fields : Fields) : r.relabelFields fields =
    fields.map fun field => (field.1, r.relabel field.1 field.2) := by
  induction fields with
  | nil => rfl
  | cons field rest ih => rw [relabelFields, ih, List.map_cons]

theorem relabelValues_eq_map (values : List Shape) :
    r.relabelValues name values = values.map (r.relabel name) := by
  induction values with
  | nil => rfl
  | cons t rest ih => rw [relabelValues, ih, List.map_cons]

theorem kind_relabel : ((r.relabel name t).kind = .empty ↔ t.kind = .empty) ∧
    ((r.relabel name t).kind = .optional ↔ t.kind = .optional) := by
  cases t with
  | text sample =>
    rw [relabel]
    rcases Literal.kind_promoted sample with kind | kind | kind <;> rw [kind] <;> simp [Shape.kind]
  | _ => simp [relabel, Shape.kind]

theorem asValues_relabel : (r.relabel name t).asValues = t.asValues.map (r.relabel name) := by
  simp only [asValues, kind_relabel.1]
  split <;> rfl

/-- Refining succeeds, and no node leaves its place. -/
theorem refine_eq_relabel (wellFormed : t.WellFormed) (condensed : t.Condensed) (r : Refinement)
    (name : String) : t.refine r name = .ok (r.relabel name t) := by
  induction t generalizing name with
  | text sample => exact refine_text sample
  | optional inner ih =>
    obtain ⟨⟨seen, single⟩, wellFormed⟩ := Shape.wellFormed_optional.1 wellFormed
    rw [refine_optional, relabel]
    split
    · have refined := ih wellFormed (Shape.condensed_optional.1 condensed) name
      have plain : (r.relabel name inner).isOptional = false := by
        simpa [Shape.isOptional, kind_relabel.2] using single
      rw [refined, Except.map, Shape.orAbsent_of_seen plain (mt kind_relabel.1.1 seen)]
    · rfl
  | object n fields ih =>
    have wellFormed := Shape.wellFormed_object.1 wellFormed
    have condensed := Shape.condensed_object.1 condensed
    have refined := fields_eq_map r.relabel fun field member =>
      ih field member (wellFormed field member) (condensed field member) field.1
    rw [refine_object, refined, Except.map, relabel, relabelFields_eq_map]
  | array n values ih =>
    have wellFormed := Shape.wellFormed_array.1 wellFormed
    obtain ⟨single, condensed⟩ := Shape.condensed_array.1 condensed
    -- The one value, if there is one, is merged with nothing.
    obtain ⟨t, rfl⟩ := Shape.singleValue_iff.1 single
    have refined : t.refine r (r.singular name) = .ok (r.relabel (r.singular name) t) :=
      Shape.forall_asValues (p := fun t => t.refine r (r.singular name) =
        .ok (r.relabel (r.singular name) t)) rfl fun value member =>
          ih value member (wellFormed value member) (condensed value member) _
    rw [refine_asValues, refined, Except.map, relabel, asValues_relabel, relabelValues_eq_map]
  | _ => rfl

end

/-- The day is under no optional, and the page is under one that is not gone through. -/
theorem refine_eq_relabel_visit :
    let visit : Shape := .object "visit" [("day", .text "2020-01-01"),
      ("tags", .array "tags" [.text "x"]), ("page", .optional (.text "https://a.example/x"))]
    visit.WellFormed ∧ visit.Condensed ∧ visit.refine {} "visit" = .ok (.object "Visit" [
      ("day", .date .dateOnly), ("tags", .array "Tags" [.text "x"]),
      ("page", .optional (.text "https://a.example/x"))]) := by
  intro visit
  have wellFormed : visit.WellFormed := by decide
  have condensed : visit.Condensed := by decide
  have tag : Literal.promoted "x" = .text "x" :=
    Literal.promoted_eq_text_iff.2 ⟨by decide, by decide⟩
  have names : typeName "visit" = "Visit" ∧ typeName "tags" = "Tags" := by decide
  refine ⟨wellFormed, condensed, (refine_eq_relabel wellFormed condensed {} "visit").trans ?_⟩
  simp [visit, relabel, relabelFields, relabelValues, Literal.promoted_day, tag, names]

end Refinement

end ShapeInference
