import ShapeInference.Proofs.Documents.Names

/-! Going through optionals changes nothing outside of them.

Two refinements that differ in no more than this are compared. Below an optional one of them renames
nodes and finds URLs and dates, and the other one does not, so a merge of two optionals could end
differently. Refining merges no filled optionals, though: an array holds a single value, or it is an
array of one document, and there nothing stands below an optional.
-/

set_option autoImplicit false

namespace ShapeInference

namespace Shape

mutual

/-- The shape without what stands below its optionals. -/
def surface : Shape → Shape
  | .optional _ => .absent
  | .object name fields => .object name (surfaceFields fields)
  | .array name values => .array name (surfaceValues values)
  | t => t

def surfaceFields : List (String × Shape) → List (String × Shape)
  | [] => []
  | (key, t) :: rest => (key, t.surface) :: surfaceFields rest

def surfaceValues : List Shape → List Shape
  | [] => []
  | t :: rest => t.surface :: surfaceValues rest

end

def SameSurface (t u : Shape) : Prop := t.surface = u.surface

section
variable {t u : Shape}

theorem surface_orAbsent (t : Shape) : t.orAbsent.surface = absent := by
  cases t <;> rfl

theorem kind_surface : t.surface.kind = t.kind := by
  cases t <;> rfl

theorem surfaceValues_asValues : surfaceValues t.asValues = t.surface.asValues := by
  simp only [asValues, kind_surface]
  split <;> rfl

theorem SameSurface.refl (t : Shape) : t.SameSurface t := rfl

theorem SameSurface.array (h : t.SameSurface u) (name : String) :
    (array name t.asValues).SameSurface (array name u.asValues) := by
  rw [SameSurface, surface, surface, surfaceValues_asValues, surfaceValues_asValues, h]

end

end Shape

namespace Refinement

open Shape (Gathered SameSurface ofJson ofJson_array ofJson_object surfaceFields)

section
variable {r r' : Refinement} {name : String}

theorem fields_congr {fields : Fields}
    (each : ∀ field ∈ fields, field.2.refine r field.1 = field.2.refine r' field.1) :
    (r.fields fields).outcome = (r'.fields fields).outcome := by
  induction fields with
  | nil => rfl
  | cons field rest ih =>
    obtain ⟨first, later⟩ := List.forall_mem_cons.1 each
    rw [outcome_fields_cons, outcome_fields_cons, first, ih later]

theorem values_congr {values : List Shape}
    (each : ∀ value ∈ values, value.refine r name = value.refine r' name) :
    (r.values name values).outcome = (r'.values name values).outcome := by
  induction values with
  | nil => rfl
  | cons value rest ih =>
    obtain ⟨first, later⟩ := List.forall_mem_cons.1 each
    rw [outcome_values_cons, outcome_values_cons, first, ih later]

theorem refine_ofJson_congr (same : r.singular = r'.singular) (n name : String) (v : Json) :
    (ofJson n v).refine r name = (ofJson n v).refine r' name := by
  induction v generalizing n name with
  | string sample => rw [ofJson, refine_text, refine_text]
  | array elements ih =>
    have each : ∀ value ∈ elements.map (ofJson n),
        value.refine r (r.singular name) = value.refine r' (r.singular name) := by
      rw [List.forall_mem_map]
      exact fun element inside => ih element inside n (r.singular name)
    rw [ofJson_array, refine_array, refine_array, values_congr each, same]
  | object members ih =>
    have each : ∀ field ∈ members.map fun member => (member.1, ofJson member.1 member.2),
        field.2.refine r field.1 = field.2.refine r' field.1 := by
      rw [List.forall_mem_map]
      exact fun member inside => ih member inside member.1 member.1
    rw [ofJson_object, refine_object, refine_object, fields_congr each]
  | _ => rfl

theorem leads_fields {fields : Fields} (each : ∀ field ∈ fields,
      Leads SameSurface (field.2.refine r field.1) (field.2.refine r' field.1)) :
    Leads (fun refined refined' => surfaceFields refined = surfaceFields refined')
      (r.fields fields).outcome (r'.fields fields).outcome := by
  induction fields with
  | nil => exact .ok rfl
  | cons field rest ih =>
    obtain ⟨first, later⟩ := List.forall_mem_cons.1 each
    rw [outcome_fields_cons, outcome_fields_cons]
    refine first.bind fun t u same => (ih later).map fun refined refined' others => ?_
    rw [surfaceFields, surfaceFields, same, others]

theorem leads_refine {t : Shape} (gathered : t.Everywhere Gathered)
    (same : r.singular = r'.singular) (shallow : r'.throughOptionals = false) (name : String) :
    Leads SameSurface (t.refine r name) (t.refine r' name) := by
  induction t generalizing name with
  | text sample =>
    rw [refine_text, refine_text]
    exact .ok rfl
  | optional inner ih =>
    rw [refine_optional, refine_optional, shallow]
    -- Here alone the two differ, and the surface ends here.
    split
    · intro u ok
      obtain ⟨s, _, rfl⟩ := map_eq_ok.1 ok
      exact ⟨.optional inner, rfl, Shape.surface_orAbsent s⟩
    · exact .ok rfl
  | object n fields ih =>
    have each := fun field member =>
      ih field member ((Shape.everywhere_object.1 gathered).2 field member) field.1
    rw [refine_object, refine_object]
    refine (leads_fields each).map fun refined refined' others => ?_
    rw [SameSurface, Shape.surface, Shape.surface, others]
  | array n values ih =>
    obtain ⟨few | ⟨m, elements, rfl⟩, below⟩ := Shape.everywhere_array.1 gathered
    · rcases Shape.nil_or_singleton few with rfl | ⟨value, rfl⟩
      · rw [refine_array, refine_array, outcome_values_nil, outcome_values_nil]
        exact .refl SameSurface.refl _
      · have single := List.mem_singleton_self value
        have inner := ih value single (below value single) (r.singular name)
        rw [refine_singleton, refine_singleton, ← same]
        exact inner.map fun _ _ related => related.array _
    -- Many values are those of one document, and both make the same of it.
    · rw [refine_array_congr n m, refine_array_congr n m, ← ofJson_array,
        refine_ofJson_congr same m name]
      exact .refl SameSurface.refl _
  | _ => exact .ok rfl

end

end Refinement

open Shape (gathered_reduce ofJson reduce seeds)

/-- Where inference succeeds going through optionals, it succeeds without, and nothing differs but
what stands below optionals. -/
theorem optionals_stay_apart {documents : List Json} {name : String} {singular : Singularizer}
    {t u : Shape} (ok : reduce (seeds name documents) = .ok t)
    (through : t.refine { singular, throughOptionals := true } name = .ok u) :
    ∃ w, t.refine { singular, throughOptionals := false } name = .ok w ∧
      u.surface = w.surface := by
  have gathered := (gathered_reduce name documents).of_ok ok
  have leads : Leads Shape.SameSurface (t.refine { singular, throughOptionals := true } name)
      (t.refine { singular, throughOptionals := false } name) := by
    apply Refinement.leads_refine gathered
    · rfl
    · rfl
  exact leads u through

/-- A page that one document lacks. It is refined to a URL, or it stays a text. -/
theorem optionals_stay_apart_pages :
    let documents : List Json := [
      .object [("page", .string "https://a.example/x"), ("day", .string "2020-01-01")],
      .object [("day", .string "2020-01-02")]]
    let t : Shape := .object "visit" [("page", .optional (.text "https://a.example/x")),
      ("day", .text "2020-01-01")]
    let u : Shape := .object "Visit" [("page", .optional (.url "https://a.example/x")),
      ("day", .date .dateOnly)]
    reduce (seeds "visit" documents) = .ok t ∧
      t.refine { singular := dropLast, throughOptionals := true } "visit" = .ok u ∧
      ∃ w, t.refine { singular := dropLast, throughOptionals := false } "visit" = .ok w ∧
        u.surface = w.surface := by
  intro documents t u
  have ok : reduce (seeds "visit" documents) = .ok t := by
    simp [documents, t, seeds, ofJson, Shape.reduce_eq_ok, Shape.mergeOnto_cons, Except.bind,
      Except.map, Shape.object_merge_object, Shape.mergeFields_cons, Members.lookup_cons,
      Shape.text_merge_text, Shape.fieldsOnlyIn, Shape.orAbsent]
  have visit : typeName "visit" = "Visit" := by decide
  have through : t.refine { singular := dropLast, throughOptionals := true } "visit" = .ok u := by
    simp [t, u, Refinement.refine_object, Refinement.outcome_fields_cons,
      Refinement.outcome_fields_nil, Refinement.refine_text, Refinement.refine_optional,
      Literal.promoted_day, Literal.promoted_page, visit, Except.bind, Except.map, Shape.orAbsent]
  exact ⟨ok, through, optionals_stay_apart ok through⟩

end ShapeInference
