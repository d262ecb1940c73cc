import ShapeInference.Proofs.Refine.Settled

/-! The nodes that refining visits, and what it makes of them.

The path of a node gives it a name: a field is named after its key, and the value of an array by the
singular of the array's name. In a refined shape every visited node is settled under its name, so
that the facts about single nodes are read off from there.
-/

set_option autoImplicit false

namespace ShapeInference

/-- An array has a single value at most, which is not empty, and a text is no URL and no date. -/
def Shape.Normal : Shape → Prop
  | .array _ values => values.length ≤ 1 ∧ .empty ∉ values
  | .text sample => Literal.isUrl sample = false ∧ Literal.dateFormat? sample = none
  | _ => True

namespace Refinement

mutual

/-- The nodes of a shape with their names, as far as the refinement goes: every node before its
contents, and below an optional only if optionals are gone through. -/
def places (r : Refinement) (name : String) : Shape → List (String × Shape)
  | .optional t => (name, .optional t) :: if r.throughOptionals then r.places name t else []
  | .object n fields => (name, .object n fields) :: r.fieldPlaces fields
  | .array n values => (name, .array n values) :: r.valuePlaces (r.singular name) values
  | t => [(name, t)]

def fieldPlaces (r : Refinement) : List (String × Shape) → List (String × Shape)
  | [] => []
  | (key, t) :: rest => r.places key t ++ r.fieldPlaces rest

def valuePlaces (r : Refinement) (name : String) : List Shape → List (String × Shape)
  | [] => []
  | t :: rest => r.places name t ++ r.valuePlaces name rest

end

section
variable {r : Refinement} {name : String} {place : String × Shape}

theorem mem_fieldPlaces {fields : Fields} :
    place ∈ r.fieldPlaces fields ↔ ∃ field ∈ fields, place ∈ r.places field.1 field.2 := by
  induction fields with
  | nil => simp [fieldPlaces]
  | cons field rest ih => simp [fieldPlaces, ih]

theorem mem_valuePlaces {values : List Shape} :
    place ∈ r.valuePlaces name values ↔ ∃ value ∈ values, place ∈ r.places name value := by
  induction values with
  | nil => simp [valuePlaces]
  | cons value rest ih => simp [valuePlaces, ih]

/-- A refinement that goes through optionals visits all nodes. -/
theorem map_places (through : r.throughOptionals = true) (name : String) (t : Shape) :
    (r.places name t).map Prod.snd = t.nodes := by
  induction t generalizing name with
  | optional inner ih => simp [places, Shape.nodes, through, ih]
  | object n fields ih =>
    have below : (r.fieldPlaces fields).map Prod.snd = Shape.fieldNodes fields := by
      induction fields with
      | nil => rfl
      | cons field rest each =>
        obtain ⟨first, later⟩ := List.forall_mem_cons.1 ih
        rw [fieldPlaces, List.map_append, first, each later, Shape.fieldNodes]
    rw [places, List.map_cons, below, Shape.nodes]
  | array n values ih =>
    have below (name : String) : (r.valuePlaces name values).map Prod.snd =
        Shape.valueNodes values := by
      induction values with
      | nil => rfl
      | cons value rest each =>
        obtain ⟨first, later⟩ := List.forall_mem_cons.1 ih
        rw [valuePlaces, List.map_append, first, each later, Shape.valueNodes]
    rw [places, List.map_cons, below, Shape.nodes]
  | _ => rfl

end

variable {r : Refinement} {name : String} {t u : Shape}

theorem Settled.places (h : Settled r name t) :
    ∀ place ∈ r.places name t, Settled r place.1 place.2 := by
  induction t generalizing name with
  | optional inner ih =>
    refine List.forall_mem_cons.2 ⟨h, fun place member => ?_⟩
    split at member
    · next through => exact ih (h.inner through) place member
    · cases member
  | object n fields ih =>
    refine List.forall_mem_cons.2 ⟨h, fun place member => ?_⟩
    obtain ⟨field, inside, below⟩ := mem_fieldPlaces.1 member
    exact ih field inside ((object_iff.1 h).2 field inside) place below
  | array n values ih =>
    refine List.forall_mem_cons.2 ⟨h, fun place member => ?_⟩
    obtain ⟨value, inside, below⟩ := mem_valuePlaces.1 member
    exact ih value inside (h.value value inside) place below
  | _ =>
    intro place member
    rw [List.mem_singleton.1 member]
    exact h

theorem settled_place (ok : t.refine r name = .ok u) :
    ∀ place ∈ r.places name u, Settled r place.1 place.2 :=
  (settled_of_refine ok).places

/-! Normal forms. -/

theorem Settled.normal (h : Settled r name t) : t.Normal := by
  cases t with
  | text sample => exact Literal.promoted_eq_text_iff.1 (text_iff.1 h)
  | array n values =>
    obtain ⟨_, value, rfl, _⟩ := array_iff.1 h
    refine ⟨Shape.length_asValues_le value, fun nothing => ?_⟩
    cases Shape.mem_asValues nothing
    cases nothing
  | _ => trivial

theorem Settled.collapsed (h : Settled r name t) (through : r.throughOptionals = true) :
    t.Collapsed := by
  cases t with
  | optional inner =>
    obtain ⟨plain, seen, _⟩ := optional_iff.1 h through
    exact ⟨seen, of_decide_eq_false plain⟩
  | _ => trivial

/-- Refining leaves no visited node out of normal form. A refinement that goes through optionals
visits all nodes and leaves the shape well formed. -/
theorem normal_of_refine (ok : t.refine r name = .ok u) :
    (∀ place ∈ r.places name u, place.2.Normal) ∧
    (r.throughOptionals = true → u.Everywhere Shape.Normal ∧ u.WellFormed) := by
  have settled := settled_place ok
  refine ⟨fun place member => (settled place member).normal, fun through => ?_⟩
  have visited : ∀ node ∈ u.nodes, node.Normal ∧ node.Collapsed := by
    rw [← map_places through name u, List.forall_mem_map]
    intro place member
    exact ⟨(settled place member).normal, (settled place member).collapsed through⟩
  exact ⟨fun node member => (visited node member).1, fun node member => (visited node member).2⟩

/-- The tags, of which there were two, stand below an optional that refining put in. -/
theorem normal_of_refine_visits :
    visits.refine { throughOptionals := true } "visits" = .ok refinedVisits ∧
      refinedVisits.Everywhere Shape.Normal ∧ refinedVisits.WellFormed :=
  ⟨refine_visits, (normal_of_refine refine_visits).2 rfl⟩

/-! Names. -/

/-- Every visited object and array is named after its path. A refinement that goes through optionals
visits all of them. -/
theorem named_by_path (ok : t.refine r name = .ok u) :
    (∀ key n fields, (key, .object n fields) ∈ r.places name u → n = typeName key) ∧
    (∀ key n values, (key, .array n values) ∈ r.places name u → n = typeName key) ∧
    (r.throughOptionals = true → (r.places name u).map Prod.snd = u.nodes) := by
  have settled := settled_place ok
  refine ⟨fun key n fields member => ?_, fun key n values member => ?_, fun through => ?_⟩
  · exact (Settled.object_iff.1 (settled _ member)).1
  · exact (Settled.array_iff.1 (settled _ member)).1
  · exact map_places through name u

/-- The object for a single visit has the singular name. -/
theorem named_by_path_visits :
    visits.refine { throughOptionals := true } "visits" = .ok refinedVisits ∧
      ∃ fields, ("visit", .object "Visit" fields) ∈
        places { throughOptionals := true } "visits" refinedVisits ∧
        "Visit" = typeName "visit" := by
  have element : ({ throughOptionals := true } : Refinement).singular "visits" = "visit" := by
    decide
  have inside : ∃ fields, ("visit", .object "Visit" fields) ∈
      places { throughOptionals := true } "visits" refinedVisits := by
    rw [refinedVisits, places, valuePlaces, places, element]
    exact ⟨_, List.mem_cons_of_mem _ List.mem_cons_self⟩
  obtain ⟨fields, member⟩ := inside
  exact ⟨refine_visits, fields, member, (named_by_path refine_visits).1 _ _ _ member⟩

end Refinement

end ShapeInference
