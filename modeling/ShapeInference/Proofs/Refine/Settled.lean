import ShapeInference.Proofs.Merge.Kept
import ShapeInference.Proofs.Refine.Rules

/-! What refining makes of a shape, and that it does so at once.

A shape is settled under a name if it has all that refining gives: names that follow the path,
arrays with a single value at most, and no text that is a URL or a date. Merging settled shapes
keeps them settled, though it puts optionals around fields and pools elements. So whatever refining
gives is settled, and a settled shape is one that refining does not change.
-/

set_option autoImplicit false

namespace ShapeInference

open Shape (asValues)

namespace Refinement

/-- What stands below an optional counts only for a refinement that goes through optionals. -/
inductive Settled (r : Refinement) : String → Shape → Prop where
  | leaf {name : String} {t : Shape} : t.isLeaf = true → t.kind ≠ .text → Settled r name t
  | text {name sample : String} : Literal.promoted sample = .text sample →
      Settled r name (.text sample)
  | unvisited {name : String} {t : Shape} : r.throughOptionals = false →
      Settled r name (.optional t)
  | optional {name : String} {t : Shape} : t.isOptional = false → t.kind ≠ .empty →
      Settled r name t → Settled r name (.optional t)
  | object {name : String} {fields : Fields} : (∀ field ∈ fields, Settled r field.1 field.2) →
      Settled r name (.object (typeName name) fields)
  | array {name : String} {t : Shape} : Settled r (r.singular name) t →
      Settled r name (.array (typeName name) t.asValues)

namespace Settled

variable {r : Refinement} {name n : String} {t : Shape}

theorem empty : Settled r name .empty := .leaf rfl (by simp [Shape.kind])

theorem text_iff {sample : String} : Settled r name (.text sample) ↔
    Literal.promoted sample = .text sample := by
  constructor
  · intro h
    cases h with
    | leaf _ noText => exact absurd rfl noText
    | text kept => exact kept
  · exact .text

theorem optional_iff : Settled r name (.optional t) ↔
    (r.throughOptionals = true → t.isOptional = false ∧ t.kind ≠ .empty ∧ Settled r name t) := by
  constructor
  · intro h through
    cases h with
    | leaf leaf => cases leaf
    | unvisited off => rw [through] at off; cases off
    | optional plain seen inner => exact ⟨plain, seen, inner⟩
  · intro h
    cases through : r.throughOptionals with
    | false => exact .unvisited through
    | true =>
      obtain ⟨plain, seen, inner⟩ := h through
      exact .optional plain seen inner

theorem object_iff {fields : Fields} : Settled r name (.object n fields) ↔
    n = typeName name ∧ ∀ field ∈ fields, Settled r field.1 field.2 := by
  constructor
  · intro h
    cases h with
    | leaf leaf => cases leaf
    | object all => exact ⟨rfl, all⟩
  · rintro ⟨rfl, all⟩
    exact .object all

theorem array_iff {values : List Shape} : Settled r name (.array n values) ↔
    n = typeName name ∧ ∃ t : Shape, values = t.asValues ∧ Settled r (r.singular name) t := by
  constructor
  · intro h
    cases h with
    | leaf leaf => cases leaf
    | array inner => exact ⟨rfl, _, rfl, inner⟩
  · rintro ⟨rfl, t, rfl, inner⟩
    exact .array inner

theorem value {values : List Shape} (h : Settled r name (.array n values)) :
    ∀ value ∈ values, Settled r (r.singular name) value := by
  obtain ⟨_, t, rfl, inner⟩ := array_iff.1 h
  intro value member
  rw [Shape.mem_asValues member]
  exact inner

theorem orAbsent (inner : r.throughOptionals = true → Settled r name t) :
    Settled r name t.orAbsent := by
  have absent : Settled r name .absent := .leaf rfl (by simp [Shape.kind])
  cases t with
  | empty | absent => exact absent
  | optional t => exact optional_iff.2 fun through => optional_iff.1 (inner through) through
  | _ => exact optional_iff.2 fun through => ⟨rfl, by simp [Shape.kind], inner through⟩

theorem inner (h : Settled r name (.optional t)) (through : r.throughOptionals = true) :
    Settled r name t :=
  (optional_iff.1 h through).2.2

theorem unwrapped (h : Settled r name t) (through : r.throughOptionals = true) :
    Settled r name t.unwrapped := by
  cases t with
  | optional t => exact h.inner through
  | _ => exact h

end Settled

variable {r : Refinement} {name : String} {t u : Shape}

/-! Merging. -/

theorem yields_orAbsent {x : Except MergeError Shape} (inner : r.throughOptionals = true →
      Yields (fun _ => True) (Settled r name) x) :
    Yields (fun _ => True) (Settled r name) (x.map Shape.orAbsent) := by
  cases x with
  | error e => trivial
  | ok t => exact .orAbsent inner

theorem settled_leaves {a b : Shape} (left : a.isLeaf = true) (right : b.isLeaf = true)
    (same : a.kind = b.kind) (ha : Settled r name a) (hb : Settled r name b) :
    Yields (fun _ => True) (Settled r name) (a.merge b) := by
  by_cases text : a.kind = .text
  · cases a with
    | text x =>
      cases b with
      | text y =>
        rw [Shape.text_merge_text]
        show Settled r name (.text (if x = "" then y else x))
        split
        · exact hb
        · exact ha
      | _ => cases same
    | _ => cases text
  · have merged := Shape.merge_leaves left right same
    cases outcome : a.merge b with
    | error e => trivial
    | ok t =>
      obtain ⟨leaf, kind⟩ := merged.of_ok outcome
      exact .leaf leaf (kind ▸ text)

theorem merges_settled (r : Refinement) : Shape.MergeCalls fun a b => ∀ name, Settled r name a →
    Settled r name b → Yields (fun _ => True) (Settled r name) (a.merge b) where
  emptyLeft b name _ hb := by
    rw [Shape.empty_merge]
    exact hb
  emptyRight a name ha _ := by
    rw [Shape.merge_empty]
    exact ha
  absentLeft b name _ hb := by
    rw [Shape.absent_merge_eq]
    exact .orAbsent hb.unwrapped
  absentRight a name ha _ := by
    rw [Shape.merge_absent_eq]
    exact .orAbsent ha.unwrapped
  optionals a b both name ha hb := by
    rw [Shape.optional_merge_optional]
    exact yields_orAbsent fun through => both name (ha.inner through) (hb.inner through)
  optionalLeft a b plain seen both name ha hb := by
    rw [Shape.optional_merge_of_seen plain seen]
    exact yields_orAbsent fun through => both name (ha.inner through) hb
  optionalRight a b plain seen both name ha hb := by
    rw [Shape.merge_optional_of_seen plain seen]
    exact yields_orAbsent fun through => both name (hb.inner through) ha
  different a b plainLeft plainRight seenLeft seenRight different name _ _ := by
    rw [Shape.merge_of_kind_ne plainLeft plainRight seenLeft seenRight different]
    trivial
  leaves a b left right same name := settled_leaves left right same
  object n m left right both name ha hb := by
    obtain ⟨own, inLeft⟩ := Settled.object_iff.1 ha
    obtain ⟨_, inRight⟩ := Settled.object_iff.1 hb
    rw [Shape.object_merge_object]
    split
    · have fields := Shape.yields_merged (E := fun _ => True) (Q := Settled r)
        (fun key a member => .orAbsent fun _ => inLeft _ member)
        (fun key b member => .orAbsent fun _ => inRight _ member)
        fun key a b memberLeft found => both key a b memberLeft found key (inLeft _ memberLeft)
          (inRight _ (Members.mem_of_lookup found))
      exact fields.map fun shared all => Settled.object_iff.2 ⟨own, all⟩
    · trivial
  array n m left right pooled name ha hb := by
    rw [Shape.array_merge_array]
    split
    · have inPool := List.forall_mem_append.2 ⟨ha.value, hb.value⟩
      have last : Yields (fun _ => True) (Settled r (r.singular name))
          (Shape.mergeOnto .empty (left ++ right)) := by
        apply Shape.yields_mergeOnto .empty
        intro front value back acc split reached holds
        exact pooled front value back acc split reached _ holds (inPool value (by simp [split]))
      rw [Shape.representative_eq]
      cases merged : Shape.mergeOnto .empty (left ++ right) with
      | error e => trivial
      | ok t => exact Settled.array_iff.2 ⟨(Settled.array_iff.1 ha).1, t, rfl, last.of_ok merged⟩
    · trivial

theorem yields_mergeOnto_settled {values : List Shape}
    (all : ∀ value ∈ values, Settled r name value) :
    Yields (fun _ => True) (Settled r name) (Shape.mergeOnto .empty values) := by
  apply Shape.yields_mergeOnto .empty
  intro front value back acc split _ holds
  exact (merges_settled r).all acc value name holds (all value (by simp [split]))

/-! Refining. -/

theorem settled_promoted (sample : String) : Settled r name (Literal.promoted sample) := by
  cases same : Literal.promoted sample with
  | text kept =>
    cases Literal.eq_of_promoted_eq_text same
    exact .text same
  | url | date => exact .leaf rfl (by simp [Shape.kind])
  | _ =>
    have kind := Literal.kind_promoted sample
    rw [same] at kind
    simp [Shape.kind] at kind

theorem yields_refine_settled (r : Refinement) (name : String) (t : Shape) :
    Yields (fun _ => True) (Settled r name) (t.refine r name) := by
  induction t generalizing name with
  | text sample =>
    rw [refine_text]
    exact settled_promoted sample
  | optional inner ih =>
    rw [refine_optional]
    split
    · exact yields_orAbsent fun _ => ih name
    · next off => exact .unvisited (Bool.eq_false_iff.2 off)
  | object n fields ih =>
    rw [refine_object]
    exact (yields_fields fun field member => ih field member field.1).map fun _ => .object
  | array n values ih =>
    have elements := yields_values fun value member => ih value member (r.singular name)
    rw [refine_array_mergeOnto]
    refine Yields.map ?_ fun _ => .array
    exact elements.bind fun refined _ all => yields_mergeOnto_settled all.2
  | _ => exact .leaf rfl (by simp [Shape.kind])

theorem settled_of_refine (ok : t.refine r name = .ok u) : Settled r name u :=
  (yields_refine_settled r name t).of_ok ok

theorem fields_eq_self {fields : Fields}
    (each : ∀ field ∈ fields, field.2.refine r field.1 = .ok field.2) :
    (r.fields fields).outcome = .ok fields := by
  have same := fields_eq_map (fun _ t => t) each
  rwa [List.map_id'] at same

theorem Settled.refine_eq (h : Settled r name t) : t.refine r name = .ok t := by
  induction h with
  | @leaf _ t leaf noText =>
    cases t with
    | text => exact absurd rfl noText
    | optional | object | array => cases leaf
    | _ => rfl
  | text kept => rw [refine_text, kept]
  | unvisited off => rw [refine_optional, off]; rfl
  | optional plain seen _ ih =>
    rw [refine_optional, ih, Except.map, Shape.orAbsent_of_seen plain seen, ite_self]
  | object _ ih => rw [refine_object, fields_eq_self ih, Except.map]
  | array _ ih => rw [refine_asValues, ih, Except.map]

/-! Two visits, each with a field that the other lacks. -/

def visits : Shape :=
  .array "visits" [
    .object "visits" [("day", .text "2020-01-01"), ("tags", .array "tags" [.text "x", .text ""])],
    .object "visits" [("day", .text "2020-01-02"),
      ("page", .optional (.text "https://a.example/x"))]]

def refinedVisits : Shape :=
  .array "Visits" [.object "Visit" [("day", .date .dateOnly),
    ("tags", .optional (.array "Tags" [.text "x"])),
    ("page", .optional (.url "https://a.example/x"))]]

theorem refine_visits :
    visits.refine { throughOptionals := true } "visits" = .ok refinedVisits := by
  have day : Literal.promoted "2020-01-02" = .date .dateOnly :=
    Literal.promoted_of_dateFormat? (by decide) (by decide)
  have tag : Literal.promoted "x" = .text "x" :=
    Literal.promoted_eq_text_iff.2 ⟨by decide, by decide⟩
  have blank : Literal.promoted "" = .text "" :=
    Literal.promoted_eq_text_iff.2 ⟨by decide, by decide⟩
  have element : dropLast "visits" = "visit" := by decide
  have names : typeName "visits" = "Visits" ∧ typeName "visit" = "Visit" ∧
      typeName "tags" = "Tags" := by decide
  simp [visits, refinedVisits, refine_array_mergeOnto, outcome_values_cons, outcome_values_nil,
    refine_object, outcome_fields_cons, outcome_fields_nil, refine_text, refine_optional,
    Literal.promoted_day, Literal.promoted_page, day, tag, blank, element, names, Except.bind,
    Except.map, Shape.mergeOnto_cons, Shape.object_merge_object, Shape.mergeFields_cons,
    Members.lookup_cons, Shape.date_merge_date, Shape.text_merge_text, Shape.fieldsOnlyIn,
    Shape.orAbsent, asValues, Shape.kind]

/-! Refining once more. -/

/-- Refining a refined shape succeeds and changes nothing. -/
theorem refine_refined (ok : t.refine r name = .ok u) : u.refine r name = .ok u :=
  (settled_of_refine ok).refine_eq

/-- Both visits are one shape by then, with optionals that the first refinement put in. -/
theorem refine_refined_visits :
    visits.refine { throughOptionals := true } "visits" = .ok refinedVisits ∧
      refinedVisits.refine { throughOptionals := true } "visits" = .ok refinedVisits :=
  ⟨refine_visits, refine_refined refine_visits⟩

end Refinement

end ShapeInference
