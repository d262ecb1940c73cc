import ShapeInference.Proofs.Merge.Kept
import ShapeInference.Shape.Refine

/-! The rules of refining, for proofs.

A refined shape is refined from its bare shape, or its bare shape was left as it is. For bare shapes
the relation `Refines` has a rule for every kind.
-/

set_option autoImplicit false

namespace ShapeInference

open Shape (Joins asValues bare bare_orAbsent mergeFields mergeFields_cons_eq_ok mergeFields_nil
  mergeOnto representative representative_eq)

def Literal.promoted (sample : String) : Shape :=
  if isUrl sample then .url sample
  else
    match dateFormat? sample with
    | some format => .date format
    | none => .text sample

theorem Literal.promoted_eq_url {sample literal : String}
    (same : promoted sample = .url literal) : literal = sample ∧ isUrl sample = true := by
  unfold promoted at same
  split at same
  · next accepted =>
    cases same
    exact ⟨rfl, accepted⟩
  · split at same <;> cases same

theorem Literal.promoted_eq_date {sample : String} {format : DateFormat}
    (same : promoted sample = .date format) : dateFormat? sample = some format := by
  unfold promoted at same
  split at same
  · cases same
  · split at same
    · next found =>
      cases same
      exact found
    · cases same

theorem Literal.eq_of_promoted_eq_text {x y : String} (same : promoted x = .text y) : y = x := by
  unfold promoted at same
  split at same
  · cases same
  · split at same
    · cases same
    · cases same
      rfl

theorem Literal.promoted_eq_text_iff {sample : String} :
    promoted sample = .text sample ↔ isUrl sample = false ∧ dateFormat? sample = none := by
  unfold promoted
  cases isUrl sample <;> cases dateFormat? sample <;> simp

theorem Literal.kind_promoted (sample : String) :
    (promoted sample).kind = .text ∨ (promoted sample).kind = .url ∨
      (promoted sample).kind = .date := by
  unfold promoted
  split
  · exact .inr (.inl rfl)
  · split
    · exact .inr (.inr rfl)
    · exact .inl rfl

theorem Literal.isLeaf_promoted (sample : String) : (promoted sample).isLeaf = true := by
  unfold promoted
  split
  · rfl
  · split <;> rfl

theorem Literal.promoted_of_dateFormat? {sample : String} {format : DateFormat}
    (noUrl : isUrl sample = false) (found : dateFormat? sample = some format) :
    promoted sample = .date format := by
  simp [promoted, noUrl, found]

theorem Literal.promoted_day : promoted "2020-01-01" = .date .dateOnly :=
  promoted_of_dateFormat? (by decide) (by decide)

theorem Literal.promoted_page : promoted "https://a.example/x" = .url "https://a.example/x" :=
  if_pos (by decide +kernel)

namespace Refinement

inductive Refines (r : Refinement) (name : String) : Shape → Shape → Prop where
  | empty : Refines r name .empty .empty
  | bool (sample : Bool) : Refines r name (.bool sample) (.bool sample)
  | number (kind : NumberKind) : Refines r name (.number kind) (.number kind)
  | text (sample : String) : Refines r name (.text sample) (Literal.promoted sample)
  | object (n : String) {fields refined : Fields} : (r.fields fields).outcome = .ok refined →
      Refines r name (.object n fields) (.object (typeName name) refined)
  | array (n : String) {values refined merged : List Shape} :
      (r.values (r.singular name) values).outcome = .ok refined →
      representative refined = .ok merged →
      Refines r name (.array n values) (.array (typeName name) merged)
  | url (literal : String) : Refines r name (.url literal) (.url literal)
  | date (format : DateFormat) : Refines r name (.date format) (.date format)

section
variable {r : Refinement} {name : String} {t u : Shape}

theorem refine_text (sample : String) :
    (Shape.text sample).refine r name = .ok (Literal.promoted sample) := by
  simp only [Shape.refine, node, text, Literal.promoted]
  split
  · rfl
  · cases Literal.dateFormat? sample <;> rfl

theorem refines_of_refine (plain : t.isOptional = false) (ok : t.refine r name = .ok u) :
    Refines r name t u := by
  cases t with
  | absent | optional => cases plain
  | empty => cases ok; exact .empty
  | bool sample => cases ok; exact .bool sample
  | number kind => cases ok; exact .number kind
  | url literal => cases ok; exact .url literal
  | date format => cases ok; exact .date format
  | text sample =>
    rw [refine_text] at ok
    cases ok
    exact .text sample
  | object n fields =>
    rw [refine_object] at ok
    cases refined : (r.fields fields).outcome with
    | error e => rw [refined] at ok; cases ok
    | ok fields =>
      rw [refined] at ok
      cases ok
      exact .object n refined
  | array n values =>
    rw [refine_array] at ok
    cases refined : (r.values (r.singular name) values).outcome with
    | error e => rw [refined] at ok; cases ok
    | ok values =>
      rw [refined, Except.bind] at ok
      cases merged : representative values with
      | error e => rw [merged] at ok; cases ok
      | ok values =>
        rw [merged] at ok
        cases ok
        exact .array n refined merged

theorem Refines.isOptional_eq_false (h : Refines r name t u) : u.isOptional = false := by
  cases h with
  | text sample =>
    unfold Shape.isOptional
    rcases Literal.kind_promoted sample with kind | kind | kind <;> rw [kind] <;> rfl
  | _ => rfl

/-- Below optionals a shape is refined, or it is left as it is. -/
theorem bare_of_refine (ok : t.refine r name = .ok u) :
    u.bare = t.bare ∨ Refines r name t.bare u.bare := by
  induction t generalizing u with
  | absent =>
    cases ok
    exact .inl rfl
  | optional inner ih =>
    rw [refine_optional] at ok
    split at ok
    · cases refined : inner.refine r name with
      | error e => rw [refined] at ok; cases ok
      | ok s =>
        rw [refined] at ok
        cases ok
        rw [bare_orAbsent]
        exact ih refined
    · cases ok
      exact .inl rfl
  | _ =>
    -- All other shapes are bare already, and so is what becomes of them.
    have refines := refines_of_refine rfl ok
    rw [Shape.bare_of_not_isOptional refines.isOptional_eq_false]
    exact .inr refines

theorem outcome_fields_nil : (r.fields []).outcome = .ok [] := rfl

theorem outcome_values_nil : (r.values name []).outcome = .ok [] := rfl

theorem outcome_fields (fields : Fields) :
    (r.fields fields).outcome = Members.traverse (fun key t => t.refine r key) fields := by
  induction fields with
  | nil => rfl
  | cons field rest ih => rw [outcome_fields_cons, ih, Members.traverse]

theorem fields_eq_map (image : String → Shape → Shape) {fields : Fields}
    (each : ∀ field ∈ fields, field.2.refine r field.1 = .ok (image field.1 field.2)) :
    (r.fields fields).outcome = .ok (fields.map fun field => (field.1, image field.1 field.2)) := by
  rw [outcome_fields]
  exact Members.traverse_eq_map image each

theorem lookup_refined {fields refined : Fields} {key : String}
    (ok : (r.fields fields).outcome = .ok refined) (found : refined.lookup key = some u) :
    ∃ t, fields.lookup key = some t ∧ t.refine r key = .ok u := by
  rw [outcome_fields] at ok
  exact (Members.lookup_traverse ok).1 found

theorem Refines.eq_object {n : String} {refined : Fields}
    (h : Refines r name t (.object n refined)) :
    ∃ m fields, t = .object m fields ∧ (r.fields fields).outcome = .ok refined := by
  generalize same : Shape.object n refined = u at h
  cases h with
  | text sample =>
    have kind := Literal.kind_promoted sample
    rw [← same] at kind
    simp [Shape.kind] at kind
  | @object m fields _ outcome =>
    cases same
    exact ⟨m, fields, rfl, outcome⟩
  | _ => cases same

theorem Refines.eq_url {literal : String} (h : Refines r name t (.url literal)) :
    t = .url literal ∨ t = .text literal ∧ Literal.isUrl literal = true := by
  generalize same : Shape.url literal = u at h
  cases h with
  | text sample =>
    obtain ⟨rfl, accepted⟩ := Literal.promoted_eq_url same.symm
    exact .inr ⟨rfl, accepted⟩
  | url =>
    cases same
    exact .inl rfl
  | _ => cases same

theorem Refines.eq_date {format : DateFormat} (h : Refines r name t (.date format)) :
    t = .date format ∨ ∃ sample, t = .text sample ∧ Literal.dateFormat? sample = some format := by
  generalize same : Shape.date format = u at h
  cases h with
  | text sample => exact .inr ⟨sample, rfl, Literal.promoted_eq_date same.symm⟩
  | date =>
    cases same
    exact .inl rfl
  | _ => cases same

/-! What comes out of refining fields and values. -/

theorem yields_fields {E : MergeError → Prop} {Q : String → Shape → Prop} {fields : Fields}
    (all : ∀ field ∈ fields, Yields E (Q field.1) (field.2.refine r field.1)) :
    Yields E (fun refined => ∀ field ∈ refined, Q field.1 field.2) (r.fields fields).outcome := by
  rw [outcome_fields]
  exact Members.yields_traverse all

theorem yields_values {E : MergeError → Prop} {Q : Shape → Prop} {values : List Shape}
    (all : ∀ value ∈ values, Yields E Q (value.refine r name)) :
    Yields E (fun refined => refined.length = values.length ∧ ∀ value ∈ refined, Q value)
      (r.values name values).outcome := by
  induction values with
  | nil => exact ⟨rfl, List.forall_mem_nil _⟩
  | cons value rest ih =>
    obtain ⟨first, later⟩ := List.forall_mem_cons.1 all
    rw [outcome_values_cons]
    refine first.bind fun u _ holds => (ih later).map fun refined rest => ⟨?_, ?_⟩
    · rw [List.length_cons, List.length_cons, rest.1]
    · exact List.forall_mem_cons.2 ⟨holds, rest.2⟩

theorem exists_refined_field {fields refined : Fields} {key : String}
    (ok : (r.fields fields).outcome = .ok refined) (inside : (key, t) ∈ fields) :
    ∃ u, (key, u) ∈ refined ∧ t.refine r key = .ok u := by
  rw [outcome_fields] at ok
  exact Members.exists_mem_traverse ok inside

theorem exists_refined_value {values refined : List Shape}
    (ok : (r.values name values).outcome = .ok refined) (inside : t ∈ values) :
    ∃ u ∈ refined, t.refine r name = .ok u := by
  induction values generalizing refined with
  | nil => cases inside
  | cons first rest ih =>
    rw [outcome_values_cons, bind_eq_ok] at ok
    obtain ⟨u, head, ok⟩ := ok
    obtain ⟨others, later, rfl⟩ := map_eq_ok.1 ok
    rcases List.mem_cons.1 inside with same | behind
    · subst same
      exact ⟨u, List.mem_cons_self, head⟩
    · obtain ⟨v, kept, made⟩ := ih later behind
      exact ⟨v, List.mem_cons_of_mem _ kept, made⟩

theorem unindexed_refine (r : Refinement) (name : String) (t : Shape) :
    Yields (fun e => e.sample = none) (fun _ => True) (t.refine r name) := by
  induction t generalizing name with
  | text sample =>
    rw [refine_text]
    trivial
  | optional inner ih =>
    rw [refine_optional]
    split
    · exact (ih name).map fun _ _ => trivial
    · trivial
  | object n fields ih =>
    have members := yields_fields (Q := fun _ _ => True) fun field member =>
      ih field member field.1
    rw [refine_object]
    exact members.map fun _ _ => trivial
  | array n values ih =>
    have elements := yields_values fun value member => ih value member (r.singular name)
    have merged := elements.bind fun refined _ _ =>
      Shape.kept_unindexed.representative (i := ()) fun value (_ : value ∈ refined) => trivial
    rw [refine_array]
    exact merged.map fun _ _ => trivial
  | _ => trivial

theorem sample_of_refine {e : MergeError} (failed : t.refine r name = .error e) :
    e.sample = none :=
  (unindexed_refine r name t).of_error failed

/-! Merging first, and refining then. -/

theorem refine_orAbsent (through : r.throughOptionals = true) (t : Shape) :
    t.orAbsent.refine r name = (t.refine r name).map Shape.orAbsent := by
  cases t with
  | empty => rfl
  | absent => rfl
  | optional inner =>
    rw [Shape.orAbsent, refine_optional, if_pos through]
    cases inner.refine r name with
    | error e => rfl
    | ok u => simp [Except.map]
  | _ => exact (refine_optional r name _).trans (if_pos through)

theorem representative_singleton (t : Shape) : representative [t] = .ok t.asValues := by
  rw [representative_eq, Shape.mergeOnto_cons, Shape.empty_merge, Except.bind, Shape.mergeOnto_nil,
    Except.map]

theorem refine_singleton (n : String) (t : Shape) : (Shape.array n [t]).refine r name =
    (t.refine r (r.singular name)).map fun u => .array (typeName name) u.asValues := by
  rw [refine_array, outcome_values_cons, outcome_values_nil]
  cases t.refine r (r.singular name) with
  | error e => rfl
  | ok u =>
    rw [Except.bind, Except.map, Except.bind, representative_singleton]
    rfl

theorem refine_asValues (n : String) (t : Shape) : (Shape.array n t.asValues).refine r name =
    (t.refine r (r.singular name)).map fun u => .array (typeName name) u.asValues := by
  by_cases nothing : t.kind = .empty
  · have values : Shape.empty.asValues = [] := rfl
    rw [Shape.eq_empty_of_kind nothing, values, refine_array, outcome_values_nil, Except.bind,
      representative_eq, Shape.mergeOnto_nil]
    rfl
  · rw [asValues, if_neg nothing, refine_singleton]

/-- The name that an array had is not used. -/
theorem refine_array_congr (n m : String) (values : List Shape) :
    (Shape.array n values).refine r name = (Shape.array m values).refine r name := by
  rw [refine_array, refine_array]

theorem bind_refine_asValues (n : String) (x : Except MergeError Shape) :
    (x.map fun t => Shape.array n t.asValues).bind (fun t => t.refine r name) =
      (x.bind fun t => t.refine r (r.singular name)).map fun u =>
        .array (typeName name) u.asValues := by
  cases x with
  | error e => rfl
  | ok t => exact refine_asValues n t

theorem bind_refine_object (n : String) (x : Except MergeError Fields) :
    (x.map (Shape.object n)).bind (fun t => t.refine r name) =
      (x.bind fun fields => (r.fields fields).outcome).map (Shape.object (typeName name)) := by
  cases x with
  | error e => rfl
  | ok fields => exact refine_object r name n fields

theorem refine_array_mergeOnto (n : String) (values : List Shape) :
    (Shape.array n values).refine r name =
      ((r.values (r.singular name) values).outcome.bind (mergeOnto .empty)).map fun u =>
        .array (typeName name) u.asValues := by
  rw [refine_array]
  cases (r.values (r.singular name) values).outcome with
  | error e => rfl
  | ok refined =>
    rw [Except.bind, Except.bind, representative_eq]
    cases mergeOnto .empty refined <;> rfl

theorem yields_refine_distinct (r : Refinement) (name : String) {t : Shape} (distinct : t.Distinct) :
    Yields (fun _ => True) Shape.Distinct (t.refine r name) := by
  induction t generalizing name with
  | text sample =>
    rw [refine_text]
    exact Shape.distinct_of_isLeaf (Literal.isLeaf_promoted sample)
  | optional inner ih =>
    rw [refine_optional]
    split
    · exact (ih name (Shape.distinct_optional.1 distinct)).map fun _ => Shape.Distinct.orAbsent
    · exact distinct
  | object n fields ih =>
    obtain ⟨once, below⟩ := Shape.distinct_object.1 distinct
    have members := yields_fields (Q := fun _ => Shape.Distinct) fun field member =>
      ih field member field.1 (below field member)
    rw [refine_object]
    cases outcome : (r.fields fields).outcome with
    | error e => trivial
    | ok refined =>
      have keys : Members.keys refined = Members.keys fields := by
        rw [outcome_fields] at outcome
        exact Members.keys_traverse outcome
      exact Shape.distinct_object.2 ⟨keys ▸ once, members.of_ok outcome⟩
  | array n values ih =>
    have elements := yields_values fun value member =>
      ih value member (r.singular name) (Shape.distinct_array.1 distinct value member)
    have merged := elements.bind fun refined _ all => Shape.distinct_mergeOnto all.2
    rw [refine_array_mergeOnto]
    refine merged.map fun u holds => Shape.distinct_array.2 fun value member => ?_
    rw [Shape.mem_asValues member]
    exact holds
  | _ => exact distinct

theorem same_fields {fields right : Fields} (each : ∀ field ∈ fields, ∀ u,
      (∃ t, Joins right field.1 field.2 t ∧ t.refine r field.1 = .ok u) ↔
        field.2.refine r field.1 = .ok u) :
    Same ((mergeFields fields right).bind fun shared => (r.fields shared).outcome)
      (r.fields fields).outcome := by
  induction fields with
  | nil =>
    rw [mergeFields_nil]
    exact .refl _
  | cons field rest ih =>
    obtain ⟨key, t⟩ := field
    obtain ⟨first, later⟩ := List.forall_mem_cons.1 each
    intro refined
    rw [outcome_fields_cons]
    simp only [bind_eq_ok, map_eq_ok, mergeFields_cons_eq_ok, ← first, ← ih later _]
    constructor
    · rintro ⟨_, ⟨t', shared, joins, merged, rfl⟩, ok⟩
      rw [outcome_fields_cons, bind_eq_ok] at ok
      obtain ⟨u, inner, ok⟩ := ok
      obtain ⟨others, outer, same⟩ := map_eq_ok.1 ok
      exact ⟨u, ⟨t', joins, inner⟩, others, ⟨shared, merged, outer⟩, same⟩
    · rintro ⟨u, ⟨t', joins, inner⟩, others, ⟨shared, merged, outer⟩, same⟩
      refine ⟨_, ⟨t', shared, joins, merged, rfl⟩, ?_⟩
      rw [outcome_fields_cons, inner, Except.bind, outer, Except.map, same]

end

end Refinement

end ShapeInference
