import ShapeInference.Proofs.Documents.Seed
import ShapeInference.Proofs.Merge.Kept
import ShapeInference.Proofs.Refine.Rules

/-! Names never clash when shapes are inferred from documents.

The place of a node fixes its name: the key it stands under, or the name of its array, before
refining, and the type name of those afterwards. Refining leaves the names below optionals as they
are, so refined and raw names could meet in an array that is merged once more. Such an array holds
a single value, which meets no other one, or it is an array of one document, and then none of its
elements is an optional with something below.
-/

set_option autoImplicit false

namespace ShapeInference

namespace Shape

/-- Every object and array is named after its key by `label`. The elements of an array stand under
the key that `element` makes of the key of the array. -/
inductive Named (label element : String → String) : String → Shape → Prop where
  | leaf {key : String} {t : Shape} : t.isLeaf = true → Named label element key t
  | optional {key : String} {t : Shape} : Named label element key t →
      Named label element key (.optional t)
  | object {key : String} {fields : Fields} :
      (∀ field ∈ fields, Named label element field.1 field.2) →
      Named label element key (.object (label key) fields)
  | array {key : String} {values : List Shape} :
      (∀ value ∈ values, Named label element (element key) value) →
      Named label element key (.array (label key) values)

namespace Named

variable {label element : String → String} {key n : String}

theorem object_iff {fields : Fields} : Named label element key (.object n fields) ↔
    n = label key ∧ ∀ field ∈ fields, Named label element field.1 field.2 := by
  constructor
  · intro h
    cases h with
    | leaf leaf => cases leaf
    | object all => exact ⟨rfl, all⟩
  · rintro ⟨rfl, all⟩
    exact .object all

theorem array_iff {values : List Shape} : Named label element key (.array n values) ↔
    n = label key ∧ ∀ value ∈ values, Named label element (element key) value := by
  constructor
  · intro h
    cases h with
    | leaf leaf => cases leaf
    | array all => exact ⟨rfl, all⟩
  · rintro ⟨rfl, all⟩
    exact .array all

theorem orAbsent {t : Shape} (h : Named label element key t) :
    Named label element key t.orAbsent := by
  cases t with
  | empty => exact .leaf rfl
  | absent | optional => exact h
  | _ => exact .optional h

end Named

end Shape

def MergeError.IsKinds (e : MergeError) : Prop := ∃ left right, e.clash = .kinds left right

namespace Shape

/-- Nodes at one place have one name, so only their kinds can keep them from merging. -/
theorem kept_named (label element : String → String) :
    Kept (fun _ key => key) element MergeError.IsKinds (Named label element) where
  kinds left right := ⟨left, right, rfl⟩
  leaf _ _ leaf := .leaf leaf
  inner key t h := by
    cases h with
    | leaf leaf => cases leaf
    | optional inside => exact inside
  orAbsent _ _ h := h.orAbsent
  objectNames key n m left right hl hr different :=
    absurd ((Named.object_iff.1 hl).1.trans (Named.object_iff.1 hr).1.symm) different
  member key n fields k t h inside := (Named.object_iff.1 h).2 _ inside
  object key n left fields h all := Named.object_iff.2 ⟨(Named.object_iff.1 h).1, all⟩
  arrayNames key n m left right hl hr different :=
    absurd ((Named.array_iff.1 hl).1.trans (Named.array_iff.1 hr).1.symm) different
  value key n values t h inside := (Named.array_iff.1 h).2 t inside
  array key n values t h ht := by
    refine Named.array_iff.2 ⟨(Named.array_iff.1 h).1, fun value member => ?_⟩
    rw [mem_asValues member]
    exact ht

theorem named_ofJson (name : String) (v : Json) : Named id id name (ofJson name v) := by
  induction v generalizing name with
  | array elements ih =>
    rw [ofJson_array, Named.array_iff, List.forall_mem_map]
    exact ⟨rfl, fun element inside => ih element inside name⟩
  | object members ih =>
    rw [ofJson_object, Named.object_iff, List.forall_mem_map]
    exact ⟨rfl, fun member inside => ih member inside member.1⟩
  | _ => exact .leaf rfl

/-! Arrays of merged shapes. -/

/-- An array holds a single value or none, or the elements of one array of a document. -/
def Gathered : Shape → Prop
  | .array _ values =>
    values.length ≤ 1 ∨
      ∃ (name : String) (elements : List Json), values = elements.map (ofJson name)
  | _ => True

theorem kept_gathered :
    Kept (fun _ _ => ()) id (fun _ => True) fun _ t => t.Everywhere Gathered := by
  apply kept_everywhere
  · intro t leaf
    cases t with
    | array => cases leaf
    | _ => trivial
  · intro t
    trivial
  · intro n left right _
    trivial
  · intro n values t _
    exact .inl (length_asValues_le t)

theorem gathered_ofJson (name : String) (v : Json) : (ofJson name v).Everywhere Gathered := by
  induction v generalizing name with
  | array elements ih =>
    rw [ofJson_array, everywhere_array, List.forall_mem_map]
    exact ⟨.inr ⟨name, elements, rfl⟩, fun element inside => ih element inside name⟩
  | object members ih =>
    rw [ofJson_object, everywhere_object, List.forall_mem_map]
    exact ⟨trivial, fun member inside => ih member inside member.1⟩
  | _ =>
    rw [ofJson]
    exact (everywhere_leaf rfl).2 trivial

end Shape

/-! What comes out of refining. -/

namespace Refinement

open Shape (Gathered Named kept_named ofJson ofJson_array ofJson_object representative
  representative_eq)

variable {r : Refinement} {name : String} {E : MergeError → Prop}

theorem named_promoted (label element : String → String) (sample : String) :
    Named label element name (Literal.promoted sample) :=
  .leaf (Literal.isLeaf_promoted sample)

/-- Below the shape of one document no optional keeps its old names. -/
theorem yields_refine_ofJson (r : Refinement) (n name : String) (v : Json) :
    Yields MergeError.IsKinds (Named typeName r.singular name) ((ofJson n v).refine r name) := by
  induction v generalizing n name with
  | string sample =>
    rw [ofJson, refine_text]
    exact named_promoted typeName r.singular sample
  | array elements ih =>
    have all : ∀ value ∈ elements.map (ofJson n), Yields MergeError.IsKinds
        (Named typeName r.singular (r.singular name)) (value.refine r (r.singular name)) := by
      rw [List.forall_mem_map]
      intro element inside
      exact ih element inside n (r.singular name)
    -- All refined elements have the name of one place, so merging them keeps it.
    have merged : Yields MergeError.IsKinds
        (fun values => ∀ value ∈ values, Named typeName r.singular (r.singular name) value)
        ((r.values (r.singular name) (elements.map (ofJson n))).outcome.bind representative) := by
      apply (yields_values all).bind
      intro refined _ holds
      exact (kept_named typeName r.singular).representative holds.2
    rw [ofJson_array, refine_array]
    exact merged.map fun _ => .array
  | object members ih =>
    have all : ∀ field ∈ members.map fun member => (member.1, ofJson member.1 member.2),
        Yields MergeError.IsKinds (Named typeName r.singular field.1)
          (field.2.refine r field.1) := by
      rw [List.forall_mem_map]
      intro member inside
      exact ih member inside member.1 member.1
    rw [ofJson_object, refine_object]
    exact (yields_fields all).map fun _ => .object
  | _ => exact .leaf rfl

theorem yields_representative {values : List Shape} (few : values.length ≤ 1) :
    Yields E (fun _ => True) (representative values) := by
  rcases Shape.nil_or_singleton few with rfl | ⟨value, rfl⟩
  · rw [representative_eq, Shape.mergeOnto_nil]
    trivial
  · rw [representative_singleton]
    trivial

theorem yields_refine_gathered (r : Refinement) (name : String) {t : Shape}
    (gathered : t.Everywhere Gathered) :
    Yields MergeError.IsKinds (fun _ => True) (t.refine r name) := by
  induction t generalizing name with
  | text sample =>
    rw [refine_text]
    trivial
  | optional inner ih =>
    rw [refine_optional]
    split
    · exact (ih name (Shape.everywhere_optional.1 gathered).2).map fun _ _ => trivial
    · trivial
  | object n fields ih =>
    have all : ∀ field ∈ fields, Yields MergeError.IsKinds (fun _ => True)
        (field.2.refine r field.1) := fun field member =>
      ih field member field.1 ((Shape.everywhere_object.1 gathered).2 field member)
    rw [refine_object]
    exact (yields_fields (Q := fun _ _ => True) all).map fun _ _ => trivial
  | array n values ih =>
    obtain ⟨few | ⟨m, elements, rfl⟩, below⟩ := Shape.everywhere_array.1 gathered
    · have all : ∀ value ∈ values, Yields MergeError.IsKinds (fun _ => True)
          (value.refine r (r.singular name)) := fun value member =>
        ih value member (r.singular name) (below value member)
      have merged : Yields MergeError.IsKinds (fun _ => True)
          ((r.values (r.singular name) values).outcome.bind representative) :=
        (yields_values all).bind fun refined _ holds => yields_representative (holds.1 ▸ few)
      rw [refine_array]
      exact merged.map fun _ _ => trivial
    -- The array of one document may hold many values.
    · rw [refine_array_congr n m, ← ofJson_array]
      exact (yields_refine_ofJson r m name (.array elements)).imp fun _ _ => trivial
  | _ => trivial

theorem refine_date_beside_text (n name : String) :
    (Shape.array n [.text "2020-01-01", .text "soon"]).refine {} name =
      .error { clash := .kinds .date .text } := by
  have text : Literal.promoted "soon" = .text "soon" := by
    have noUrl : Literal.isUrl "soon" = false := by decide
    have noDate : Literal.dateFormat? "soon" = none := by decide
    simp [Literal.promoted, noUrl, noDate]
  have clash : (Shape.date .dateOnly).merge (.text "soon") =
      .error { clash := .kinds .date .text } :=
    Shape.merge_of_kind_ne rfl rfl (by decide) (by decide) (by decide)
  have refined : (values {} (dropLast name) [.text "2020-01-01", .text "soon"]).outcome =
      .ok [.date .dateOnly, .text "soon"] := by
    rw [outcome_values_cons, outcome_values_cons, refine_text, refine_text,
      Literal.promoted_day, text]
    rfl
  rw [refine_array, refined, Except.bind, representative_eq, Shape.mergeOnto_cons,
    Shape.empty_merge, Except.bind, Shape.mergeOnto_cons, clash]
  rfl

end Refinement

namespace Shape

theorem named_reduce (name : String) (documents : List Json) :
    Yields MergeError.IsKinds (Named id id name) (reduce (seeds name documents)) := by
  apply (kept_named id id).reduce fun _ _ kinds => kinds
  rw [seeds, List.forall_mem_map]
  intro v _
  exact named_ofJson name v

theorem gathered_reduce (name : String) (documents : List Json) :
    Yields (fun _ => True) (Everywhere Gathered) (reduce (seeds name documents)) := by
  apply kept_gathered.reduce (i := ()) fun _ _ _ => trivial
  rw [seeds, List.forall_mem_map]
  intro v _
  exact gathered_ofJson name v

/-- Whatever the names, neither merging documents nor refining their shape fails on them. All that
can fail to fit is the kinds of two nodes. -/
theorem names_never_clash (documents : List Json) (name : String) :
    (∀ e, reduce (seeds name documents) = .error e →
      ∃ left right, e.clash = .kinds left right) ∧
    ∀ t, reduce (seeds name documents) = .ok t →
      ∀ (r : Refinement) (other : String) (e : MergeError), t.refine r other = .error e →
        ∃ left right, e.clash = .kinds left right := by
  constructor
  · intro e failed
    exact (named_reduce name documents).of_error failed
  · intro t ok r other e failed
    have gathered := (gathered_reduce name documents).of_ok ok
    exact (Refinement.yields_refine_gathered r other gathered).of_error failed

/-- One document, whose shape fails to be refined. -/
theorem names_never_clash_days :
    let documents : List Json := [.array [.string "2020-01-01", .string "soon"]]
    ∃ t e, reduce (seeds "entry" documents) = .ok t ∧ t.refine {} "entry" = .error e ∧
      ∃ left right, e.clash = .kinds left right := by
  intro documents
  have ok : reduce (seeds "entry" documents) =
      .ok (array "entry" [text "2020-01-01", text "soon"]) :=
    reduce_singleton _
  have failed := Refinement.refine_date_beside_text "entry" "entry"
  exact ⟨_, _, ok, failed, (names_never_clash documents "entry").2 _ ok {} "entry" _ failed⟩

end Shape

end ShapeInference
