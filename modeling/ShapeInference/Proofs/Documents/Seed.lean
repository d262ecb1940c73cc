import ShapeInference.Proofs.Merge.Reduce
import ShapeInference.Shape.Seed

/-! The shapes of single documents.

Such a shape is absent for null, and otherwise of the kind of its document. It is well formed, and
its entries are the shapes of the members, where a missing member counts as null.
-/

set_option autoImplicit false

namespace ShapeInference

namespace Json

/-- Induction that reaches every element, and every member that a look-up finds. -/
@[elab_as_elim, induction_eliminator]
theorem induction {motive : Json → Prop} (null : motive .null)
    (bool : ∀ value, motive (.bool value)) (number : ∀ value, motive (.number value))
    (string : ∀ value, motive (.string value))
    (array : ∀ elements, (∀ element ∈ elements, motive element) → motive (.array elements))
    (object : ∀ members, (∀ member ∈ members, motive member.2) → motive (.object members)) :
    ∀ v, motive v
  | .null => null
  | .bool value => bool value
  | .number value => number value
  | .string value => string value
  | .array elements => array elements fun element _ =>
      induction null bool number string array object element
  | .object members => object members fun member _ =>
      induction null bool number string array object member.2
termination_by v => sizeOf v
decreasing_by
  · have := List.sizeOf_lt_of_mem ‹_›
    simp; omega
  · have := List.sizeOf_lt_of_mem ‹_›
    have : sizeOf member.2 < sizeOf member := by
      obtain ⟨key, v⟩ := member
      simp only [Prod.mk.sizeOf_spec]
      omega
    simp; omega

def kind : Json → Kind
  | .null => .optional
  | .bool _ => .bool
  | .number _ => .number
  | .string _ => .text
  | .array _ => .array
  | .object _ => .object

def isScalar : Json → Bool
  | .array _ => false
  | .object _ => false
  | _ => true

/-- Every object of the document has each of its keys once. -/
inductive Distinct : Json → Prop where
  | null : Distinct .null
  | bool (value : Bool) : Distinct (.bool value)
  | number (value : Json.Number) : Distinct (.number value)
  | string (value : String) : Distinct (.string value)
  | array {elements : List Json} : (∀ element ∈ elements, Distinct element) →
      Distinct (.array elements)
  | object {members : Members Json} : members.keys.Nodup →
      (∀ member ∈ members, Distinct member.2) → Distinct (.object members)

end Json

namespace Shape

@[simp] theorem kind_ofJson (name : String) (v : Json) : (ofJson name v).kind = v.kind := by
  cases v <;> simp only [ofJson, kind, Json.kind]

theorem ofJson_array (name : String) (elements : List Json) :
    ofJson name (.array elements) = array name (elements.map (ofJson name)) := by
  rw [ofJson, valuesOfJson_eq_map]

theorem ofJson_object (name : String) (members : Members Json) :
    ofJson name (.object members) =
      object name (members.map fun member => (member.1, ofJson member.1 member.2)) := by
  rw [ofJson, fieldsOfJson_eq_map]

theorem isOptional_ofJson {name : String} {v : Json} :
    (ofJson name v).isOptional = true ↔ v = .null := by
  cases v <;> simp [isOptional, Json.kind]

theorem isOptional_ofJson_of_ne (name : String) {v : Json} (seen : v ≠ .null) :
    (ofJson name v).isOptional = false := by
  rw [← Bool.not_eq_true, isOptional_ofJson]
  exact seen

theorem wellFormed_ofJson (name : String) (v : Json) : (ofJson name v).WellFormed := by
  induction v generalizing name with
  | null => simp [ofJson]
  | bool value => exact wellFormed_of_leaf rfl rfl
  | number value => exact wellFormed_of_leaf rfl rfl
  | string value => exact wellFormed_of_leaf rfl rfl
  | array elements ih =>
    rw [ofJson_array, wellFormed_array]
    intro value member
    obtain ⟨element, inside, rfl⟩ := List.mem_map.1 member
    exact ih element inside name
  | object members ih =>
    rw [ofJson_object, wellFormed_object]
    intro field member
    obtain ⟨first, inside, rfl⟩ := List.mem_map.1 member
    exact ih first inside first.1

theorem wellFormed_seeds (name : String) (documents : List Json) :
    ∀ sample ∈ seeds name documents, sample.WellFormed := by
  intro sample member
  obtain ⟨v, _, rfl⟩ := List.mem_map.1 member
  exact wellFormed_ofJson name v

theorem distinct_ofJson {v : Json} (h : v.Distinct) (name : String) :
    (ofJson name v).Distinct := by
  induction h generalizing name with
  | array _ ih =>
    rw [ofJson_array, distinct_array, List.forall_mem_map]
    intro element inside
    exact ih element inside name
  | @object members keys _ ih =>
    rw [ofJson_object, distinct_object, Members.keys_map, List.forall_mem_map]
    exact ⟨keys, fun member inside => ih member inside member.1⟩
  | _ => exact distinct_of_leaf rfl (by simp [Json.kind])

theorem tidy_seeds (name : String) {documents : List Json}
    (distinct : ∀ document ∈ documents, document.Distinct) :
    ∀ sample ∈ seeds name documents, sample.Tidy := by
  rw [seeds, List.forall_mem_map]
  intro v inside
  exact ⟨wellFormed_ofJson name v, distinct_ofJson (distinct v inside) name⟩

theorem entry_ofJson (members : Members Json) (key : String) :
    entry (members.map fun member => (member.1, ofJson member.1 member.2)) key =
      ofJson key ((members.lookup key).getD .null) := by
  rw [entry, Members.lookup_map]
  cases members.lookup key <;> rfl

end Shape

end ShapeInference
