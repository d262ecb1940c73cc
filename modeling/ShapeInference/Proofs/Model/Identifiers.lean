import Mathlib.Data.List.Nodup
import ShapeInference.Proofs.Documents.Seed
import ShapeInference.Proofs.Model.Records
import ShapeInference.Proofs.Naming
import ShapeInference.Proofs.Refine.Rules

/-! The names of the properties of a record type.

Every step of inference keeps keys apart, so the properties of a type have different keys. Each name
comes from the key alone, and two keys of a type can have one name: `created_on` and `createdOn` do.
In a type whose keys are all in one style the names are different too.
-/

set_option autoImplicit false

namespace ShapeInference

namespace Shape

variable {samples : List Shape} {r : Refinement} {name : String} {t u : Shape}

/-- Objects of one type name are merged, and merging objects with distinct keys makes no key come
twice. -/
theorem Distinct.nodup_keys_records (h : t.Distinct) :
    ∀ record ∈ t.catalogue.records, (Members.keys record.2).Nodup := by
  intro record inside
  apply Catalogue.fields_ofObjects (Q := fun fields => (Members.keys fields).Nodup) _ _
    (Catalogue.mem_ofObjects.1 inside)
  · intro seen fields shared onceSeen once ok
    exact nodup_keys_merged ok onceSeen once
  · rintro ⟨type, fields⟩ object
    obtain ⟨n, node, _⟩ := mem_objects.1 object
    exact h _ node

theorem Distinct.refine (h : t.Distinct) (ok : t.refine r name = .ok u) : u.Distinct :=
  (Refinement.yields_refine_distinct r name h).of_ok ok

end Shape

namespace RecordType

variable {type : RecordType}

theorem keys_ofRecord (record : String × Fields) :
    (ofRecord record).properties.map (·.key) = Members.keys record.2 := by
  simp [ofRecord, Property.ofField, Members.keys, Function.comp_def]

def NamedByKeys (type : RecordType) : Prop :=
  ∀ property ∈ type.properties, property.name = propertyName property.key

theorem namedByKeys_ofRecord (record : String × Fields) : (ofRecord record).NamedByKeys := by
  intro property emitted
  obtain ⟨field, _, rfl⟩ := List.mem_map.1 emitted
  rfl

theorem NamedByKeys.names (h : type.NamedByKeys) :
    type.properties.map (·.name) = (type.properties.map (·.key)).map propertyName := by
  rw [List.map_map]
  exact List.map_congr_left h

/-- Names derived from different keys are different where the keys can be told from them. -/
theorem NamedByKeys.nodup_names (h : type.NamedByKeys)
    (once : (type.properties.map (·.key)).Nodup) (style : String → Prop)
    (injective : ∀ key other, style key → style other → propertyName key = propertyName other →
      key = other)
    (all : ∀ property ∈ type.properties, style property.key) :
    (type.properties.map (·.name)).Nodup := by
  rw [h.names]
  rw [← List.forall_mem_map (P := style)] at all
  apply List.Nodup.map_on _ once
  intro key inside other otherInside same
  exact injective key other (all key inside) (all other otherInside) same

end RecordType

theorem SnakeCase.key_eq {key other : String} (snake : SnakeCase key) (snakeOther : SnakeCase other)
    (same : propertyName key = propertyName other) : key = other := by
  rw [← String.toList_inj, ← snake.snakeSpelling_propertyName,
    ← snakeOther.snakeSpelling_propertyName, same]

theorem CamelCase.key_eq {key other : String} (camel : CamelCase key) (camelOther : CamelCase other)
    (same : propertyName key = propertyName other) : key = other := by
  rwa [camel.propertyName_eq, camelOther.propertyName_eq] at same

namespace Model

variable {documents : List Json} {r : Refinement} {name : String} {t u : Shape}

/-- The keys of a type are different, and each property is named after its key. Two of them have one
name if the type names of their keys are the same but for the case of the first letter, which never
happens among keys in snake case, or among keys in camel case. -/
theorem property_names (distinct : ∀ document ∈ documents, document.Distinct)
    (ok : Shape.reduce (Shape.seeds name documents) = .ok t) (refined : t.refine r name = .ok u) :
    ∀ type ∈ (ofShape u).types,
      (type.properties.map (·.key)).Nodup ∧ type.NamedByKeys ∧
      (∀ p ∈ type.properties, ∀ q ∈ type.properties, p.key ≠ q.key →
        (p.name = q.name ↔ typeName p.key ≠ "" ∧ typeName q.key ≠ "" ∧
          lowerHead (typeName p.key).toList = lowerHead (typeName q.key).toList)) ∧
      ((∀ p ∈ type.properties, SnakeCase p.key) → (type.properties.map (·.name)).Nodup) ∧
      ((∀ p ∈ type.properties, CamelCase p.key) → (type.properties.map (·.name)).Nodup) := by
  intro type listed
  obtain ⟨record, inside, rfl⟩ := List.mem_map.1 listed
  have tidy : t.Tidy := Shape.Tidy.reduce (Shape.tidy_seeds name distinct) ok
  have once : ((RecordType.ofRecord record).properties.map (·.key)).Nodup := by
    rw [RecordType.keys_ofRecord]
    exact (tidy.distinct.refine refined).nodup_keys_records record inside
  have named := RecordType.namedByKeys_ofRecord record
  refine ⟨once, named, ?_, ?_, ?_⟩
  · intro p inP q inQ different
    rw [named p inP, named q inQ, propertyName_eq_iff]
    exact or_iff_right different
  · exact named.nodup_names once SnakeCase fun key other => SnakeCase.key_eq
  · exact named.nodup_names once CamelCase fun key other => CamelCase.key_eq

def twoNumbers (key other : String) : Json :=
  .object [(key, .number (.integer 1)), (other, .number (.integer 2))]

theorem inferred_twoNumbers (key other : String) (different : key ≠ other) (r : Refinement) :
    let fields : Fields := [(key, .number .int), (other, .number .int)]
    (∀ document ∈ [twoNumbers key other], document.Distinct) ∧
    Shape.reduce (Shape.seeds "pet" [twoNumbers key other]) = .ok (.object "pet" fields) ∧
    (Shape.object "pet" fields).refine r "pet" = .ok (.object "Pet" fields) ∧
    (ofShape (.object "Pet" fields)).types = [.ofRecord ("Pet", fields)] := by
  have names : typeName "pet" = "Pet" ∧ typeName "Pet" = "Pet" := by decide
  refine ⟨?_, Shape.reduce_singleton _, ?_, ?_⟩
  · rw [List.forall_mem_singleton]
    apply Json.Distinct.object
    · simp [Members.keys, different]
    · simp [Json.Distinct.number]
  · rw [Refinement.refine_object, names.1]
    rfl
  · simp [ofShape, Shape.catalogue, Shape.objects, Shape.objectsInFields, Catalogue.add,
      Members.insert, names]

/-- Two keys in snake case. -/
theorem property_names_pet :
    (∀ document ∈ [twoNumbers "owner_id" "owner_age"], document.Distinct) ∧
    SnakeCase "owner_id" ∧ SnakeCase "owner_age" ∧
    ∃ t u, Shape.reduce (Shape.seeds "pet" [twoNumbers "owner_id" "owner_age"]) = .ok t ∧
      t.refine {} "pet" = .ok u ∧
      ∃ type ∈ (ofShape u).types, type.properties.map (·.key) = ["owner_id", "owner_age"] ∧
        (type.properties.map (·.name)).Nodup := by
  have snake : SnakeCase "owner_id" ∧ SnakeCase "owner_age" := by decide
  obtain ⟨distinct, ok, refined, types⟩ :=
    inferred_twoNumbers "owner_id" "owner_age" (by decide) {}
  have listed := List.mem_singleton_self (RecordType.ofRecord
    ("Pet", [("owner_id", Shape.number .int), ("owner_age", Shape.number .int)]))
  rw [← types] at listed
  obtain ⟨_, _, _, once, _⟩ := property_names distinct ok refined _ listed
  refine ⟨distinct, snake.1, snake.2, _, _, ok, refined, _, listed, rfl, once ?_⟩
  simpa [RecordType.ofRecord, Property.ofField] using snake

/-- A key in snake case and a key in camel case can have one name. -/
theorem not_every_name_once :
    ¬ ∀ (documents : List Json) (name : String) (r : Refinement) (t u : Shape),
      (∀ document ∈ documents, document.Distinct) →
      Shape.reduce (Shape.seeds name documents) = .ok t → t.refine r name = .ok u →
      ∀ type ∈ (ofShape u).types, (type.properties.map (·.name)).Nodup := by
  intro all
  obtain ⟨distinct, ok, refined, types⟩ :=
    inferred_twoNumbers "created_on" "createdOn" (by decide) {}
  have once := all _ "pet" {} _ _ distinct ok refined
  rw [types, List.forall_mem_singleton] at once
  have same : propertyName "created_on" = propertyName "createdOn" := by decide
  simp [RecordType.ofRecord, Property.ofField, same] at once

end Model

end ShapeInference
