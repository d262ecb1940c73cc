import ShapeInference.Proofs.Model.Records

/-! A record describes all objects of its type, if none of them was left out.

Its fields start as those of the first object, and each later object is merged into them. A merged
object has the keys of both sides, and a field of it is optional if it is optional or missing on
either side. So the fields have all keys, and say which of them every object has.
-/

set_option autoImplicit false

namespace ShapeInference

namespace Shape

variable {left right shared fields seen : Fields} {objects : List Fields} {key : String}

/-- A missing field counts as optional, so this holds of keys that a side lacks too. -/
theorem isOptional_entry_merged (ok : mergeFields left right = .ok shared) (key : String) :
    (entry (shared ++ fieldsOnlyIn left right) key).isOptional =
      ((entry left key).isOptional || (entry right key).isOptional) := by
  have merged := Members.lookup_append shared (fieldsOnlyIn left right) key
  cases foundLeft : left.lookup key with
  | some a =>
    obtain ⟨t, found, joins⟩ := lookup_mergeFields ok foundLeft
    rw [found, Option.some_or] at merged
    rw [entry_of_lookup foundLeft, entry_of_lookup merged]
    cases joins with
    | alone missing =>
      rw [entry_of_missing missing, isOptional_orAbsent]
      exact (Bool.or_true _).symm
    | both foundRight joined =>
      rw [entry_of_lookup foundRight]
      exact isOptional_merge joined
  | none =>
    have missing : shared.lookup key = none := by
      rwa [Members.lookup_eq_none, keys_mergeFields ok, ← Members.lookup_eq_none]
    rw [missing, Option.none_or, lookup_fieldsOnlyIn, if_pos foundLeft] at merged
    rw [entry_of_missing foundLeft]
    cases foundRight : right.lookup key with
    | some b =>
      rw [foundRight] at merged
      rw [entry_of_lookup merged, isOptional_orAbsent]
      rfl
    | none =>
      rw [foundRight] at merged
      rw [entry_of_missing merged]
      rfl

/-- These fields have the keys of all the objects, and those are not optional that each object has
and that none of them has as an optional. -/
structure Describes (objects : List Fields) (fields : Fields) : Prop where
  once : (Members.keys fields).Nodup
  keys : ∀ key, key ∈ Members.keys fields ↔ ∃ object ∈ objects, key ∈ Members.keys object
  isOptional : ∀ key, (entry fields key).isOptional =
    objects.any fun object => (entry object key).isOptional

theorem describes_first (once : (Members.keys fields).Nodup) : Describes [fields] fields where
  once := once
  keys key := by simp
  isOptional key := by simp

theorem Describes.next (h : Describes objects seen) (once : (Members.keys fields).Nodup)
    (ok : mergeFields seen fields = .ok shared) :
    Describes (objects ++ [fields]) (shared ++ fieldsOnlyIn seen fields) where
  once := nodup_keys_merged ok h.once once
  keys key := by
    rw [mem_keys_merged ok, h.keys]
    simp [or_and_right, exists_or]
  isOptional key := by
    rw [isOptional_entry_merged ok, h.isOptional, List.any_append]
    simp

theorem Describes.required (h : Describes objects fields) {a : Shape}
    (found : fields.lookup key = some a) : a.isOptional = false ↔
      ∀ object ∈ objects, ∃ b, object.lookup key = some b ∧ b.isOptional = false := by
  rw [← entry_of_lookup found, h.isOptional, List.any_eq_false]
  refine forall₂_congr fun object _ => ?_
  rw [Bool.not_eq_true]
  cases inside : object.lookup key with
  | none => simp [entry_of_missing inside, Shape.isOptional, kind]
  | some b => simp [entry_of_lookup inside]

end Shape

namespace Catalogue

open Shape (Describes describes_first)

def fieldsOf (name : String) (objects : List (String × Fields)) : List Fields :=
  (objects.filter (·.1 = name)).map (·.2)

variable {catalogue next : Catalogue} {name other : String} {fields found : Fields}
variable {objects front : List (String × Fields)}

theorem mem_fieldsOf : fields ∈ fieldsOf name objects ↔ (name, fields) ∈ objects := by
  simp [fieldsOf]

theorem fieldsOf_concat : fieldsOf other (front ++ [(name, fields)]) =
    if other = name then fieldsOf name front ++ [fields] else fieldsOf other front := by
  by_cases same : other = name
  · simp [fieldsOf, same]
  · simp [fieldsOf, same, Ne.symm same]

/-- A catalogue that left out no object. -/
def Complete (catalogue : Catalogue) : Prop :=
  ∀ name e, Event.incompatible name e ∉ catalogue.events

theorem Added.complete (h : Added catalogue name fields next) (complete : next.Complete) :
    catalogue.Complete := by
  intro other e happened
  cases h with
  | first => exact complete other e happened
  | unified => exact complete other e (List.mem_append_left _ happened)
  | dropped =>
    exact complete other e (List.mem_append_left _ (List.mem_append_left _ happened))

theorem fieldsOf_eq_nil (new : name ∉ (ofObjects front).records.keys) :
    fieldsOf name front = [] := by
  rw [keys_ofObjects, List.mem_eraseDups] at new
  rw [List.eq_nil_iff_forall_not_mem]
  intro fields inside
  exact new (List.mem_map_of_mem (mem_fieldsOf.1 inside))

theorem Added.describes (h : Added (ofObjects front) name fields next) (complete : next.Complete)
    (once : (Members.keys fields).Nodup)
    (before : ∀ other found, (ofObjects front).records.lookup other = some found →
      Describes (fieldsOf other front) found)
    (looked : next.records.lookup other = some found) :
    Describes (fieldsOf other (front ++ [(name, fields)])) found := by
  rw [fieldsOf_concat]
  cases h with
  | first new =>
    rw [Members.lookup_insert] at looked
    split at looked
    · next same =>
      cases looked
      rw [if_pos same, fieldsOf_eq_nil new]
      exact describes_first once
    · next different =>
      rw [if_neg different]
      exact before other found looked
  | @unified seen shared known ok =>
    rw [Members.lookup_insert] at looked
    split at looked
    · next same =>
      cases looked
      rw [if_pos same]
      exact (before name seen known).next once ok
    · next different =>
      rw [if_neg different]
      exact before other found looked
  -- An object that does not fit leaves an event behind, in this catalogue and in all later ones.
  | @dropped seen e => exact absurd (List.mem_append_right _ List.mem_cons_self) (complete name e)

theorem describes_ofObjects (once : ∀ object ∈ objects, (Members.keys object.2).Nodup)
    (complete : (ofObjects objects).Complete)
    (looked : (ofObjects objects).records.lookup name = some fields) :
    Describes (fieldsOf name objects) fields := by
  induction objects using List.reverseRecOn generalizing name fields with
  | nil => cases looked
  | append_singleton front object ih =>
    rw [List.forall_mem_append, List.forall_mem_singleton] at once
    rw [ofObjects_concat] at complete looked
    have step := added (ofObjects front) object.1 object.2
    apply step.describes complete once.2 _ looked
    intro other found earlier
    exact ih once.1 (step.complete complete) earlier

end Catalogue

namespace Model

variable {t : Shape}

/-- If no object was left out, a property stands for every object of its record type: the keys are
those of all of them, and a property is required if each of them has it and never as an optional.
Objects have each of their keys once. -/
theorem records_describe (distinct : t.Distinct)
    (fits : ∀ name e, Event.incompatible name e ∉ t.catalogue.events) :
    ∀ type ∈ (ofShape t).types,
      (∀ key, key ∈ type.properties.map (·.key) ↔ ∃ n fields, .object n fields ∈ t.nodes ∧
        typeName n = type.name ∧ key ∈ Members.keys fields) ∧
      ∀ property ∈ type.properties, property.isOptional = false ↔
        ∀ n fields, .object n fields ∈ t.nodes → typeName n = type.name →
          ∃ a, fields.lookup property.key = some a ∧ a.isOptional = false := by
  intro type listed
  obtain ⟨⟨name, fields⟩, inside, rfl⟩ := List.mem_map.1 listed
  have once : ∀ object ∈ t.objects, (Members.keys object.2).Nodup := by
    rintro ⟨other, found⟩ object
    obtain ⟨n, node, _⟩ := Shape.mem_objects.1 object
    exact distinct _ node
  have describes : Shape.Describes (Catalogue.fieldsOf name t.objects) fields :=
    Catalogue.describes_ofObjects once fits (Catalogue.mem_ofObjects.1 inside)
  constructor
  · intro key
    have keys : (RecordType.ofRecord (name, fields)).properties.map (·.key) =
        Members.keys fields := by
      simp [RecordType.ofRecord, Property.ofField, Members.keys, Function.comp_def]
    rw [keys, describes.keys]
    simp only [Catalogue.mem_fieldsOf, Shape.mem_objects]
    constructor
    · rintro ⟨object, ⟨n, node, named⟩, has⟩
      exact ⟨n, object, node, named, has⟩
    · rintro ⟨n, object, node, named, has⟩
      exact ⟨object, ⟨n, node, named⟩, has⟩
  · intro property emitted
    obtain ⟨field, member, rfl⟩ := List.mem_map.1 emitted
    have found := Members.lookup_of_mem describes.once member
    show field.2.isOptional = false ↔ _
    rw [describes.required found]
    simp only [Catalogue.mem_fieldsOf, Shape.mem_objects]
    constructor
    · intro all n object node named
      exact all object ⟨n, node, named⟩
    · rintro all object ⟨n, node, named⟩
      exact all n object node named

def fittingItems : Shape :=
  .object "root" [("a", .object "item" [("x", .bool true)]),
    ("b", .optional (.object "Item" [("x", .bool false), ("y", .text "")]))]

theorem catalogue_fittingItems : fittingItems.catalogue.records.lookup "Item" =
      some [("x", .bool false), ("y", .optional (.text ""))] ∧
    fittingItems.catalogue.events = [.seenAgain "Item"] := by
  have names : typeName "root" = "Root" ∧ typeName "item" = "Item" ∧ typeName "Item" = "Item" := by
    decide
  simp [fittingItems, Shape.catalogue, Shape.objects, Shape.objectsInFields, Catalogue.add, names,
    Members.insert, Members.lookup_cons, Shape.object_merge_object, Shape.mergeFields_cons,
    Shape.bool_merge_bool, Shape.fieldsOnlyIn, Shape.orAbsent, Except.bind, Except.map]

theorem records_describe_items :
    fittingItems.Distinct ∧ (∀ name e, Event.incompatible name e ∉ fittingItems.catalogue.events) ∧
      ∃ type ∈ (ofShape fittingItems).types, type.name = "Item" ∧
        ∀ property ∈ type.properties, property.isOptional = false ↔
          ∀ n fields, .object n fields ∈ fittingItems.nodes → typeName n = "Item" →
            ∃ a, fields.lookup property.key = some a ∧ a.isOptional = false := by
  obtain ⟨found, logged⟩ := catalogue_fittingItems
  have distinct : fittingItems.Distinct := by decide
  have fits (name : String) (e : MergeError) :
      Event.incompatible name e ∉ fittingItems.catalogue.events := by
    rw [logged]
    simp
  have listed := List.mem_map_of_mem (f := RecordType.ofRecord) (Members.mem_of_lookup found)
  exact ⟨distinct, fits, _, listed, rfl, (records_describe distinct fits _ listed).2⟩

end Model

end ShapeInference
