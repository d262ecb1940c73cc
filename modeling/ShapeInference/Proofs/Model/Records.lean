import ShapeInference.Model.Basic
import ShapeInference.Proofs.Merge.Kept

/-! The record types of a shape: each is listed once, where the first of its objects stands.

An object is merged into the record of its type name or left out. Either way its own objects are
listed, and the fields of a record are merged from those of objects, so no field needs a record that
is missing.
-/

set_option autoImplicit false

namespace ShapeInference

/-! Objects. -/

namespace Shape

def record? : Shape → Option (String × Fields)
  | .object name fields => some (typeName name, fields)
  | _ => none

def typeName? : Shape → Option String
  | .object name _ => some (typeName name)
  | _ => none

theorem objectsInFields_eq {fields : Fields}
    (each : ∀ field ∈ fields, field.2.objects = field.2.nodes.filterMap record?) :
    objectsInFields fields = (fieldNodes fields).filterMap record? := by
  induction fields with
  | nil => rfl
  | cons field rest ih =>
    obtain ⟨first, later⟩ := List.forall_mem_cons.1 each
    rw [objectsInFields, fieldNodes, List.filterMap_append, first, ih later]

theorem objectsInValues_eq {values : List Shape}
    (each : ∀ value ∈ values, value.objects = value.nodes.filterMap record?) :
    objectsInValues values = (valueNodes values).filterMap record? := by
  induction values with
  | nil => rfl
  | cons value rest ih =>
    obtain ⟨first, later⟩ := List.forall_mem_cons.1 each
    rw [objectsInValues, valueNodes, List.filterMap_append, first, ih later]

theorem objects_eq (t : Shape) : t.objects = t.nodes.filterMap record? := by
  induction t with
  | optional inner ih => rw [objects, nodes, ih]; rfl
  | object name fields ih => rw [objects, nodes, objectsInFields_eq ih]; rfl
  | array name values ih => rw [objects, nodes, objectsInValues_eq ih]; rfl
  | _ => rfl

theorem mem_objects {t : Shape} {name : String} {fields : Fields} :
    (name, fields) ∈ t.objects ↔ ∃ n, object n fields ∈ t.nodes ∧ typeName n = name := by
  rw [objects_eq, List.mem_filterMap]
  constructor
  · rintro ⟨node, inside, same⟩
    cases node with
    | object n others =>
      cases same
      exact ⟨n, inside, rfl⟩
    | _ => cases same
  · rintro ⟨n, inside, rfl⟩
    exact ⟨_, inside, rfl⟩

theorem names_objects (t : Shape) : Members.keys t.objects = t.nodes.filterMap typeName? := by
  rw [Members.keys, objects_eq, List.map_filterMap]
  congr 1
  funext node
  cases node <;> rfl

end Shape

/-! Catalogues. -/

namespace Catalogue

inductive Added (catalogue : Catalogue) (name : String) (fields : Fields) : Catalogue → Prop where
  | first : name ∉ catalogue.records.keys →
      Added catalogue name fields
        { catalogue with records := catalogue.records.insert name fields }
  | unified {seen shared : Fields} : catalogue.records.lookup name = some seen →
      Shape.mergeFields seen fields = .ok shared →
      Added catalogue name fields
        { records := catalogue.records.insert name (shared ++ Shape.fieldsOnlyIn seen fields)
          events := catalogue.events ++ [.seenAgain name] }
  | dropped {seen : Fields} {e : MergeError} : catalogue.records.lookup name = some seen →
      Shape.mergeFields seen fields = .error e →
      Added catalogue name fields
        { catalogue with
          events := catalogue.events ++ [.seenAgain name] ++ [.incompatible name e] }

theorem added (catalogue : Catalogue) (name : String) (fields : Fields) :
    Added catalogue name fields (catalogue.add name fields) := by
  unfold add
  cases found : catalogue.records.lookup name with
  | none => exact .first (Members.lookup_eq_none.1 found)
  | some seen =>
    dsimp only
    rw [Shape.object_merge_object, if_pos rfl]
    cases merged : Shape.mergeFields seen fields with
    | error e => exact .dropped found merged
    | ok shared => exact .unified found merged

variable {catalogue next : Catalogue} {name : String} {fields : Fields}

theorem Added.keys_records (h : Added catalogue name fields next) : next.records.keys =
    if name ∈ catalogue.records.keys then catalogue.records.keys
    else catalogue.records.keys ++ [name] := by
  cases h with
  | first => exact Members.keys_insert ..
  | unified => exact Members.keys_insert ..
  | dropped found =>
    have known := Members.isSome_lookup.1 (Option.isSome_of_eq_some found)
    exact (if_pos known).symm

theorem Added.nodup_keys (h : Added catalogue name fields next)
    (once : catalogue.records.keys.Nodup) : next.records.keys.Nodup := by
  cases h with
  | first => exact Members.nodup_keys_insert _ _ _ once
  | unified => exact Members.nodup_keys_insert _ _ _ once
  | dropped => exact once

def ofObjects (objects : List (String × Fields)) : Catalogue :=
  objects.foldl (fun catalogue object => catalogue.add object.1 object.2) {}

theorem ofObjects_concat (objects : List (String × Fields)) (object : String × Fields) :
    ofObjects (objects ++ [object]) = (ofObjects objects).add object.1 object.2 := by
  rw [ofObjects, List.foldl_append]
  rfl

theorem catalogue_eq (t : Shape) : t.catalogue = ofObjects t.objects := rfl

theorem keys_ofObjects (objects : List (String × Fields)) :
    (ofObjects objects).records.keys = (Members.keys objects).eraseDups := by
  -- From the back: the last object adds its name if no object before it has that name.
  induction objects using List.reverseRecOn with
  | nil => rfl
  | append_singleton front object ih =>
    have names : Members.keys (front ++ [object]) = Members.keys front ++ [object.1] :=
      Members.keys_append front [object]
    rw [ofObjects_concat, (added _ _ _).keys_records, ih, names, eraseDups_concat]
    simp only [List.mem_eraseDups]

theorem nodup_keys_ofObjects (objects : List (String × Fields)) :
    (ofObjects objects).records.keys.Nodup := by
  induction objects using List.reverseRecOn with
  | nil => exact List.nodup_nil
  | append_singleton front object ih =>
    rw [ofObjects_concat]
    exact (added _ _ _).nodup_keys ih

theorem mem_ofObjects {objects : List (String × Fields)} {record : String × Fields} :
    record ∈ (ofObjects objects).records ↔
      (ofObjects objects).records.lookup record.1 = some record.2 :=
  ⟨Members.lookup_of_mem (nodup_keys_ofObjects objects), Members.mem_of_lookup⟩

section
variable {Q : Fields → Prop} {other : String} {found : Fields}

theorem Added.fields_of_lookup (h : Added catalogue name fields next)
    (merged : ∀ seen shared, Q seen → Shape.mergeFields seen fields = .ok shared →
      Q (shared ++ Shape.fieldsOnlyIn seen fields))
    (old : ∀ other found, catalogue.records.lookup other = some found → Q found) (new : Q fields)
    (looked : next.records.lookup other = some found) : Q found := by
  cases h with
  | first =>
    rw [Members.lookup_insert] at looked
    split at looked
    · cases looked
      exact new
    · exact old other found looked
  | @unified seen shared known ok =>
    rw [Members.lookup_insert] at looked
    split at looked
    · cases looked
      exact merged seen shared (old name seen known) ok
    · exact old other found looked
  -- The record stays as it was, and what stands inside the dropped object is added later.
  | dropped => exact old other found looked

theorem fields_ofObjects {objects : List (String × Fields)}
    (merged : ∀ seen fields shared, Q seen → Q fields →
      Shape.mergeFields seen fields = .ok shared → Q (shared ++ Shape.fieldsOnlyIn seen fields))
    (all : ∀ object ∈ objects, Q object.2)
    (looked : (ofObjects objects).records.lookup other = some found) : Q found := by
  induction objects using List.reverseRecOn generalizing other found with
  | nil => cases looked
  | append_singleton front object ih =>
    rw [List.forall_mem_append, List.forall_mem_singleton] at all
    rw [ofObjects_concat] at looked
    apply (added _ _ _).fields_of_lookup _ (fun _ _ => ih all.1) all.2 looked
    intro seen shared known ok
    exact merged seen object.2 shared known all.2 ok

end

end Catalogue

namespace Shape

variable {t : Shape} {names : List String}

def TypeAmong (names : List String) (t : Shape) : Prop := ∀ name ∈ t.typeName?, name ∈ names

theorem kept_typeAmong (names : List String) :
    Kept (fun _ _ => ()) id (fun _ => True) fun _ t => t.Everywhere (TypeAmong names) := by
  have other {t : Shape} (plain : t.typeName? = none) : t.TypeAmong names := by
    intro name named
    rw [plain] at named
    cases named
  apply kept_everywhere
  · intro t leaf
    cases t with
    | object => cases leaf
    | _ => exact other rfl
  · intro t
    exact other rfl
  · intro n left right h
    exact h
  · intro n values t _
    exact other rfl

theorem typeAmong_merged {seen fields shared : Fields}
    (hl : ∀ field ∈ seen, field.2.Everywhere (TypeAmong names))
    (hr : ∀ field ∈ fields, field.2.Everywhere (TypeAmong names))
    (ok : mergeFields seen fields = .ok shared) :
    ∀ field ∈ shared ++ fieldsOnlyIn seen fields, field.2.Everywhere (TypeAmong names) := by
  have kept := kept_typeAmong names
  have fields := yields_merged (E := fun _ => True) (Q := fun _ => Everywhere (TypeAmong names))
    (fun key a inside => kept.orAbsent () a (hl _ inside))
    (fun key b inside => kept.orAbsent () b (hr _ inside))
    fun key a b inLeft inRight =>
      kept.merge (i := ()) (hl _ inLeft) (hr _ (Members.mem_of_lookup inRight))
  exact fields.of_ok ok

theorem typeAmong_nodes (t : Shape) :
    t.Everywhere (TypeAmong (t.nodes.filterMap typeName?).eraseDups) := by
  intro node inside name named
  rw [List.mem_eraseDups, List.mem_filterMap]
  exact ⟨node, inside, named⟩

theorem typeAmong_records (t : Shape) : ∀ record ∈ t.catalogue.records, ∀ field ∈ record.2,
    field.2.Everywhere (TypeAmong (t.nodes.filterMap typeName?).eraseDups) := by
  intro record inside
  apply Catalogue.fields_ofObjects (Q := fun fields => ∀ field ∈ fields,
    field.2.Everywhere (TypeAmong (t.nodes.filterMap typeName?).eraseDups)) _ _
    (Catalogue.mem_ofObjects.1 inside)
  · intro seen fields shared hl hr ok
    exact typeAmong_merged hl hr ok
  · rintro ⟨name, fields⟩ inside
    obtain ⟨n, node, _⟩ := mem_objects.1 inside
    exact (everywhere_object.1 ((typeAmong_nodes t).node node)).2

/-- The node that the type of a shape is about, below optionals and in the first value of arrays. -/
def described : Shape → Shape
  | .optional t => t.described
  | .array _ (t :: _) => t.described
  | t => t

theorem described_mem_nodes (t : Shape) : t.described ∈ t.nodes := by
  induction t with
  | optional inner ih =>
    rw [described, nodes]
    exact List.mem_cons_of_mem _ ih
  | array name values ih =>
    cases values with
    | nil => exact List.mem_cons_self
    | cons first rest =>
      rw [described, nodes, valueNodes]
      exact List.mem_cons_of_mem _ (List.mem_append_left _ (ih first List.mem_cons_self))
  | object => exact List.mem_cons_self
  | _ => exact List.mem_singleton_self _

end Shape

namespace Model

open Shape (described typeName?)

theorem names_eq_keys (t : Shape) :
    (ofShape t).types.map (·.name) = t.catalogue.records.keys := by
  simp [ofShape, RecordType.ofRecord, Members.keys, Function.comp_def]

theorem names_ofShape (t : Shape) :
    (ofShape t).types.map (·.name) = (t.nodes.filterMap typeName?).eraseDups := by
  rw [names_eq_keys, Catalogue.catalogue_eq, Catalogue.keys_ofObjects, Shape.names_objects]

/-- The record types are those of the objects, in the order in which their names first come. If the
root or a property is described by an object, the type of this object is listed. -/
theorem types_exact (t : Shape) :
    (ofShape t).types.map (·.name) = (t.nodes.filterMap typeName?).eraseDups ∧
    ((ofShape t).types.map (·.name)).Nodup ∧
    (∀ n inner, t.described = .object n inner → typeName n ∈ (ofShape t).types.map (·.name)) ∧
    ∀ type ∈ (ofShape t).types, ∃ fields, (type.name, fields) ∈ t.catalogue.records ∧
      type.properties = fields.map Property.ofField ∧
      ∀ field ∈ fields, ∀ n inner, field.2.described = .object n inner →
        typeName n ∈ (ofShape t).types.map (·.name) := by
  have names := names_ofShape t
  refine ⟨names, ?_, ?_, ?_⟩
  · rw [names_eq_keys]
    exact Catalogue.nodup_keys_ofObjects t.objects
  · intro n inner same
    rw [names]
    exact Shape.typeAmong_nodes t _ (Shape.described_mem_nodes t) _ (by rw [same]; rfl)
  · intro type listed
    obtain ⟨record, inside, rfl⟩ := List.mem_map.1 listed
    refine ⟨record.2, inside, rfl, fun field member n inner same => ?_⟩
    rw [names]
    exact Shape.typeAmong_records t record inside field member _
      (Shape.described_mem_nodes field.2) _ (by rw [same]; rfl)

def items : Shape :=
  .object "root" [("a", .object "item" [("x", .bool true)]), ("b", .optional (.object "Item"
    [("x", .text "no"), ("leaves", .array "leaves" [.object "leaf" []])]))]

theorem types_exact_items :
    (ofShape items).types.map (·.name) = ["Root", "Item", "Leaf"] ∧
    "Root" ∈ (ofShape items).types.map (·.name) := by
  have names : (items.nodes.filterMap typeName?).eraseDups = ["Root", "Item", "Leaf"] := by decide
  have root : typeName "root" = "Root" := by decide
  refine ⟨(types_exact items).1.trans names, ?_⟩
  rw [← root]
  exact (types_exact items).2.2.1 "root" _ rfl

end Model

end ShapeInference
