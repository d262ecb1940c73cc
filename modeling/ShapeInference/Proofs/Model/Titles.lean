import ShapeInference.Proofs.Documents.Seed
import ShapeInference.Proofs.Model.Records
import ShapeInference.Proofs.Refine.Objects

/-! Record types without a name.

A record type is named after the place of its objects. Below an array this is a singular name, which
can be short of all letters even though no key is: the elements under `a` have the singular of `a`.
Whether that happens can be told from the merged shape, and from the documents as long as optionals
are gone through.
-/

set_option autoImplicit false

namespace ShapeInference

/-! Documents. -/

namespace Json

inductive EveryKey (p : String → Prop) : Json → Prop where
  | scalar {v : Json} : v.isScalar = true → EveryKey p v
  | array {elements : List Json} : (∀ element ∈ elements, EveryKey p element) →
      EveryKey p (.array elements)
  | object {members : Members Json} : (∀ member ∈ members, p member.1) →
      (∀ member ∈ members, EveryKey p member.2) → EveryKey p (.object members)

/-- Every object of the document stands under a name with the property. This is its key, or the
singular of the name of the array it stands in. -/
inductive ObjectsUnder (singular : Singularizer) (p : String → Prop) : String → Json → Prop where
  | scalar {name : String} {v : Json} : v.isScalar = true → ObjectsUnder singular p name v
  | array {name : String} {elements : List Json} :
      (∀ element ∈ elements, ObjectsUnder singular p (singular name) element) →
      ObjectsUnder singular p name (.array elements)
  | object {name : String} {members : Members Json} : p name →
      (∀ member ∈ members, ObjectsUnder singular p member.1 member.2) →
      ObjectsUnder singular p name (.object members)

variable {singular : Singularizer} {p : String → Prop} {name : String}

theorem objectsUnder_array {elements : List Json} :
    ObjectsUnder singular p name (.array elements) ↔
      ∀ element ∈ elements, ObjectsUnder singular p (singular name) element := by
  constructor
  · intro h
    cases h with
    | scalar scalar => cases scalar
    | array all => exact all
  · exact .array

theorem objectsUnder_object {members : Members Json} :
    ObjectsUnder singular p name (.object members) ↔
      p name ∧ ∀ member ∈ members, ObjectsUnder singular p member.1 member.2 := by
  constructor
  · intro h
    cases h with
    | scalar scalar => cases scalar
    | object own all => exact ⟨own, all⟩
  · rintro ⟨own, all⟩
    exact .object own all

end Json

namespace Refinement

open Shape (ofJson ofJson_array ofJson_object)

theorem titled_ofJson (r : Refinement) {v : Json} (keys : v.EveryKey (typeName · ≠ "")) {n : String}
    (own : typeName n ≠ "") (name : String) : r.Objects Titled name (ofJson n v) := by
  induction keys generalizing n name with
  | @scalar v scalar =>
    cases v with
    | array | object => cases scalar
    | _ => exact objects_leaf rfl
  | array _ ih =>
    rw [ofJson_array, objects_array, List.forall_mem_map]
    exact fun element inside => ih element inside own (r.singular name)
  | object named _ ih =>
    rw [ofJson_object, objects_object, List.forall_mem_map]
    exact ⟨own, fun member inside => ih member inside (named member inside) member.1⟩

theorem placed_ofJson (r : Refinement) (n name : String) (v : Json) :
    r.Objects Placed name (ofJson n v) ↔ v.ObjectsUnder r.singular (typeName · ≠ "") name := by
  induction v generalizing n name with
  | array elements ih =>
    rw [ofJson_array, objects_array, List.forall_mem_map, Json.objectsUnder_array]
    exact forall₂_congr fun element inside => ih element inside n (r.singular name)
  | object members ih =>
    rw [ofJson_object, objects_object, List.forall_mem_map, Json.objectsUnder_object]
    exact and_congr_right fun _ => forall₂_congr fun member inside =>
      ih member inside member.1 member.1
  | _ => exact iff_of_true (objects_leaf rfl) (.scalar rfl)

end Refinement

namespace Model

open Refinement (Objects Placed Titled)

/-- All type names come from objects, and a refinement that goes through optionals visits all of
them. -/
theorem titled_iff (r : Refinement) (name : String) (u : Shape) :
    (∀ type ∈ (ofShape u).types, type.name ≠ "") ↔ r.through.Objects Titled name u := by
  have names := names_ofShape u
  rw [← Refinement.map_places (r := r.through) rfl name u, List.filterMap_map] at names
  rw [← List.forall_mem_map (f := RecordType.name) (P := (· ≠ "")), names]
  simp only [List.mem_eraseDups, List.mem_filterMap]
  constructor
  · intro all key n fields inside
    exact all (typeName n) ⟨_, inside, rfl⟩
  · rintro all _ ⟨⟨key, node⟩, inside, named⟩
    cases node with
    | object n fields =>
      cases named
      exact all key n fields inside
    | _ => cases named

variable {documents : List Json} {r : Refinement} {name : String} {t u : Shape}

/-- If all keys give type names, and so does the name of the root, then a record type without a name
is that of a visited object whose place has no name. The objects of the documents tell: if all of
them stand under names, then all types have names, and a refinement that goes through optionals
gives names to all types only then. -/
theorem type_names_filled (distinct : ∀ document ∈ documents, document.Distinct)
    (keys : ∀ document ∈ documents, document.EveryKey (typeName · ≠ ""))
    (root : typeName name ≠ "") (ok : Shape.reduce (Shape.seeds name documents) = .ok t)
    (refined : t.refine r name = .ok u) :
    ((∀ type ∈ (ofShape u).types, type.name ≠ "") ↔
      ∀ key n fields, (key, .object n fields) ∈ r.places name t → typeName key ≠ "") ∧
    ((∀ document ∈ documents, document.ObjectsUnder r.singular (typeName · ≠ "") name) →
      ∀ type ∈ (ofShape u).types, type.name ≠ "") ∧
    (r.throughOptionals = true → (∀ type ∈ (ofShape u).types, type.name ≠ "") →
      ∀ document ∈ documents, document.ObjectsUnder r.singular (typeName · ≠ "") name) := by
  have tidy : t.Tidy := Shape.Tidy.reduce (Shape.tidy_seeds name distinct) ok
  have own : r.through.Objects Titled name t := by
    refine ((Refinement.kept_objects r Titled).reduce (fun _ _ _ => trivial) ?_).of_ok ok
    rw [Shape.seeds, List.forall_mem_map]
    intro document inside
    exact Refinement.titled_ofJson r.through (keys document inside) root name
  have visited : (∀ type ∈ (ofShape u).types, type.name ≠ "") ↔ r.Objects Placed name t := by
    rw [titled_iff r name u]
    constructor
    · exact Refinement.placed_of_refine tidy.distinct refined
    · intro placed
      exact (Refinement.yields_titled placed own).of_ok refined
  refine ⟨visited, ?_, ?_⟩
  · intro under
    apply visited.2
    apply Objects.of_through
    refine ((Refinement.kept_objects r Placed).reduce (fun _ _ _ => trivial) ?_).of_ok ok
    rw [Shape.seeds, List.forall_mem_map]
    intro document inside
    exact (Refinement.placed_ofJson r.through name name document).2 (under document inside)
  · intro through named document inside
    have same : r.through = r := by
      unfold Refinement.through
      rw [← through]
    have placed := visited.1 named
    rw [← same] at placed
    have all := Refinement.objects_of_mergeOnto
      (fun sample member => (Shape.tidy_seeds name distinct sample member).distinct)
      (Shape.reduce_eq_ok.1 ok) placed
    rw [← Refinement.placed_ofJson r name name document, ← same]
    exact all _ (List.mem_map_of_mem inside)

def listUnder (key : String) : Json :=
  .object [(key, .array [.object [("x", .number (.integer 1))]])]

theorem distinct_listUnder (key : String) : (listUnder key).Distinct := by
  apply Json.Distinct.object
  · simp [Members.keys]
  · rw [List.forall_mem_singleton]
    apply Json.Distinct.array
    rw [List.forall_mem_singleton]
    apply Json.Distinct.object
    · simp [Members.keys]
    · simp [Json.Distinct.number]

theorem everyKey_listUnder {key : String} (named : typeName key ≠ "") :
    (listUnder key).EveryKey (typeName · ≠ "") := by
  apply Json.EveryKey.object
  · simpa using named
  · rw [List.forall_mem_singleton]
    apply Json.EveryKey.array
    rw [List.forall_mem_singleton]
    apply Json.EveryKey.object
    · rw [List.forall_mem_singleton]
      decide
    · rw [List.forall_mem_singleton]
      exact .scalar rfl

theorem inferred_listUnder (key : String) : ∃ t u,
    Shape.reduce (Shape.seeds "entry" [listUnder key]) = .ok t ∧ t.refine {} "entry" = .ok u ∧
      ((ofShape u).types.map (·.name) = ["Entry", typeName (typeName (dropLast key))].eraseDups) := by
  have names : typeName "entry" = "Entry" ∧ typeName "Entry" = "Entry" := by decide
  refine ⟨_, .object "Entry" [(key, .array (typeName key)
    [.object (typeName (dropLast key)) [("x", .number .int)]])], Shape.reduce_singleton _, ?_, ?_⟩
  · have element : (Shape.object key [("x", .number .int)]).refine {} (dropLast key) =
        .ok (.object (typeName (dropLast key)) [("x", .number .int)]) := by
      rw [Refinement.refine_object]
      rfl
    have list : (Shape.array key [.object key [("x", .number .int)]]).refine {} key =
        .ok (.array (typeName key)
          [.object (typeName (dropLast key)) [("x", .number .int)]]) := by
      rw [Refinement.refine_singleton, element]
      rfl
    show (Shape.object "entry" [(key, .array key [.object key [("x", .number .int)]])]).refine {}
      "entry" = _
    rw [Refinement.refine_object, Refinement.outcome_fields_cons, list, names.1]
    rfl
  · rw [names_ofShape]
    simp only [Shape.nodes, Shape.fieldNodes, Shape.valueNodes, List.append_nil, List.filterMap_cons,
      List.filterMap_nil, Shape.typeName?, names]

/-- The objects in the list of tags are named after one tag. -/
theorem type_names_filled_tags :
    (∀ document ∈ [listUnder "tags"], document.Distinct) ∧
    (∀ document ∈ [listUnder "tags"], document.EveryKey (typeName · ≠ "")) ∧
    typeName "entry" ≠ "" ∧
    ∃ t u, Shape.reduce (Shape.seeds "entry" [listUnder "tags"]) = .ok t ∧
      t.refine {} "entry" = .ok u ∧ ∀ type ∈ (ofShape u).types, type.name ≠ "" := by
  have distinct : ∀ document ∈ [listUnder "tags"], document.Distinct :=
    List.forall_mem_singleton.2 (distinct_listUnder "tags")
  have keys : ∀ document ∈ [listUnder "tags"], document.EveryKey (typeName · ≠ "") :=
    List.forall_mem_singleton.2 (everyKey_listUnder (by decide))
  have root : typeName "entry" ≠ "" := by decide
  have under : ∀ document ∈ [listUnder "tags"],
      document.ObjectsUnder dropLast (typeName · ≠ "") "entry" := by
    rw [List.forall_mem_singleton]
    refine .object root ?_
    rw [List.forall_mem_singleton]
    refine .array ?_
    rw [List.forall_mem_singleton]
    refine .object (by decide) ?_
    rw [List.forall_mem_singleton]
    exact .scalar rfl
  obtain ⟨t, u, ok, refined, _⟩ := inferred_listUnder "tags"
  exact ⟨distinct, keys, root, t, u, ok, refined,
    (type_names_filled distinct keys root ok refined).2.1 under⟩

/-- The singular of `a` has no letter left for the objects in its list. -/
theorem not_every_type_named :
    ¬ ∀ (documents : List Json) (name : String) (throughOptionals : Bool) (t u : Shape),
      (∀ document ∈ documents, document.Distinct) →
      (∀ document ∈ documents, document.EveryKey (typeName · ≠ "")) → typeName name ≠ "" →
      Shape.reduce (Shape.seeds name documents) = .ok t →
      t.refine { throughOptionals } name = .ok u → ∀ type ∈ (ofShape u).types, type.name ≠ "" := by
  intro all
  obtain ⟨t, u, ok, refined, names⟩ := inferred_listUnder "a"
  have distinct := List.forall_mem_singleton.2 (distinct_listUnder "a")
  have named : typeName "a" ≠ "" := by decide
  have keys := List.forall_mem_singleton.2 (everyKey_listUnder named)
  have filled := all [listUnder "a"] "entry" false t u distinct keys (by decide) ok refined
  rw [← List.forall_mem_map (f := RecordType.name) (P := (· ≠ "")), names] at filled
  exact filled "" (by decide) rfl

end Model

end ShapeInference
