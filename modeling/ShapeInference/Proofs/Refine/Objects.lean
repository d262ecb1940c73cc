import ShapeInference.Proofs.Naming
import ShapeInference.Proofs.Refine.Places

/-! The visited objects of a shape, with the names of their places.

Merging loses no object, and refining names each object that it visits after its place. So an object
is left without a name exactly if its place has none.
-/

set_option autoImplicit false

namespace ShapeInference

open Shape (mergeFields mergeOnto)

namespace Refinement

def through (r : Refinement) : Refinement := { r with throughOptionals := true }

/-- A property of the visited objects, of the name of their place and of their own name. -/
def Objects (r : Refinement) (p : String → String → Prop) (name : String) (t : Shape) : Prop :=
  ∀ key n fields, (key, .object n fields) ∈ r.places name t → p key n

section
variable {r : Refinement} {p q : String → String → Prop} {name n : String} {t : Shape}

theorem objects_leaf (leaf : t.isLeaf = true) : r.Objects p name t := by
  intro key n fields inside
  cases t with
  | optional | object | array => cases leaf
  | _ => cases List.mem_singleton.1 inside

theorem objects_optional : r.Objects p name (.optional t) ↔
    (r.throughOptionals = true → r.Objects p name t) := by
  unfold Objects
  rw [places]
  cases r.throughOptionals with
  | false => simp
  | true => simp

theorem objects_object {fields : Fields} : r.Objects p name (.object n fields) ↔
    p name n ∧ ∀ field ∈ fields, r.Objects p field.1 field.2 := by
  unfold Objects
  simp only [places, List.mem_cons, mem_fieldPlaces]
  constructor
  · intro all
    refine ⟨all name n fields (.inl rfl), ?_⟩
    intro field member key m inner inside
    exact all key m inner (.inr ⟨field, member, inside⟩)
  · rintro ⟨own, below⟩ key m inner (same | ⟨field, member, inside⟩)
    · cases same
      exact own
    · exact below field member key m inner inside

theorem objects_array {values : List Shape} : r.Objects p name (.array n values) ↔
    ∀ value ∈ values, r.Objects p (r.singular name) value := by
  unfold Objects
  simp only [places, List.mem_cons, mem_valuePlaces]
  constructor
  · intro all value member key m inner inside
    exact all key m inner (.inr ⟨value, member, inside⟩)
  · rintro below key m inner (same | ⟨value, member, inside⟩)
    · cases same
    · exact below value member key m inner inside

theorem objects_asValues : r.Objects p name (.array n t.asValues) ↔
    r.Objects p (r.singular name) t := by
  rw [objects_array]
  unfold Shape.asValues
  split
  · next nothing =>
    rw [Shape.eq_empty_of_kind nothing]
    exact iff_of_true (List.forall_mem_nil _) (objects_leaf rfl)
  · exact List.forall_mem_singleton

theorem Objects.of_through (h : r.through.Objects p name t) : r.Objects p name t := by
  induction t generalizing name with
  | optional inner ih =>
    rw [objects_optional] at h ⊢
    exact fun _ => ih (h rfl)
  | object n fields ih =>
    rw [objects_object] at h ⊢
    exact ⟨h.1, fun field member => ih field member (h.2 field member)⟩
  | array n values ih =>
    rw [objects_array] at h ⊢
    exact fun value member => ih value member (h value member)
  | _ => exact objects_leaf rfl

/-! Optionals that are gone through. -/

theorem objects_optional_through :
    r.through.Objects p name (.optional t) ↔ r.through.Objects p name t := by
  rw [objects_optional]
  exact forall_prop_of_true rfl

theorem objects_orAbsent : r.through.Objects p name t.orAbsent ↔ r.through.Objects p name t := by
  cases t with
  | empty => exact iff_of_true (objects_leaf rfl) (objects_leaf rfl)
  | absent | optional => exact Iff.rfl
  | _ => exact objects_optional_through

theorem objects_unwrapped :
    r.through.Objects p name t.unwrapped ↔ r.through.Objects p name t := by
  cases t with
  | optional inner => exact objects_optional_through.symm
  | _ => exact Iff.rfl

end

/-! Merging. -/

section
variable {p : String → String → Prop} {name : String}

theorem kept_objects (r : Refinement) (p : String → String → Prop) :
    Shape.Kept (fun _ key => key) r.singular (fun _ => True) (r.through.Objects p) where
  kinds _ _ := trivial
  leaf _ _ leaf := objects_leaf leaf
  inner _ _ h := objects_optional_through.1 h
  orAbsent _ _ h := objects_orAbsent.2 h
  objectNames _ _ _ _ _ _ _ _ := trivial
  member _ _ _ _ _ h inside := (objects_object.1 h).2 _ inside
  object _ _ _ _ h all := objects_object.2 ⟨(objects_object.1 h).1, all⟩
  arrayNames _ _ _ _ _ _ _ _ := trivial
  value _ _ _ _ h inside := objects_array.1 h _ inside
  array _ _ _ _ _ h := objects_asValues.2 h

def Reflects (r : Refinement) (p : String → String → Prop) (name : String) (a b t : Shape) : Prop :=
  r.through.Objects p name t → r.through.Objects p name a ∧ r.through.Objects p name b

variable {r : Refinement}

theorem reflects_mergeOnto {values : List Shape}
    (step : ∀ front value back acc, values = front ++ value :: back →
      mergeOnto .empty front = .ok acc →
      Yields (fun _ => True) (Reflects r p name acc value) (acc.merge value)) :
    Yields (fun _ => True)
      (fun t => r.through.Objects p name t → ∀ value ∈ values, r.through.Objects p name value)
      (mergeOnto .empty values) := by
  apply Shape.yields_mergeOnto_front (Q := fun front acc => r.through.Objects p name acc →
    ∀ value ∈ front, r.through.Objects p name value) fun _ => List.forall_mem_nil _
  intro front value back acc split reached holds
  refine (step front value back acc split reached).imp fun t sides h => ?_
  rw [List.forall_mem_append, List.forall_mem_singleton]
  exact ⟨holds (sides h).1, (sides h).2⟩

theorem reflects_object {n : String} {left right : Fields}
    (onceLeft : (Members.keys left).Nodup) (onceRight : (Members.keys right).Nodup)
    (both : ∀ key a b, (key, a) ∈ left → right.lookup key = some b →
      Yields (fun _ => True) (Reflects r p key a b) (a.merge b)) {shared : Fields}
    (ok : mergeFields left right = .ok shared) :
    Reflects r p name (.object n left) (.object n right)
      (.object n (shared ++ Shape.fieldsOnlyIn left right)) := by
  intro h
  obtain ⟨own, all⟩ := objects_object.1 h
  rw [List.forall_mem_append] at all
  have joined {key : String} {a : Shape} (inside : (key, a) ∈ left) :
      ∃ t, r.through.Objects p key t ∧ Shape.Joins right key a t := by
    obtain ⟨t, found, joins⟩ :=
      Shape.lookup_mergeFields ok (Members.lookup_of_mem onceLeft inside)
    exact ⟨t, all.1 _ (Members.mem_of_lookup found), joins⟩
  constructor
  · refine objects_object.2 ⟨own, fun ⟨key, a⟩ inside => ?_⟩
    obtain ⟨t, holds, joins⟩ := joined inside
    cases joins with
    | alone => exact objects_orAbsent.1 holds
    | both found merged => exact ((both key a _ inside found).of_ok merged holds).1
  · refine objects_object.2 ⟨own, fun ⟨key, b⟩ inside => ?_⟩
    have found := Members.lookup_of_mem onceRight inside
    cases known : left.lookup key with
    | none =>
      have added : (Shape.fieldsOnlyIn left right).lookup key = some b.orAbsent := by
        rw [Shape.lookup_fieldsOnlyIn, if_pos known, found, Option.map_some]
      exact objects_orAbsent.1 (all.2 _ (Members.mem_of_lookup added))
    | some a =>
      have inLeft := Members.mem_of_lookup known
      obtain ⟨t, holds, joins⟩ := joined inLeft
      cases joins with
      | alone missing => rw [found] at missing; cases missing
      | both other merged =>
        cases found.symm.trans other
        exact ((both key a b inLeft found).of_ok merged holds).2

/-- Merging loses no object, if no key stands in an object twice. -/
theorem merges_reflects (r : Refinement) (p : String → String → Prop) :
    Shape.MergeCalls fun a b => ∀ name, a.Distinct → b.Distinct →
      Yields (fun _ => True) (Reflects r p name a b) (a.merge b) where
  emptyLeft b name _ _ := by
    rw [Shape.empty_merge]
    exact fun h => ⟨objects_leaf rfl, h⟩
  emptyRight a name _ _ := by
    rw [Shape.merge_empty]
    exact fun h => ⟨h, objects_leaf rfl⟩
  absentLeft b name _ _ := by
    rw [Shape.absent_merge_eq]
    exact fun h => ⟨objects_leaf rfl, objects_unwrapped.1 (objects_orAbsent.1 h)⟩
  absentRight a name _ _ := by
    rw [Shape.merge_absent_eq]
    exact fun h => ⟨objects_unwrapped.1 (objects_orAbsent.1 h), objects_leaf rfl⟩
  optionals a b inner name da db := by
    rw [Shape.optional_merge_optional]
    refine (inner name (Shape.distinct_optional.1 da) (Shape.distinct_optional.1 db)).map ?_
    intro t sides h
    exact (sides (objects_orAbsent.1 h)).imp objects_optional_through.2 objects_optional_through.2
  optionalLeft a b plain seen inner name da db := by
    rw [Shape.optional_merge_of_seen plain seen]
    refine (inner name (Shape.distinct_optional.1 da) db).map fun t sides h => ?_
    exact (sides (objects_orAbsent.1 h)).imp_left objects_optional_through.2
  optionalRight a b plain seen inner name da db := by
    rw [Shape.merge_optional_of_seen plain seen]
    refine (inner name (Shape.distinct_optional.1 db) da).map fun t sides h => ?_
    exact (sides (objects_orAbsent.1 h)).symm.imp_right objects_optional_through.2
  different a b plainLeft plainRight seenLeft seenRight different name _ _ := by
    rw [Shape.merge_of_kind_ne plainLeft plainRight seenLeft seenRight different]
    trivial
  leaves a b left right same name _ _ := by
    cases a.merge b with
    | error e => trivial
    | ok t => exact fun _ => ⟨objects_leaf left, objects_leaf right⟩
  object n m left right both name da db := by
    obtain ⟨onceLeft, belowLeft⟩ := Shape.distinct_object.1 da
    obtain ⟨onceRight, belowRight⟩ := Shape.distinct_object.1 db
    rw [Shape.object_merge_object]
    split
    · next same =>
      subst same
      cases merged : mergeFields left right with
      | error e => trivial
      | ok shared =>
        refine reflects_object onceLeft onceRight (fun key a b inLeft found => ?_) merged
        exact both key a b inLeft found key (belowLeft _ inLeft)
          (belowRight _ (Members.mem_of_lookup found))
    · trivial
  array n m left right pooled name da db := by
    have inPool : ∀ value ∈ left ++ right, value.Distinct :=
      List.forall_mem_append.2 ⟨Shape.distinct_array.1 da, Shape.distinct_array.1 db⟩
    rw [Shape.array_merge_array, Shape.representative_eq]
    split
    · have pool : Yields (fun _ => True) (fun t => r.through.Objects p (r.singular name) t →
          ∀ value ∈ left ++ right, r.through.Objects p (r.singular name) value)
          (mergeOnto .empty (left ++ right)) := by
        apply reflects_mergeOnto
        intro front value back acc split reached
        obtain ⟨dAcc, dValue⟩ := Shape.distinct_split inPool split reached
        exact pooled front value back acc split reached _ dAcc dValue
      cases merged : mergeOnto .empty (left ++ right) with
      | error e => trivial
      | ok t =>
        intro h
        have all := pool.of_ok merged (objects_asValues.1 h)
        rw [List.forall_mem_append] at all
        exact ⟨objects_array.2 all.1, objects_array.2 all.2⟩
    · trivial

theorem objects_of_mergeOnto {values : List Shape} {t : Shape}
    (distinct : ∀ value ∈ values, value.Distinct) (ok : mergeOnto .empty values = .ok t)
    (h : r.through.Objects p name t) : ∀ value ∈ values, r.through.Objects p name value := by
  refine (reflects_mergeOnto fun front value back acc split reached => ?_).of_ok ok h
  obtain ⟨dAcc, dValue⟩ := Shape.distinct_split distinct split reached
  exact (merges_reflects r p).all acc value name dAcc dValue

end

/-! Refining. -/

section
variable {r : Refinement} {name : String} {t u : Shape}

def Titled (_ n : String) : Prop := typeName n ≠ ""

def Placed (key _ : String) : Prop := typeName key ≠ ""

theorem titled_typeName {key n : String} : Titled key (typeName key) ↔ Placed key n := by
  rw [Titled, Placed, typeName_typeName]

/-- What is visited gets the name of its place, and the rest has a name already. -/
theorem yields_titled (placed : r.Objects Placed name t) (titled : r.through.Objects Titled name t) :
    Yields (fun _ => True) (r.through.Objects Titled name) (t.refine r name) := by
  induction t generalizing name with
  | text sample =>
    rw [refine_text]
    exact objects_leaf (Literal.isLeaf_promoted sample)
  | optional inner ih =>
    rw [refine_optional]
    split
    · next through =>
      have refined := ih (objects_optional.1 placed through) (objects_optional_through.1 titled)
      exact refined.map fun u => objects_orAbsent.2
    · exact titled
  | object n fields ih =>
    obtain ⟨own, below⟩ := objects_object.1 placed
    have members := yields_fields fun field member =>
      ih field member (below field member) ((objects_object.1 titled).2 field member)
    rw [refine_object]
    exact members.map fun refined all => objects_object.2 ⟨titled_typeName.2 own, all⟩
  | array n values ih =>
    have elements := yields_values fun value member =>
      ih value member (objects_array.1 placed value member) (objects_array.1 titled value member)
    have merged := elements.bind fun refined _ all => (kept_objects r Titled).mergeOnto all.2
    rw [refine_array_mergeOnto]
    exact merged.map fun u => objects_asValues.2
  | _ => exact objects_leaf rfl

/-- No visited object is lost, and its name comes from its place. -/
theorem placed_of_refine (distinct : t.Distinct) (ok : t.refine r name = .ok u)
    (titled : r.through.Objects Titled name u) : r.Objects Placed name t := by
  induction t generalizing name u with
  | optional inner ih =>
    refine objects_optional.2 fun through => ?_
    rw [refine_optional, if_pos through] at ok
    obtain ⟨v, refined, rfl⟩ := map_eq_ok.1 ok
    exact ih (Shape.distinct_optional.1 distinct) refined (objects_orAbsent.1 titled)
  | object n fields ih =>
    rw [refine_object] at ok
    obtain ⟨refined, members, rfl⟩ := map_eq_ok.1 ok
    obtain ⟨own, below⟩ := objects_object.1 titled
    refine objects_object.2 ⟨titled_typeName.1 own, fun field inside => ?_⟩
    obtain ⟨v, kept, made⟩ := exists_refined_field members inside
    exact ih field inside ((Shape.distinct_object.1 distinct).2 field inside) made (below _ kept)
  | array n values ih =>
    rw [refine_array_mergeOnto] at ok
    obtain ⟨v, pooled, rfl⟩ := map_eq_ok.1 ok
    obtain ⟨refined, elements, merged⟩ := bind_eq_ok.1 pooled
    rw [Shape.distinct_array] at distinct
    have once := (yields_values fun value inside =>
      yields_refine_distinct r (r.singular name) (distinct value inside)).of_ok elements
    have all := objects_of_mergeOnto once.2 merged (objects_asValues.1 titled)
    refine objects_array.2 fun value inside => ?_
    obtain ⟨w, kept, made⟩ := exists_refined_value elements inside
    exact ih value inside (distinct value inside) made (all w kept)
  | _ => exact objects_leaf rfl

end

end Refinement

end ShapeInference
