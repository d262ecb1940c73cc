import ShapeInference.Proofs.Members
import ShapeInference.Shape.Merge

/-! The nodes of a shape, and the properties of shapes that merging relies on.

In a well-formed shape an optional stands around neither nothing nor another optional, so such a
shape is its bare shape and one bit. In a distinct shape no object has a key twice. In a condensed
shape the elements of every array are merged already.
-/

set_option autoImplicit false

namespace ShapeInference.Shape

/-- Induction that reaches every field and every element. -/
@[elab_as_elim, induction_eliminator]
theorem induction {motive : Shape → Prop} (empty : motive .empty) (absent : motive .absent)
    (optional : ∀ inner, motive inner → motive (.optional inner))
    (bool : ∀ sample, motive (.bool sample)) (number : ∀ kind, motive (.number kind))
    (text : ∀ sample, motive (.text sample))
    (object : ∀ name fields, (∀ field ∈ fields, motive field.2) → motive (.object name fields))
    (array : ∀ name values, (∀ value ∈ values, motive value) → motive (.array name values))
    (url : ∀ literal, motive (.url literal)) (date : ∀ format, motive (.date format)) :
    ∀ t, motive t
  | .empty => empty
  | .absent => absent
  | .optional inner => optional inner
      (induction empty absent optional bool number text object array url date inner)
  | .bool sample => bool sample
  | .number kind => number kind
  | .text sample => text sample
  | .object name fields => object name fields fun field _ =>
      induction empty absent optional bool number text object array url date field.2
  | .array name values => array name values fun value _ =>
      induction empty absent optional bool number text object array url date value
  | .url literal => url literal
  | .date format => date format
termination_by t => sizeOf t
decreasing_by
  · simp
  · have := List.sizeOf_lt_of_mem ‹_›
    have : sizeOf field.2 < sizeOf field := by
      obtain ⟨key, t⟩ := field
      simp only [Prod.mk.sizeOf_spec]
      omega
    simp; omega
  · have := List.sizeOf_lt_of_mem ‹_›
    simp; omega

/-! Nodes. -/

mutual

def nodes : Shape → List Shape
  | .optional t => .optional t :: t.nodes
  | .object name fields => .object name fields :: fieldNodes fields
  | .array name values => .array name values :: valueNodes values
  | t => [t]

def fieldNodes : List (String × Shape) → List Shape
  | [] => []
  | (_, t) :: rest => t.nodes ++ fieldNodes rest

def valueNodes : List Shape → List Shape
  | [] => []
  | t :: rest => t.nodes ++ valueNodes rest

end

theorem mem_fieldNodes {node : Shape} {fields : Fields} :
    node ∈ fieldNodes fields ↔ ∃ field ∈ fields, node ∈ field.2.nodes := by
  induction fields with
  | nil => simp [fieldNodes]
  | cons field rest ih => simp [fieldNodes, ih]

theorem mem_valueNodes {node : Shape} {values : List Shape} :
    node ∈ valueNodes values ↔ ∃ value ∈ values, node ∈ value.nodes := by
  induction values with
  | nil => simp [valueNodes]
  | cons value rest ih => simp [valueNodes, ih]

def Everywhere (p : Shape → Prop) (t : Shape) : Prop := ∀ node ∈ t.nodes, p node

section
variable {p : Shape → Prop}

@[simp] theorem everywhere_optional {t : Shape} :
    (optional t).Everywhere p ↔ p (optional t) ∧ t.Everywhere p := by
  simp [Everywhere, nodes]

@[simp] theorem everywhere_object {name : String} {fields : Fields} :
    (object name fields).Everywhere p ↔
      p (object name fields) ∧ ∀ field ∈ fields, field.2.Everywhere p := by
  simp only [Everywhere, nodes, List.forall_mem_cons, mem_fieldNodes]
  refine and_congr_right fun _ => ⟨fun all field member node below => ?_, ?_⟩
  · exact all node ⟨field, member, below⟩
  · rintro all node ⟨field, member, below⟩
    exact all field member node below

@[simp] theorem everywhere_array {name : String} {values : List Shape} :
    (array name values).Everywhere p ↔
      p (array name values) ∧ ∀ value ∈ values, value.Everywhere p := by
  simp only [Everywhere, nodes, List.forall_mem_cons, mem_valueNodes]
  refine and_congr_right fun _ => ⟨fun all value member node below => ?_, ?_⟩
  · exact all node ⟨value, member, below⟩
  · rintro all node ⟨value, member, below⟩
    exact all value member node below

theorem Everywhere.node {t node : Shape} (h : t.Everywhere p)
    (inside : node ∈ t.nodes) : node.Everywhere p := by
  induction t with
  | optional inner ih =>
    rw [nodes, List.mem_cons] at inside
    rcases inside with rfl | below
    · exact h
    · exact ih (everywhere_optional.1 h).2 below
  | object name fields ih =>
    rw [nodes, List.mem_cons, mem_fieldNodes] at inside
    rcases inside with rfl | ⟨field, member, below⟩
    · exact h
    · exact ih field member ((everywhere_object.1 h).2 field member) below
  | array name values ih =>
    rw [nodes, List.mem_cons, mem_valueNodes] at inside
    rcases inside with rfl | ⟨value, member, below⟩
    · exact h
    · exact ih value member ((everywhere_array.1 h).2 value member) below
  | _ =>
    simp only [nodes, List.mem_singleton] at inside
    rwa [inside]

end

/-- An optional stands around neither nothing nor another optional. -/
def Collapsed : Shape → Prop
  | .optional inner => inner.kind ≠ .empty ∧ inner.kind ≠ .optional
  | _ => True

def KeysOnce : Shape → Prop
  | .object _ fields => (Members.keys fields).Nodup
  | _ => True

def SingleValue : Shape → Prop
  | .array _ values => values.length ≤ 1 ∧ ∀ value ∈ values, value.kind ≠ .empty
  | _ => True

instance (t : Shape) : Decidable t.Collapsed := by
  cases t <;> unfold Collapsed <;> infer_instance

instance (t : Shape) : Decidable t.KeysOnce := by
  cases t <;> unfold KeysOnce <;> infer_instance

instance (t : Shape) : Decidable t.SingleValue := by
  cases t <;> unfold SingleValue <;> infer_instance

/-- No optional of the shape stands around nothing or around another optional. -/
def WellFormed (t : Shape) : Prop := t.Everywhere Collapsed

def Distinct (t : Shape) : Prop := t.Everywhere KeysOnce

/-- Every array of the shape holds one value, which is not empty, or none. -/
def Condensed (t : Shape) : Prop := t.Everywhere SingleValue

instance (t : Shape) : Decidable t.WellFormed :=
  inferInstanceAs (Decidable (∀ node ∈ t.nodes, node.Collapsed))

instance (t : Shape) : Decidable t.Distinct :=
  inferInstanceAs (Decidable (∀ node ∈ t.nodes, node.KeysOnce))

instance (t : Shape) : Decidable t.Condensed :=
  inferInstanceAs (Decidable (∀ node ∈ t.nodes, node.SingleValue))

section
variable {name : String} {inner : Shape} {fields : Fields} {values : List Shape}

theorem wellFormed_of_leaf {t : Shape} (leaf : t.nodes = [t]) (plain : t.isOptional = false) :
    t.WellFormed := by
  intro node member
  rw [leaf, List.mem_singleton] at member
  subst member
  cases node with
  | optional inner => simp [isOptional, kind] at plain
  | _ => trivial

@[simp] theorem wellFormed_empty : empty.WellFormed := wellFormed_of_leaf rfl rfl

@[simp] theorem wellFormed_absent : absent.WellFormed := by
  simp [WellFormed, Everywhere, nodes, Collapsed]

theorem wellFormed_optional : (optional inner).WellFormed ↔
    (inner.kind ≠ .empty ∧ inner.kind ≠ .optional) ∧ inner.WellFormed := by
  simp [WellFormed, Collapsed]

@[simp] theorem wellFormed_object :
    (object name fields).WellFormed ↔ ∀ field ∈ fields, field.2.WellFormed := by
  simp [WellFormed, Collapsed]

@[simp] theorem wellFormed_array :
    (array name values).WellFormed ↔ ∀ value ∈ values, value.WellFormed := by
  simp [WellFormed, Collapsed]

theorem distinct_of_leaf {t : Shape} (leaf : t.nodes = [t]) (plain : t.kind ≠ .object) :
    t.Distinct := by
  intro node member
  rw [leaf, List.mem_singleton] at member
  subst member
  cases node with
  | object name fields => exact absurd rfl plain
  | _ => trivial

@[simp] theorem distinct_empty : empty.Distinct := distinct_of_leaf rfl (by decide)

@[simp] theorem distinct_absent : absent.Distinct := distinct_of_leaf rfl (by decide)

@[simp] theorem distinct_optional : (optional inner).Distinct ↔ inner.Distinct := by
  simp [Distinct, KeysOnce]

@[simp] theorem distinct_object : (object name fields).Distinct ↔
    (Members.keys fields).Nodup ∧ ∀ field ∈ fields, field.2.Distinct := by
  simp [Distinct, KeysOnce]

@[simp] theorem distinct_array :
    (array name values).Distinct ↔ ∀ value ∈ values, value.Distinct := by
  simp [Distinct, KeysOnce]

@[simp] theorem condensed_optional : (optional inner).Condensed ↔ inner.Condensed := by
  simp [Condensed, SingleValue]

@[simp] theorem condensed_object :
    (object name fields).Condensed ↔ ∀ field ∈ fields, field.2.Condensed := by
  simp [Condensed, SingleValue]

theorem condensed_array : (array name values).Condensed ↔
    (array name values).SingleValue ∧ ∀ value ∈ values, value.Condensed := by
  simp [Condensed]

end

/-! Shapes without the optionals around them. -/

def bare : Shape → Shape
  | .absent => .empty
  | .optional t => t.bare
  | t => t

def orAbsentIf (flag : Bool) (t : Shape) : Shape := if flag then t.orAbsent else t

@[simp] theorem isOptional_bare (t : Shape) : t.bare.isOptional = false := by
  induction t with
  | optional inner ih => exact ih
  | _ => rfl

theorem bare_of_not_isOptional {t : Shape} (plain : t.isOptional = false) : t.bare = t := by
  cases t <;> simp_all [isOptional, kind, bare]

@[simp] theorem bare_orAbsent (t : Shape) : t.orAbsent.bare = t.bare := by
  cases t <;> rfl

@[simp] theorem bare_orAbsentIf (flag : Bool) (t : Shape) : (t.orAbsentIf flag).bare = t.bare := by
  cases flag <;> simp [orAbsentIf]

@[simp] theorem bare_bare (t : Shape) : t.bare.bare = t.bare :=
  bare_of_not_isOptional (isOptional_bare t)

theorem depth_bare (t : Shape) : t.bare.depth = t.depth := by
  induction t with
  | optional inner ih => simpa [bare, depth] using ih
  | _ => rfl

theorem WellFormed.orAbsentIf_bare {t : Shape} (h : t.WellFormed) :
    t.bare.orAbsentIf t.isOptional = t := by
  cases t with
  | optional inner =>
    obtain ⟨⟨notEmpty, notOptional⟩, _⟩ := wellFormed_optional.1 h
    cases inner <;> simp_all [kind, bare, orAbsentIf, isOptional, orAbsent]
  | _ => rfl

theorem WellFormed.bare {t : Shape} (h : t.WellFormed) : t.bare.WellFormed := by
  induction t with
  | absent => exact wellFormed_empty
  | optional inner ih => exact ih (wellFormed_optional.1 h).2
  | _ => exact h

theorem WellFormed.orAbsent {t : Shape} (h : t.WellFormed) : t.orAbsent.WellFormed := by
  cases t with
  | empty => exact wellFormed_absent
  | absent => exact h
  | optional inner => exact h
  | _ => exact wellFormed_optional.2 ⟨by simp [kind], h⟩

theorem Distinct.bare {t : Shape} (h : t.Distinct) : t.bare.Distinct := by
  induction t with
  | absent => exact distinct_empty
  | optional inner ih => exact ih (distinct_optional.1 h)
  | _ => exact h

theorem Distinct.orAbsent {t : Shape} (h : t.Distinct) : t.orAbsent.Distinct := by
  cases t with
  | empty => exact distinct_absent
  | absent => exact h
  | optional inner => exact h
  | _ => exact distinct_optional.2 h

structure Tidy (t : Shape) : Prop where
  wellFormed : t.WellFormed
  distinct : t.Distinct

theorem tidy_empty : empty.Tidy := ⟨wellFormed_empty, distinct_empty⟩

theorem tidy_absent : absent.Tidy := ⟨wellFormed_absent, distinct_absent⟩

theorem Tidy.bare {t : Shape} (h : t.Tidy) : t.bare.Tidy := ⟨h.wellFormed.bare, h.distinct.bare⟩

theorem tidy_object {name : String} {fields : Fields} : (object name fields).Tidy ↔
    (Members.keys fields).Nodup ∧ ∀ field ∈ fields, field.2.Tidy := by
  constructor
  · rintro ⟨w, d⟩
    rw [wellFormed_object] at w
    rw [distinct_object] at d
    exact ⟨d.1, fun field member => ⟨w field member, d.2 field member⟩⟩
  · rintro ⟨nodup, all⟩
    exact ⟨wellFormed_object.2 fun field member => (all field member).1,
      distinct_object.2 ⟨nodup, fun field member => (all field member).2⟩⟩

theorem tidy_array {name : String} {values : List Shape} :
    (array name values).Tidy ↔ ∀ value ∈ values, value.Tidy := by
  constructor
  · rintro ⟨w, d⟩ value member
    exact ⟨wellFormed_array.1 w value member, distinct_array.1 d value member⟩
  · intro all
    exact ⟨wellFormed_array.2 fun value member => (all value member).1,
      distinct_array.2 fun value member => (all value member).2⟩

/-! Fields by their keys. -/

/-- What fields show under a key. A missing key counts as absent. -/
def entry (fields : Fields) (key : String) : Shape := (fields.lookup key).getD .absent

section
variable {fields : Fields} {key : String}

theorem entry_of_lookup {t : Shape} (found : fields.lookup key = some t) :
    entry fields key = t := by
  simp [entry, found]

theorem entry_of_missing (missing : fields.lookup key = none) : entry fields key = .absent := by
  simp [entry, missing]

theorem entry_of_forall {p : Shape → Prop} (absent : p .absent)
    (all : ∀ field ∈ fields, p field.2) : p (entry fields key) := by
  cases found : fields.lookup key with
  | none => rwa [entry_of_missing found]
  | some t =>
    rw [entry_of_lookup found]
    exact all _ (Members.mem_of_lookup found)

theorem depth_entry_le : (entry fields key).depth ≤ fieldsDepth fields := by
  cases found : fields.lookup key with
  | none => simp [entry_of_missing found, depth]
  | some t => rw [entry_of_lookup found]; exact depth_le_of_lookup found

theorem depth_le_of_mem_fields {field : String × Shape} (member : field ∈ fields) :
    field.2.depth ≤ fieldsDepth fields := by
  induction fields with
  | nil => cases member
  | cons first rest ih =>
    simp only [fieldsDepth]
    rcases List.mem_cons.1 member with same | later
    · subst same; omega
    · have := ih later; omega

theorem depth_le_of_mem_values {value : Shape} {values : List Shape} (member : value ∈ values) :
    value.depth ≤ valuesDepth values := by
  induction values with
  | nil => cases member
  | cons first rest ih =>
    simp only [valuesDepth]
    rcases List.mem_cons.1 member with same | later
    · subst same; omega
    · have := ih later; omega

end

end ShapeInference.Shape
