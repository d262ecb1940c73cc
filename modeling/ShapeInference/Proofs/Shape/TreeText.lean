import ShapeInference.Proofs.Json.Determined
import ShapeInference.Proofs.Shape.WellFormed
import ShapeInference.Shape.Tree

/-! Trees as texts.

A tree names the kind of each node, and a kind tells what its contents are. So the JSON of a tree
tells the tree. There are no numbers in it, so that its text tells the JSON.
-/

set_option autoImplicit false

namespace ShapeInference

theorem Kind.name_inj {first second : Kind} (same : first.name = second.name) :
    first = second := by
  cases first <;> cases second <;> first | rfl | simp [name] at same

theorem NumberKind.name_inj {first second : NumberKind} (same : first.name = second.name) :
    first = second := by
  cases first <;> cases second <;> first | rfl | simp [name] at same

theorem DateFormat.name_inj {first second : DateFormat} (same : first.name = second.name) :
    first = second := by
  cases first <;> cases second <;> first | rfl | simp [name] at same

namespace Shape

section
variable {t u : Shape} {kind : Kind} {value : Json}

theorem valuesToJson_eq_map (values : List Shape) : valuesToJson values = values.map toJson := by
  induction values with
  | nil => rfl
  | cons t rest ih => rw [valuesToJson, ih, List.map_cons]

theorem fieldsToJson_eq_map (fields : Fields) :
    fieldsToJson fields = fields.map fun field => (field.1, field.2.toJson) := by
  induction fields with
  | nil => rfl
  | cons field rest ih => rw [fieldsToJson, ih, List.map_cons]

theorem exists_toJson (t : Shape) :
    ∃ contents, t.toJson = .object (("kind", .string t.kind.name) :: contents) := by
  cases t <;> exact ⟨_, by rw [toJson]; rfl⟩

/-- What an optional holds is not taken for absence. -/
theorem toJson_ne_null (t : Shape) : t.toJson ≠ .null := by
  obtain ⟨contents, whole⟩ := t.exists_toJson
  rw [whole]
  nofun

theorem kind_eq_of_toJson (same : t.toJson = u.toJson) : t.kind = u.kind := by
  obtain ⟨contents, whole⟩ := t.exists_toJson
  obtain ⟨contents', whole'⟩ := u.exists_toJson
  rw [whole, whole'] at same
  injection same with members
  injection (List.cons.inj members).1 with _ kinds
  injection kinds with names
  exact Kind.name_inj names

theorem node_inj {value' : Json} (same : node kind value = node kind value') : value = value' := by
  injection same with members
  injection (List.cons.inj (List.cons.inj members).2).1

theorem values_inj {values others : List Shape}
    (each : ∀ t ∈ values, ∀ u : Shape, t.toJson = u.toJson → t = u)
    (same : valuesToJson values = valuesToJson others) : values = others := by
  induction values generalizing others with
  | nil =>
    cases others with
    | nil => rfl
    | cons u others => cases same
  | cons t values ih =>
    cases others with
    | nil => cases same
    | cons u others =>
      rw [List.forall_mem_cons] at each
      rw [valuesToJson, valuesToJson] at same
      injection same with first rest
      rw [each.1 u first, ih each.2 rest]

theorem fields_inj {fields others : Fields}
    (each : ∀ field ∈ fields, ∀ u : Shape, field.2.toJson = u.toJson → field.2 = u)
    (same : fieldsToJson fields = fieldsToJson others) : fields = others := by
  induction fields generalizing others with
  | nil =>
    cases others with
    | nil => rfl
    | cons other others => cases same
  | cons field fields ih =>
    obtain ⟨key, t⟩ := field
    cases others with
    | nil => cases same
    | cons other others =>
      obtain ⟨key', u⟩ := other
      rw [List.forall_mem_cons] at each
      rw [fieldsToJson, fieldsToJson] at same
      injection same with first rest
      injection first with keys value
      have values : t = u := each.1 u value
      rw [keys, values, ih each.2 rest]

theorem toJson_inj (same : t.toJson = u.toJson) : t = u := by
  have kinds := kind_eq_of_toJson same
  induction t generalizing u with
  | empty =>
    cases u with
    | empty => rfl
    | _ => cases kinds
  | absent =>
    cases u with
    | absent => rfl
    | optional inner => exact absurd (node_inj same).symm inner.toJson_ne_null
    | _ => cases kinds
  | optional inner ih =>
    cases u with
    | absent => exact absurd (node_inj same) inner.toJson_ne_null
    | optional other =>
      have value := node_inj same
      rw [ih value (kind_eq_of_toJson value)]
    | _ => cases kinds
  | bool sample =>
    cases u with
    | bool other =>
      injection node_inj same with samples
      rw [samples]
    | _ => cases kinds
  | number kind =>
    cases u with
    | number other =>
      injection node_inj same with names
      rw [NumberKind.name_inj names]
    | _ => cases kinds
  | text sample =>
    cases u with
    | text other =>
      injection node_inj same with samples
      rw [samples]
    | _ => cases kinds
  | object name fields ih =>
    cases u with
    | object other fields' =>
      have contents := node_inj same
      simp only [Json.object.injEq, List.cons.injEq, Prod.mk.injEq, Json.string.injEq, true_and,
        and_true] at contents
      obtain ⟨rfl, members⟩ := contents
      rw [fields_inj (fun field member u same => ih field member same (kind_eq_of_toJson same))
        members]
    | _ => cases kinds
  | array name values ih =>
    cases u with
    | array other values' =>
      have contents := node_inj same
      simp only [Json.object.injEq, Json.array.injEq, List.cons.injEq, Prod.mk.injEq,
        Json.string.injEq, true_and, and_true] at contents
      obtain ⟨rfl, elements⟩ := contents
      rw [values_inj (fun t member u same => ih t member same (kind_eq_of_toJson same)) elements]
    | _ => cases kinds
  | url literal =>
    cases u with
    | url other =>
      injection node_inj same with literals
      rw [literals]
    | _ => cases kinds
  | date format =>
    cases u with
    | date other =>
      injection node_inj same with names
      rw [DateFormat.name_inj names]
    | _ => cases kinds

theorem numberless_pair {first second text : String} (h : value.Numberless) :
    (Json.object [(first, .string text), (second, value)]).Numberless := by
  apply Json.Numberless.object
  rw [List.forall_mem_cons, List.forall_mem_singleton]
  exact ⟨.string text, h⟩

theorem numberless_toJson (t : Shape) : t.toJson.Numberless := by
  induction t with
  | empty =>
    apply Json.Numberless.object
    rw [List.forall_mem_singleton]
    exact .string _
  | absent => exact numberless_pair .null
  | optional inner ih => exact numberless_pair ih
  | bool sample => exact numberless_pair (.bool sample)
  | number kind => exact numberless_pair (.string _)
  | text sample => exact numberless_pair (.string _)
  | object name fields ih =>
    refine numberless_pair (numberless_pair (.object ?_))
    rw [fieldsToJson_eq_map, List.forall_mem_map]
    exact ih
  | array name values ih =>
    refine numberless_pair (numberless_pair (.array ?_))
    rw [valuesToJson_eq_map, List.forall_mem_map]
    exact ih
  | url literal => exact numberless_pair (.string _)
  | date format => exact numberless_pair (.string _)

end

/-- Two trees have the same text only if they are the same. -/
theorem treeText_unambiguous (t u : Shape) : t.treeText = u.treeText ↔ t = u := by
  refine ⟨fun same => ?_, congrArg treeText⟩
  have chars : Json.compactChars t.toJson = Json.compactChars u.toJson := String.ofList_inj.1 same
  have whole : Json.compactChars t.toJson ++ [] = Json.compactChars u.toJson ++ [] := by rw [chars]
  exact toJson_inj (t.numberless_toJson.determined _ _ _ u.numberless_toJson whole).1

end Shape

end ShapeInference
