import ShapeInference.Proofs.Documents.Seed
import ShapeInference.Proofs.Merge.Reordered
import ShapeInference.Proofs.Refine.Rules

/-! Documents with their members in another order.

Reducing them fails at the same sample, or the reduced shapes differ in no more than the order of
fields. The refined shapes then differ in no more than that either.
-/

set_option autoImplicit false

namespace ShapeInference

open Members (Matched)

/-- The same documents but for the order of members. The keys of every object are distinct. -/
inductive Json.Reordered : Json → Json → Prop where
  | scalar {v : Json} : v.isScalar = true → Reordered v v
  | array {left right : List Json} : List.Forall₂ Reordered left right →
      Reordered (.array left) (.array right)
  | object {left right : Members Json} : left.keys.Nodup → left.keys.Perm right.keys →
      (∀ key v w, left.lookup key = some v → right.lookup key = some w → Reordered v w) →
      Reordered (.object left) (.object right)

namespace Shape

theorem reordered_ofJson {v w : Json} (h : v.Reordered w) (name : String) :
    Reordered (ofJson name v) (ofJson name w) := by
  induction v generalizing name w with
  | array elements ih =>
    cases h with
    | scalar scalar => cases scalar
    | array paired =>
      rw [ofJson_array, ofJson_array]
      refine .array name ?_
      rw [List.forall₂_map_left_iff, List.forall₂_map_right_iff]
      exact ((List.forall₂_and_left _ _).2 ⟨ih, paired⟩).imp fun v w both => both.1 both.2 name
  | object members ih =>
    cases h with
    | scalar scalar => cases scalar
    | object nodup keys values =>
      rw [ofJson_object, ofJson_object, reordered_object]
      refine ⟨rfl, Matched.map ⟨nodup, keys, values⟩ fun key v w found related => ?_⟩
      exact ih (key, v) (Members.mem_of_lookup found) related key
  | _ =>
    cases h with
    | scalar => exact .leaf rfl

end Shape

namespace Refinement

open Shape (Agree Reordered reordered_mergeOnto reordered_object)

variable {r : Refinement} {name : String}

theorem both_values {values values' : List Shape}
    (paired : List.Forall₂ (fun t t' => Both Reordered (t.refine r name) (t'.refine r name))
      values values') :
    Both (List.Forall₂ Reordered) (r.values name values).outcome
      (r.values name values').outcome := by
  induction paired with
  | nil => exact .ok .nil
  | cons first _ ih =>
    rw [outcome_values_cons, outcome_values_cons]
    exact first.bind fun _ _ related => ih.map fun _ _ => .cons related

theorem both_refine {t t' : Shape} (h : t.Reordered t') (name : String) :
    Both Reordered (t.refine r name) (t'.refine r name) := by
  induction t generalizing t' name with
  | text sample =>
    rw [← h.eq_of_leaf rfl, refine_text]
    exact .ok (.leaf (Literal.isLeaf_promoted sample))
  | optional inner ih =>
    cases h with
    | leaf leaf => cases leaf
    | optional inner =>
      rw [refine_optional, refine_optional]
      split
      · exact (ih inner name).map fun _ _ => .orAbsent
      · exact .ok (.optional inner)
  | object n fields ih =>
    cases h with
    | leaf leaf => cases leaf
    | object _ nodup keys values =>
      have refined := Matched.traverse (f := fun key t => t.refine r key)
        (g := fun key t => t.refine r key) ⟨nodup, keys, values⟩ fun key a b found _ related =>
          ih (key, a) (Members.mem_of_lookup found) related key
      rw [refine_object, refine_object, outcome_fields, outcome_fields]
      exact refined.map fun _ _ matched => reordered_object.2 ⟨rfl, matched⟩
  | array n values ih =>
    cases h with
    | leaf leaf => cases leaf
    | array _ paired =>
      have elements := both_values <| ((List.forall₂_and_left _ _).2 ⟨ih, paired⟩).imp
        fun t t' both => both.1 both.2 (r.singular name)
      rw [refine_array_mergeOnto, refine_array_mergeOnto]
      refine (elements.bind fun _ _ related => reordered_mergeOnto related (.leaf rfl)).map ?_
      exact fun _ _ related => .array _ related.asValues
  | _ =>
    rw [← h.eq_of_leaf rfl]
    exact .ok (.leaf rfl)

theorem agree_refine {t t' : Shape} (h : t.Reordered t') (r : Refinement) (name : String) :
    Agree (t.refine r name) (t'.refine r name) := by
  have refined := both_refine (r := r) h name
  generalize left : t.refine r name = x at refined ⊢
  generalize right : t'.refine r name = y at refined ⊢
  cases refined with
  | ok related => exact .ok related
  | error e e' => exact .error ((sample_of_refine left).trans (sample_of_refine right).symm)

end Refinement

open Shape (Agree Reordered agree_reduce merge_absent_eq mergeOnto_cons ofJson reduce reduce_eq_ok
  reordered_ofJson seeds)

/-- The order of members is free. -/
theorem member_order_free {documents documents' : List Json}
    (same : List.Forall₂ Json.Reordered documents documents') (name : String) :
    Agree (reduce (seeds name documents)) (reduce (seeds name documents')) ∧
      ∀ t t', reduce (seeds name documents) = .ok t → reduce (seeds name documents') = .ok t' →
        ∀ r root, Agree (t.refine r root) (t'.refine r root) := by
  have seeded : List.Forall₂ Reordered (seeds name documents) (seeds name documents') := by
    rw [seeds, seeds, List.forall₂_map_left_iff, List.forall₂_map_right_iff]
    exact same.imp fun v w related => reordered_ofJson related name
  have reduced := agree_reduce seeded
  refine ⟨reduced, fun t t' ok ok' r root => Refinement.agree_refine ?_ r root⟩
  rw [ok, ok'] at reduced
  cases reduced with
  | ok related => exact related

def Json.rex : Json :=
  .object [("name", .string "rex"),
    ("visits", .array [.object [("day", .string "2020-01-01"), ("paid", .bool true)]])]

def Json.rexTurned : Json :=
  .object [("visits", .array [.object [("paid", .bool true), ("day", .string "2020-01-01")]]),
    ("name", .string "rex")]

theorem reordered_rex : Json.rex.Reordered Json.rexTurned := by
  have visit : Matched Json.Reordered [("day", .string "2020-01-01"), ("paid", .bool true)]
      [("paid", .bool true), ("day", .string "2020-01-01")] :=
    .of_perm (by decide) (.swap _ _ _)
      (List.forall_mem_cons.2 ⟨.scalar rfl, List.forall_mem_singleton.2 (.scalar rfl)⟩)
  refine .object (by decide) (.swap _ _ _) fun key v w found found' => ?_
  simp only [Members.lookup_cons, List.lookup_nil] at found found'
  split at found
  · next name =>
    subst name
    cases found
    cases found'
    exact .scalar rfl
  · split at found
    · next visits =>
      subst visits
      cases found
      cases found'
      exact .array (.cons (.object visit.nodup visit.keys visit.values) .nil)
    · cases found

theorem member_order_free_rex :
    List.Forall₂ Json.Reordered [Json.rex, .null] [Json.rexTurned, .null] ∧
      ∃ t t', reduce (seeds "pet" [Json.rex, .null]) = .ok t ∧
        reduce (seeds "pet" [Json.rexTurned, .null]) = .ok t' ∧ t.Reordered t' ∧
        ∀ r root, Agree (t.refine r root) (t'.refine r root) := by
  have same : List.Forall₂ Json.Reordered [Json.rex, .null] [Json.rexTurned, .null] :=
    .cons reordered_rex (.cons (.scalar rfl) .nil)
  have seeded (v : Json) : reduce (seeds "pet" [v, .null]) =
      .ok (ofJson "pet" v).unwrapped.orAbsent := by
    simp [reduce_eq_ok, seeds, ofJson, mergeOnto_cons, Except.bind, merge_absent_eq]
  obtain ⟨reduced, refined⟩ := member_order_free same "pet"
  refine ⟨same, _, _, seeded Json.rex, seeded Json.rexTurned, ?_, ?_⟩
  · rw [seeded, seeded] at reduced
    cases reduced with
    | ok related => exact related
  · exact refined _ _ (seeded Json.rex) (seeded Json.rexTurned)

end ShapeInference
