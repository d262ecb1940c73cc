import ShapeInference.Proofs.Documents.Seed
import ShapeInference.Proofs.Refine.Settled

/-! No stage of inference nests optionals or leaves something empty.

A shape is filled if none of its nodes is empty. When the elements of an array merge, they start
from an empty shape, so for merging the root has to be let off: a shape counts if all is filled
below its root. The root of a merge is empty only if both roots are.
-/

set_option autoImplicit false

namespace ShapeInference

namespace Shape

/-- No node of the shape is empty. An absent one is not: it was seen, as null. -/
def Filled (t : Shape) : Prop := t.Everywhere fun node => node.kind ≠ .empty

instance (t : Shape) : Decidable t.Filled :=
  inferInstanceAs (Decidable (∀ node ∈ t.nodes, node.kind ≠ .empty))

def FilledBelow (t : Shape) : Prop := t.kind ≠ .empty → t.Filled

section
variable {name : String} {fields : Fields} {values : List Shape} {t : Shape}

theorem filled_of_leaf (leaf : t.isLeaf = true) : t.Filled ↔ t.kind ≠ .empty := everywhere_leaf leaf

@[simp] theorem filled_optional : (optional t).Filled ↔ t.Filled := by
  simp [Filled, kind]

@[simp] theorem filled_object : (object name fields).Filled ↔ ∀ field ∈ fields, field.2.Filled := by
  simp [Filled, kind]

@[simp] theorem filled_array : (array name values).Filled ↔ ∀ value ∈ values, value.Filled := by
  simp [Filled, kind]

theorem Filled.seen (h : t.Filled) : t.kind ≠ .empty := by
  cases t with
  | empty => exact (filled_of_leaf rfl).1 h
  | _ => simp [kind]

theorem Filled.below (h : t.Filled) : t.FilledBelow := fun _ => h

theorem filledBelow_empty : empty.FilledBelow := fun seen => absurd rfl seen

theorem FilledBelow.inner (h : (optional t).FilledBelow) : t.FilledBelow :=
  (filled_optional.1 (h (by simp [kind]))).below

theorem FilledBelow.unwrapped (h : t.FilledBelow) : t.unwrapped.FilledBelow := by
  cases t with
  | optional inner => exact h.inner
  | _ => exact h

theorem FilledBelow.orAbsent (h : t.FilledBelow) : t.orAbsent.Filled := by
  have absent : absent.Filled := (filled_of_leaf rfl).2 (by simp [kind])
  cases t with
  | empty | absent => exact absent
  | optional inner => exact h (by simp [kind])
  | _ => exact filled_optional.2 (h (by simp [kind]))

theorem FilledBelow.asValues (h : t.FilledBelow) : ∀ value ∈ t.asValues, value.Filled := by
  intro value member
  cases mem_asValues member
  apply h
  intro nothing
  rw [asValues_eq_nil.2 nothing] at member
  cases member

end

/-! Merging. -/

theorem yields_filledBelow_orAbsent {x : Except MergeError Shape}
    (h : Yields (fun _ => True) FilledBelow x) :
    Yields (fun _ => True) FilledBelow (x.map Shape.orAbsent) :=
  h.map fun _ inner => inner.orAbsent.below

/-- The root of a merge is empty only if both roots are. -/
theorem yields_filled {a b : Shape} (fa : a.Filled)
    (merged : Yields (fun _ => True) FilledBelow (a.merge b)) :
    Yields (fun _ => True) Filled (a.merge b) := by
  cases outcome : a.merge b with
  | error e => trivial
  | ok t =>
    apply merged.of_ok outcome
    intro nothing
    rw [kind_merge outcome, joinedKind_eq_empty] at nothing
    exact fa.seen nothing.1

theorem merges_filled : MergeCalls fun a b => a.FilledBelow → b.FilledBelow →
    Yields (fun _ => True) FilledBelow (a.merge b) where
  emptyLeft b _ hb := by
    rw [empty_merge]
    exact hb
  emptyRight a ha _ := by
    rw [merge_empty]
    exact ha
  absentLeft b _ hb := by
    rw [absent_merge_eq]
    exact hb.unwrapped.orAbsent.below
  absentRight a ha _ := by
    rw [merge_absent_eq]
    exact ha.unwrapped.orAbsent.below
  optionals a b both ha hb := by
    rw [optional_merge_optional]
    exact yields_filledBelow_orAbsent (both ha.inner hb.inner)
  optionalLeft a b plain seen both ha hb := by
    rw [optional_merge_of_seen plain seen]
    exact yields_filledBelow_orAbsent (both ha.inner hb)
  optionalRight a b plain seen both ha hb := by
    rw [merge_optional_of_seen plain seen]
    exact yields_filledBelow_orAbsent (both hb.inner ha)
  different a b plainLeft plainRight seenLeft seenRight different _ _ := by
    rw [merge_of_kind_ne plainLeft plainRight seenLeft seenRight different]
    trivial
  leaves a b left right same _ _ := by
    have merged := merge_leaves left right same
    cases outcome : a.merge b with
    | error e => trivial
    | ok t => exact (filled_of_leaf (merged.of_ok outcome).1).2
  object n m left right both ha hb := by
    have inLeft := filled_object.1 (ha (by simp [kind]))
    have inRight := filled_object.1 (hb (by simp [kind]))
    rw [object_merge_object]
    split
    · have fields := yields_merged (E := fun _ => True) (Q := fun _ => Filled)
        (fun key a inside => (inLeft _ inside).below.orAbsent)
        (fun key b inside => (inRight _ inside).below.orAbsent)
        fun key a b inside found =>
          have fa := inLeft _ inside
          have fb := inRight _ (Members.mem_of_lookup found)
          yields_filled fa (both key a b inside found fa.below fb.below)
      exact fields.map fun shared all => Filled.below (filled_object.2 all)
    · trivial
  array n m left right pooled ha hb := by
    have inLeft := filled_array.1 (ha (by simp [kind]))
    have inRight := filled_array.1 (hb (by simp [kind]))
    have inPool := List.forall_mem_append.2 ⟨inLeft, inRight⟩
    rw [array_merge_array]
    split
    · have last : Yields (fun _ => True) FilledBelow (mergeOnto empty (left ++ right)) := by
        apply yields_mergeOnto filledBelow_empty
        intro front value back acc split reached holds
        exact pooled front value back acc split reached holds
          (inPool value (by simp [split])).below
      rw [representative_eq]
      cases merged : mergeOnto empty (left ++ right) with
      | error e => trivial
      | ok t => exact Filled.below (filled_array.2 (last.of_ok merged).asValues)
    · trivial

theorem Filled.merge {a b t : Shape} (fa : a.Filled) (fb : b.Filled) (ok : a.merge b = .ok t) :
    t.Filled :=
  (yields_filled fa (merges_filled.all a b fa.below fb.below)).of_ok ok

theorem yields_mergeOnto_filled {values : List Shape} (all : ∀ value ∈ values, value.Filled) :
    Yields (fun _ => True) FilledBelow (mergeOnto empty values) := by
  apply yields_mergeOnto filledBelow_empty
  intro front value back acc split _ holds
  exact merges_filled.all acc value holds (all value (by simp [split])).below

theorem yields_mergeOnto_wellFormed {values : List Shape}
    (all : ∀ value ∈ values, value.WellFormed) :
    Yields (fun _ => True) WellFormed (mergeOnto empty values) := by
  cases merged : mergeOnto empty values with
  | error e => trivial
  | ok t => exact mergeOnto_invariant WellFormed.merge all wellFormed_empty merged

theorem filled_reduce {samples : List Shape} {t : Shape} (some : samples ≠ [])
    (all : ∀ sample ∈ samples, sample.Filled) (ok : reduce samples = .ok t) : t.Filled := by
  -- From the first sample on, nothing is empty any more.
  cases samples with
  | nil => exact absurd rfl some
  | cons first rest =>
    obtain ⟨inFirst, inRest⟩ := List.forall_mem_cons.1 all
    rw [reduce_eq_ok, mergeOnto_cons, empty_merge, Except.bind] at ok
    exact mergeOnto_invariant Filled.merge inRest inFirst ok

/-! Documents. -/

theorem filled_ofJson (name : String) (v : Json) : (ofJson name v).Filled := by
  induction v generalizing name with
  | array elements ih =>
    rw [ofJson_array, filled_array, List.forall_mem_map]
    intro element inside
    exact ih element inside name
  | object members ih =>
    rw [ofJson_object, filled_object, List.forall_mem_map]
    intro member inside
    exact ih member inside member.1
  | _ => exact (filled_of_leaf rfl).2 (by simp [ofJson, kind])

end Shape

/-! Refining. -/

namespace Refinement

open Shape (Filled WellFormed asValues mergeOnto)

/-- What refining needs of a property of shapes to keep it: that it is one of the contents of a
shape, and of the value that the elements of an array merge to. -/
structure Stable (Q : Shape → Prop) : Prop where
  promoted : ∀ sample, Q (Literal.promoted sample)
  inner : ∀ t, Q (.optional t) → Q t
  orAbsent : ∀ t, Q t → Q t.orAbsent
  object : ∀ n fields, Q (.object n fields) ↔ ∀ field ∈ fields, Q field.2
  array : ∀ n values, Q (.array n values) ↔ ∀ value ∈ values, Q value
  values : ∀ values, (∀ value ∈ values, Q value) →
    Yields (fun _ => True) (fun t => ∀ value ∈ asValues t, Q value) (mergeOnto .empty values)

theorem Stable.refine {Q : Shape → Prop} (stable : Stable Q) (r : Refinement) (name : String)
    {t : Shape} (h : Q t) : Yields (fun _ => True) Q (t.refine r name) := by
  induction t generalizing name with
  | text sample =>
    rw [refine_text]
    exact stable.promoted sample
  | optional inner ih =>
    rw [refine_optional]
    split
    · exact (ih name (stable.inner inner h)).map stable.orAbsent
    · exact h
  | object n fields ih =>
    have all := yields_fields (Q := fun _ => Q) fun field member =>
      ih field member field.1 ((stable.object n fields).1 h field member)
    rw [refine_object]
    exact all.map fun refined => (stable.object (typeName name) refined).2
  | array n values ih =>
    have all := yields_values fun value member =>
      ih value member (r.singular name) ((stable.array n values).1 h value member)
    rw [refine_array_mergeOnto]
    have merged := all.bind fun refined _ holds => stable.values refined holds.2
    exact merged.map fun u => (stable.array (typeName name) u.asValues).2
  | _ => exact h

theorem stable_wellFormed : Stable WellFormed where
  promoted sample := by
    unfold Literal.promoted
    split
    · exact Shape.wellFormed_of_leaf rfl rfl
    · split
      · exact Shape.wellFormed_of_leaf rfl rfl
      · exact Shape.wellFormed_of_leaf rfl rfl
  inner t h := (Shape.wellFormed_optional.1 h).2
  orAbsent t h := h.orAbsent
  object n fields := Shape.wellFormed_object
  array n values := Shape.wellFormed_array
  values values all := (Shape.yields_mergeOnto_wellFormed all).imp fun t h =>
    Shape.wellFormed_asValues h

theorem stable_filled : Stable Filled where
  promoted sample := by
    rw [Shape.filled_of_leaf (Literal.isLeaf_promoted sample)]
    rcases Literal.kind_promoted sample with kind | kind | kind <;> simp [kind]
  inner t h := Shape.filled_optional.1 h
  orAbsent t h := h.below.orAbsent
  object n fields := Shape.filled_object
  array n values := Shape.filled_array
  values values all := (Shape.yields_mergeOnto_filled all).imp fun t h => h.asValues

end Refinement

namespace Shape

/-- Optionals stay around shapes that were seen and are not optional themselves, from the seed of a
document through merging, reducing and refining, and where nothing was empty nothing becomes so. -/
theorem optionals_stay_collapsed :
    (∀ name v, (ofJson name v).WellFormed ∧ (ofJson name v).Filled) ∧
    (∀ a b t : Shape, a.merge b = .ok t →
      (a.WellFormed → b.WellFormed → t.WellFormed) ∧ (a.Filled → b.Filled → t.Filled)) ∧
    (∀ (samples : List Shape) (t : Shape), samples ≠ [] → reduce samples = .ok t →
      ((∀ sample ∈ samples, sample.WellFormed) → t.WellFormed) ∧
      ((∀ sample ∈ samples, sample.Filled) → t.Filled)) ∧
    ∀ (r : Refinement) (name : String) (t u : Shape), t.refine r name = .ok u →
      (t.WellFormed → u.WellFormed) ∧ (t.Filled → u.Filled) := by
  refine ⟨?_, ?_, ?_, ?_⟩
  · intro name v
    exact ⟨wellFormed_ofJson name v, filled_ofJson name v⟩
  · intro a b t ok
    exact ⟨fun wa wb => wa.merge wb ok, fun fa fb => fa.merge fb ok⟩
  · intro samples t some ok
    exact ⟨fun all => wellFormed_reduce all ok, fun all => filled_reduce some all ok⟩
  · intro r name t u ok
    constructor
    · intro h
      exact (Refinement.stable_wellFormed.refine r name h).of_ok ok
    · intro h
      exact (Refinement.stable_filled.refine r name h).of_ok ok

/-- Null beside a text, merged and reduced, and two visits, refined. -/
theorem optionals_stay_collapsed_visits :
    (optional (text "a")).WellFormed ∧ (optional (text "a")).Filled ∧
    Refinement.refinedVisits.WellFormed ∧ Refinement.refinedVisits.Filled := by
  obtain ⟨seeds, merged, reduced, refined⟩ := optionals_stay_collapsed
  have null := seeds "a" .null
  have seen := seeds "a" (.string "a")
  have pair : (ofJson "a" .null).merge (ofJson "a" (.string "a")) = .ok (optional (text "a")) :=
    absent_merge_eq (text "a")
  have both : reduce [ofJson "a" .null, ofJson "a" (.string "a")] = .ok (optional (text "a")) := by
    rw [reduce_eq_ok, mergeOnto_cons, empty_merge, Except.bind, mergeOnto_cons, pair, Except.bind,
      mergeOnto_nil]
  have visits := refined _ _ _ _ Refinement.refine_visits
  refine ⟨(merged _ _ _ pair).1 null.1 seen.1, (reduced _ _ (by simp) both).2 ?_,
    visits.1 (by decide), visits.2 (by decide)⟩
  simp [null.2, seen.2]

end Shape

end ShapeInference
