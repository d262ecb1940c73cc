import ShapeInference.Proofs.Members.Matched
import ShapeInference.Proofs.Merge.Kept

/-! Shapes that differ in no more than the order of fields.

Two objects are merged in the order of the first one, which stops at the first field that fails. So
the order of fields may decide which error there is. It decides neither whether there is one, nor
at which sample, nor anything else in a merged shape than the order of its fields.
-/

set_option autoImplicit false

namespace ShapeInference.Shape

open Members (Matched)

inductive Reordered : Shape → Shape → Prop where
  | leaf {t : Shape} : t.isLeaf = true → Reordered t t
  | optional {a b : Shape} : Reordered a b → Reordered (optional a) (optional b)
  | object (name : String) {left right : Fields} : (Members.keys left).Nodup →
      (Members.keys left).Perm (Members.keys right) →
      (∀ key a b, left.lookup key = some a → right.lookup key = some b → Reordered a b) →
      Reordered (object name left) (object name right)
  | array (name : String) {left right : List Shape} : List.Forall₂ Reordered left right →
      Reordered (array name left) (array name right)

/-- Shapes that differ in the order of fields, or errors at one sample. -/
inductive Agree : Except MergeError Shape → Except MergeError Shape → Prop where
  | ok {t t' : Shape} : Reordered t t' → Agree (.ok t) (.ok t')
  | error {e e' : MergeError} : e.sample = e'.sample → Agree (.error e) (.error e')

theorem reordered_object {n m : String} {left right : Fields} :
    Reordered (object n left) (object m right) ↔ n = m ∧ Matched Reordered left right := by
  constructor
  · intro h
    cases h with
    | leaf leaf => cases leaf
    | object _ nodup keys values => exact ⟨rfl, nodup, keys, values⟩
  · rintro ⟨rfl, nodup, keys, values⟩
    exact .object n nodup keys values

section
variable {a b : Shape}

theorem Reordered.kind_eq (h : Reordered a b) : a.kind = b.kind := by
  cases h <;> rfl

theorem Reordered.isOptional_eq (h : Reordered a b) : a.isOptional = b.isOptional := by
  rw [isOptional, isOptional, h.kind_eq]

theorem Reordered.eq_of_leaf (h : Reordered a b) (leaf : a.isLeaf = true) : a = b := by
  cases h with
  | leaf => rfl
  | optional | object | array => cases leaf

theorem Reordered.orAbsent (h : Reordered a b) : Reordered a.orAbsent b.orAbsent := by
  cases h with
  | optional inner => exact .optional inner
  | object name nodup keys values => exact .optional (.object name nodup keys values)
  | array name values => exact .optional (.array name values)
  | leaf h =>
    cases a with
    | optional | object | array => cases h
    | empty | absent => exact .leaf rfl
    | _ => exact .optional (.leaf rfl)

theorem Reordered.unwrapped (h : Reordered a b) : Reordered a.unwrapped b.unwrapped := by
  cases h with
  | optional inner => exact inner
  | object name nodup keys values => exact .object name nodup keys values
  | array name values => exact .array name values
  | leaf h =>
    cases a with
    | optional | object | array => cases h
    | _ => exact .leaf rfl

theorem Reordered.asValues (h : Reordered a b) :
    List.Forall₂ Reordered a.asValues b.asValues := by
  unfold Shape.asValues
  rw [h.kind_eq]
  split
  · exact .nil
  · exact .cons h .nil

end

/-! Objects. -/

section
variable {left left' right right' : Fields} {n m : String}

theorem both_joined (hr : Matched Reordered right right') {key : String} {a a' : Shape}
    (h : Reordered a a') (both : ∀ b b', right.lookup key = some b → Reordered b b' →
      Both Reordered (a.merge b) (a'.merge b')) :
    Both Reordered (joined right key a) (joined right' key a') := by
  unfold joined
  rcases hr.lookup key with ⟨missing, missing'⟩ | ⟨b, b', found, found', related⟩
  · rw [missing, missing']
    exact .ok h.orAbsent
  · rw [found, found']
    exact both b b' found related

theorem matched_fieldsOnlyIn (hl : Matched Reordered left left')
    (hr : Matched Reordered right right') :
    Matched Reordered (fieldsOnlyIn left right) (fieldsOnlyIn left' right') := by
  have same (key : String) : (left.lookup key).isNone = (left'.lookup key).isNone := by
    rcases hl.lookup key with ⟨missing, missing'⟩ | ⟨a, a', found, found', _⟩
    · rw [missing, missing']
    · rw [found, found', Option.isNone_some, Option.isNone_some]
  refine ⟨?_, ?_, fun key b b' found found' => ?_⟩
  · rw [keys_fieldsOnlyIn]
    exact hr.nodup.filter _
  · simp only [keys_fieldsOnlyIn, same]
    exact hr.keys.filter _
  · rw [lookup_fieldsOnlyIn] at found found'
    split at found
    · next missing =>
      have missing' : left'.lookup key = none := by
        rw [← Option.isNone_iff_eq_none, ← same, missing, Option.isNone_none]
      rw [if_pos missing'] at found'
      obtain ⟨c, inRight, rfl⟩ := Option.map_eq_some_iff.1 found
      obtain ⟨c', inRight', rfl⟩ := Option.map_eq_some_iff.1 found'
      exact (hr.values key c c' inRight inRight').orAbsent
    · cases found

theorem both_merge_object (hl : Matched Reordered left left') (hr : Matched Reordered right right')
    (both : ∀ key a b, (key, a) ∈ left → right.lookup key = some b → ∀ a' b', Reordered a a' →
      Reordered b b' → Both Reordered (a.merge b) (a'.merge b')) :
    Both Reordered ((object n left).merge (object m right))
      ((object n left').merge (object m right')) := by
  have shared : Both (Matched Reordered) (mergeFields left right) (mergeFields left' right') := by
    rw [mergeFields_eq_traverse, mergeFields_eq_traverse]
    apply hl.traverse
    intro key a a' found _ related
    exact both_joined hr related fun b b' inRight =>
      both key a b (Members.mem_of_lookup found) inRight a' b' related
  rw [object_merge_object, object_merge_object]
  split
  · refine shared.reached.map fun fields fields' ⟨merged, matched⟩ => ?_
    refine reordered_object.2 ⟨rfl, ?_⟩
    exact matched.append (matched_fieldsOnlyIn hl hr)
      (nodup_keys_merged merged hl.nodup hr.nodup)
  · exact .error _ _

end

/-! Merging. -/

theorem merges_reordered : MergeCalls fun a b => ∀ a' b', Reordered a a' → Reordered b b' →
    Both Reordered (a.merge b) (a'.merge b') where
  emptyLeft b a' b' ha hb := by
    rw [← ha.eq_of_leaf rfl, empty_merge, empty_merge]
    exact .ok hb
  emptyRight a a' b' ha hb := by
    rw [← hb.eq_of_leaf rfl, merge_empty, merge_empty]
    exact .ok ha
  absentLeft b a' b' ha hb := by
    rw [← ha.eq_of_leaf rfl, absent_merge_eq, absent_merge_eq]
    exact .ok hb.unwrapped.orAbsent
  absentRight a a' b' ha hb := by
    rw [← hb.eq_of_leaf rfl, merge_absent_eq, merge_absent_eq]
    exact .ok ha.unwrapped.orAbsent
  optionals a b both a' b' ha hb := by
    cases ha with
    | leaf leaf => cases leaf
    | optional ia =>
      cases hb with
      | leaf leaf => cases leaf
      | optional ib =>
        rw [optional_merge_optional, optional_merge_optional]
        exact (both _ _ ia ib).map fun _ _ => .orAbsent
  optionalLeft a b plain seen both a' b' ha hb := by
    cases ha with
    | leaf leaf => cases leaf
    | optional ia =>
      rw [optional_merge_of_seen plain seen,
        optional_merge_of_seen (hb.isOptional_eq ▸ plain) (hb.kind_eq ▸ seen)]
      exact (both _ _ ia hb).map fun _ _ => .orAbsent
  optionalRight a b plain seen both a' b' ha hb := by
    cases hb with
    | leaf leaf => cases leaf
    | optional ib =>
      rw [merge_optional_of_seen plain seen,
        merge_optional_of_seen (ha.isOptional_eq ▸ plain) (ha.kind_eq ▸ seen)]
      exact (both _ _ ib ha).map fun _ _ => .orAbsent
  different a b plainLeft plainRight seenLeft seenRight different a' b' ha hb := by
    rw [merge_of_kind_ne plainLeft plainRight seenLeft seenRight different,
      merge_of_kind_ne (ha.isOptional_eq ▸ plainLeft) (hb.isOptional_eq ▸ plainRight)
        (ha.kind_eq ▸ seenLeft) (hb.kind_eq ▸ seenRight) (ha.kind_eq ▸ hb.kind_eq ▸ different)]
    exact .error _ _
  leaves a b left right same a' b' ha hb := by
    rw [← ha.eq_of_leaf left, ← hb.eq_of_leaf right]
    have merged := merge_leaves left right same
    cases outcome : a.merge b with
    | ok t => exact .ok (.leaf (merged.of_ok outcome).1)
    | error e => exact .error e e
  object n m left right both a' b' ha hb := by
    cases ha with
    | leaf leaf => cases leaf
    | object _ nodup keys values =>
      cases hb with
      | leaf leaf => cases leaf
      | object _ nodup' keys' values' =>
        exact both_merge_object ⟨nodup, keys, values⟩ ⟨nodup', keys', values'⟩ both
  array n m left right pooled a' b' ha hb := by
    cases ha with
    | leaf leaf => cases leaf
    | array _ hl =>
      cases hb with
      | leaf leaf => cases leaf
      | array _ hr =>
        rw [array_merge_array, array_merge_array, representative_eq, representative_eq]
        split
        · have merged := both_mergeOnto (List.rel_append hl hr) (.leaf rfl) pooled
          exact (merged.map fun _ _ related => related.asValues).map fun _ _ => .array n
        · exact .error _ _

theorem reordered_mergeOnto {acc acc' : Shape} {values values' : List Shape}
    (paired : List.Forall₂ Reordered values values') (start : Reordered acc acc') :
    Both Reordered (mergeOnto acc values) (mergeOnto acc' values') :=
  both_mergeOnto paired start fun _ value _ t _ _ => merges_reordered.all t value

theorem agree_reduceFrom {acc acc' : Shape} {samples samples' : List Shape}
    (paired : List.Forall₂ Reordered samples samples') (start : Reordered acc acc') (index : Nat) :
    Agree (reduceFrom acc index samples) (reduceFrom acc' index samples') := by
  induction paired generalizing acc acc' index with
  | nil => exact .ok start
  | @cons sample sample' _ _ first _ ih =>
    have merged := merges_reordered.all acc sample acc' sample' start first
    rw [Shape.reduceFrom, Shape.reduceFrom]
    generalize left : acc.merge sample = x at merged ⊢
    generalize right : acc'.merge sample' = y at merged ⊢
    cases merged with
    | ok related => exact ih related (index + 1)
    | error e e' =>
      refine .error ?_
      rw [MergeError.atSample, MergeError.atSample, sample_of_merge left, sample_of_merge right]

theorem agree_reduce {samples samples' : List Shape}
    (paired : List.Forall₂ Reordered samples samples') : Agree (reduce samples) (reduce samples') :=
  agree_reduceFrom paired (.leaf rfl) 0

end ShapeInference.Shape
