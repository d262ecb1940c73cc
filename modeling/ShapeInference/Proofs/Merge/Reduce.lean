import Mathlib.Data.List.Induction
import ShapeInference.Proofs.Merge.Order

/-! Reducing samples, in any order and in any grouping.

The first samples may be reduced on their own, and the rest as well: merging the two results is
reducing all of them. The order of the samples decides no more than which literals are kept.
-/

set_option autoImplicit false

namespace ShapeInference.Shape

section
variable {front back samples : List Shape}

theorem reduce_append_eq_ok {t : Shape} : reduce (front ++ back) = .ok t ↔
    ∃ s, reduce front = .ok s ∧ mergeOnto s back = .ok t := by
  simp only [reduce_eq_ok, mergeOnto_append_eq_ok]

theorem reduce_concat_eq_ok {sample t : Shape} : reduce (samples ++ [sample]) = .ok t ↔
    ∃ s, reduce samples = .ok s ∧ s.merge sample = .ok t := by
  simp only [reduce_append_eq_ok, mergeOnto_cons_eq_ok, mergeOnto_nil]
  constructor
  · rintro ⟨s, ok, u, merged, same⟩
    cases same
    exact ⟨s, ok, merged⟩
  · rintro ⟨s, ok, merged⟩
    exact ⟨s, ok, t, merged, rfl⟩

/-- Two groups of samples reduce together exactly if each of them does and the results merge. -/
theorem exists_reduce_append (inFront : ∀ sample ∈ front, sample.Tidy)
    (inBack : ∀ sample ∈ back, sample.Tidy) : (∃ t, reduce (front ++ back) = .ok t) ↔
      ∃ s u t, reduce front = .ok s ∧ reduce back = .ok u ∧ s.merge u = .ok t := by
  -- The two results merge exactly if every sample in front merges with every sample behind.
  have across {s u : Shape} (first : reduce front = .ok s) (second : reduce back = .ok u) :
      Mergeable s u ↔ ∀ x ∈ front, ∀ y ∈ back, Mergeable x y := by
    have ts := Tidy.reduce inFront first
    have tu := Tidy.reduce inBack second
    rw [mergeable_reduced inFront tu first]
    refine forall₂_congr fun x member => ?_
    have tx := inFront x member
    have fromBack := mergeable_reduced inBack tx second
    constructor
    · intro h y memberBack
      exact (fromBack.1 (h.symm tx tu) y memberBack).symm (inBack y memberBack) tx
    · intro h
      exact Mergeable.symm tu tx (fromBack.2 fun y memberBack =>
        (h y memberBack).symm tx (inBack y memberBack))
  rw [exists_reduce_iff (List.forall_mem_append.2 ⟨inFront, inBack⟩), List.pairwise_append]
  constructor
  · rintro ⟨pairsFront, pairsBack, pairs⟩
    obtain ⟨s, first⟩ := (exists_reduce_iff inFront).2 pairsFront
    obtain ⟨u, second⟩ := (exists_reduce_iff inBack).2 pairsBack
    obtain ⟨t, merged⟩ := (across first second).2 pairs
    exact ⟨s, u, t, first, second, merged⟩
  · rintro ⟨s, u, t, first, second, merged⟩
    exact ⟨(exists_reduce_iff inFront).1 ⟨s, first⟩, (exists_reduce_iff inBack).1 ⟨u, second⟩,
      (across first second).1 ⟨t, merged⟩⟩

/-- Merging samples one by one and merging what they reduce to give alike shapes. -/
theorem mergeOnto_alike {acc : Shape} (start : acc.Tidy) (all : ∀ sample ∈ samples, sample.Tidy)
    {last u t : Shape} (ok : mergeOnto acc samples = .ok last) (reduced : reduce samples = .ok u)
    (merged : acc.merge u = .ok t) : Alike last t := by
  induction samples using List.reverseRecOn generalizing last u t with
  | nil =>
    rw [reduce_nil] at reduced
    cases reduced
    rw [mergeOnto_nil] at ok
    rw [merge_empty] at merged
    cases ok.symm.trans merged
    exact .refl _
  | append_singleton samples sample ih =>
    obtain ⟨inSamples, single⟩ := List.forall_mem_append.1 all
    have ts : sample.Tidy := single sample (List.mem_singleton_self sample)
    obtain ⟨before, first, more⟩ := mergeOnto_append_eq_ok.1 ok
    obtain ⟨u', inner, outer⟩ := reduce_concat_eq_ok.1 reduced
    have tu' := Tidy.reduce inSamples inner
    have tu := tu'.merge ts outer
    have tb := mergeOnto_invariant Tidy.merge inSamples start first
    -- What the samples before reduce to merges onto `acc` too.
    obtain ⟨fits, fitsLast⟩ := (mergeable_merged tu' ts start outer).1
      (Mergeable.symm start tu ⟨t, merged⟩)
    obtain ⟨m, ahead⟩ := fits.symm tu' start
    obtain ⟨v, next⟩ := (mergeable_merged start tu' ts ahead).2
      ⟨fitsLast.symm ts start, ⟨u, outer⟩⟩
    have alike : Alike before m := ih inSamples first inner ahead
    obtain ⟨w, step, same⟩ := mergeOnto_cons_eq_ok.1 more
    rw [mergeOnto_nil] at same
    cases same
    have left : Alike last v := alike.merge tb (start.merge tu' ahead) ts ts (.refl _) step next
    exact left.trans (merge_assoc start tu' ts ahead next outer merged)

theorem reduce_perm {samples' : List Shape} (perm : samples.Perm samples')
    (all : ∀ sample ∈ samples, sample.Tidy) {t t' : Shape} (ok : reduce samples = .ok t)
    (ok' : reduce samples' = .ok t') : Alike t t' := by
  rw [reduce_eq_ok] at ok ok'
  refine (orderFree (valuesDepth samples + 1)).fold_perm perm (fun sample member => ?_)
    (tidy_empty.below (Nat.zero_le _)) ok ok'
  exact (all sample member).below (depth_le_of_mem_values member)

end

/-- The order and the grouping of samples are free. Fields are a map, so keys are distinct. -/
theorem reduce_order_free {samples : List Shape}
    (wellFormed : ∀ sample ∈ samples, sample.WellFormed)
    (distinct : ∀ sample ∈ samples, sample.Distinct) :
    (∀ samples', samples.Perm samples' →
      ((∃ t, reduce samples = .ok t) ↔ ∃ t', reduce samples' = .ok t') ∧
      ∀ t t', reduce samples = .ok t → reduce samples' = .ok t' →
        Alike t t' ∧ t.descriptor = t'.descriptor) ∧
    (∀ front back, samples = front ++ back →
      ((∃ t, reduce samples = .ok t) ↔
        ∃ s u t', reduce front = .ok s ∧ reduce back = .ok u ∧ s.merge u = .ok t') ∧
      ∀ t s u t', reduce samples = .ok t → reduce front = .ok s → reduce back = .ok u →
        s.merge u = .ok t' → Alike t t') := by
  have all : ∀ sample ∈ samples, sample.Tidy := fun sample member =>
    ⟨wellFormed sample member, distinct sample member⟩
  constructor
  · intro samples' perm
    have all' : ∀ sample ∈ samples', sample.Tidy := fun sample member =>
      all sample (perm.mem_iff.2 member)
    refine ⟨?_, fun t t' ok ok' => ?_⟩
    · rw [exists_reduce_iff all, exists_reduce_iff all']
      exact ⟨pairwise_mergeable_perm perm all, pairwise_mergeable_perm perm.symm all'⟩
    · have alike := reduce_perm perm all ok ok'
      exact ⟨alike, alike.descriptor_eq⟩
  · rintro front back rfl
    obtain ⟨inFront, inBack⟩ := List.forall_mem_append.1 all
    refine ⟨exists_reduce_append inFront inBack, fun t s u t' ok first second merged => ?_⟩
    obtain ⟨s', same, later⟩ := reduce_append_eq_ok.1 ok
    cases first.symm.trans same
    exact mergeOnto_alike (Tidy.reduce inFront first) inBack later second merged

/-- Two objects with a null between them, forward and backward. -/
theorem reduce_order_free_pets :
    let pet := object "Pet" [("name", text "rex"), ("age", number .int)]
    let other := object "Pet" [("age", optional (number .double)), ("tags", array "Tags" [])]
    (∀ sample ∈ [pet, absent, other], sample.WellFormed ∧ sample.Distinct) ∧
      ∃ t t', reduce [pet, absent, other] = .ok t ∧ reduce [other, absent, pet] = .ok t' ∧
        Alike t t' := by
  intro pet other
  have tidy : ∀ sample ∈ [pet, absent, other], sample.WellFormed ∧ sample.Distinct := by decide
  have merged : reduce [pet, absent, other] = .ok (optional (object "Pet"
      [("name", optional (text "rex")), ("age", optional (number .double)),
        ("tags", optional (array "Tags" []))])) := by
    simp (disch := decide) [pet, other, reduce_eq_ok, mergeOnto_cons, Except.bind, Except.map,
      merge_absent, merge_optional_of_seen, optional_merge_of_seen, orAbsent, object_merge_object,
      mergeFields_cons, Members.lookup_cons, number_merge_number, NumberKind.widen, fieldsOnlyIn]
  obtain ⟨same, alike⟩ := (reduce_order_free (fun sample member => (tidy sample member).1)
    fun sample member => (tidy sample member).2).1 [other, absent, pet] (List.reverse_perm _).symm
  obtain ⟨t', merged'⟩ := same.1 ⟨_, merged⟩
  exact ⟨tidy, _, t', merged, merged', (alike _ t' merged merged').1⟩

end ShapeInference.Shape
