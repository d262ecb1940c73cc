import ShapeInference.Proofs.Merge.Kept
import ShapeInference.Proofs.Merge.Reduce

/-! Which samples keep the others from being reduced.

A failure names the first sample that does not fit what the samples in front of it have become. This
sample then fails to merge with one of them alone, so that every failure is due to two samples.
-/

set_option autoImplicit false

namespace ShapeInference.Shape

section
variable {samples : List Shape}

theorem not_mergeable_iff {a b : Shape} : ¬ Mergeable a b ↔ ∃ cause, a.merge b = .error cause := by
  unfold Mergeable
  cases a.merge b <;> simp

theorem pairwise_mergeable_iff (all : ∀ sample ∈ samples, sample.Tidy) :
    samples.Pairwise Mergeable ↔ ∀ (i j : Nat) (x y : Shape), i ≠ j → samples[i]? = some x →
      samples[j]? = some y → Mergeable x y := by
  rw [List.pairwise_iff_getElem]
  constructor
  · intro pairs i j x y different first second
    obtain ⟨inFirst, rfl⟩ := List.getElem?_eq_some_iff.1 first
    obtain ⟨inSecond, rfl⟩ := List.getElem?_eq_some_iff.1 second
    rcases Nat.lt_or_gt_of_ne different with before | behind
    · exact pairs i j inFirst inSecond before
    · exact (pairs j i inSecond inFirst behind).symm (all _ (List.getElem_mem inSecond))
        (all _ (List.getElem_mem inFirst))
  · intro pairs i j inFirst inSecond before
    exact pairs i j _ _ (Nat.ne_of_lt before) (List.getElem?_eq_getElem inFirst)
      (List.getElem?_eq_getElem inSecond)

end

/-- Samples reduce exactly if every two of them merge, and the sample that a failure names fails to
merge with an earlier one alone. -/
theorem failure_is_pairwise {samples : List Shape}
    (wellFormed : ∀ sample ∈ samples, sample.WellFormed)
    (distinct : ∀ sample ∈ samples, sample.Distinct) :
    ((∃ t, reduce samples = .ok t) ↔ ∀ (i j : Nat) (x y : Shape), i ≠ j → samples[i]? = some x →
      samples[j]? = some y → ∃ t, x.merge y = .ok t) ∧
    ∀ error, reduce samples = .error error → ∃ i j x y, error.sample = some i ∧ j < i ∧
      samples[j]? = some x ∧ samples[i]? = some y ∧ ∃ cause, x.merge y = .error cause := by
  have all : ∀ sample ∈ samples, sample.Tidy := fun sample member =>
    ⟨wellFormed sample member, distinct sample member⟩
  constructor
  · rw [exists_reduce_iff all, pairwise_mergeable_iff all]
    rfl
  · intro error failed
    obtain ⟨front, sample, back, s, cause, rfl, reached, clash, rfl⟩ := reduce_eq_error.1 failed
    obtain ⟨inFront, inRest⟩ := List.forall_mem_append.1 all
    have fails : ¬ Mergeable s sample := not_mergeable_iff.2 ⟨cause, clash⟩
    -- What merges with all samples in front would merge with what they reduce to.
    rw [mergeable_reduced inFront (inRest sample List.mem_cons_self) reached] at fails
    push Not at fails
    obtain ⟨x, member, apart⟩ := fails
    obtain ⟨j, before, rfl⟩ := List.getElem_of_mem member
    refine ⟨front.length, j, front[j], sample, rfl, before, ?_, ?_, not_mergeable_iff.1 apart⟩
    · rw [List.getElem?_append_left before, List.getElem?_eq_getElem before]
    · rw [List.getElem?_append_right (Nat.le_refl _), Nat.sub_self, List.getElem?_cons_zero]

/-- Three samples: a null fits both of the others, which do not fit each other. -/
theorem failure_is_pairwise_pets :
    let pet := object "Pet" [("age", number .int)]
    let other := object "Pet" [("age", text "old")]
    let samples := [pet, absent, other]
    (∀ sample ∈ samples, sample.WellFormed ∧ sample.Distinct) ∧
      ∃ error, reduce samples = .error error ∧ error.sample = some 2 ∧
        ∃ i j x y, error.sample = some i ∧ j < i ∧ samples[j]? = some x ∧ samples[i]? = some y ∧
          ∃ cause, x.merge y = .error cause := by
  intro pet other samples
  have tidy : ∀ sample ∈ samples, sample.WellFormed ∧ sample.Distinct := by decide
  have reached : reduce [pet, absent] = .ok (optional pet) := by
    simp (disch := decide) [pet, reduce_eq_ok, mergeOnto_cons, Except.bind, merge_absent, orAbsent]
  have clash : (optional pet).merge other = .error { clash := .kinds .number .text } := by
    have kinds : (number .int).merge (text "old") = .error { clash := .kinds .number .text } :=
      merge_of_kind_ne rfl rfl (by decide) (by decide) (by decide)
    simp (disch := decide) [pet, other, optional_merge_of_seen, object_merge_object,
      mergeFields_cons, kinds, Except.bind, Except.map]
  have failed : reduce samples = .error { clash := .kinds .number .text, sample := some 2 } :=
    reduce_eq_error.2 ⟨[pet, absent], other, [], _, _, rfl, reached, clash, rfl⟩
  refine ⟨tidy, _, failed, rfl, ?_⟩
  exact (failure_is_pairwise (fun sample member => (tidy sample member).1)
    fun sample member => (tidy sample member).2).2 _ failed

end ShapeInference.Shape
