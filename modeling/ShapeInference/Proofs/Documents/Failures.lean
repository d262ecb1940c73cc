import ShapeInference.Proofs.Documents.Names
import ShapeInference.Proofs.Merge.Reduce

/-! The sample that a failure names.

Samples are reduced one after the other, so what fails is settled by the samples up to the first one
that does not fit, and all that come later do not matter. Merging counts no elements and refining
counts no samples, so the index can only be that of this sample.
-/

set_option autoImplicit false

namespace ShapeInference.Shape

variable {front back samples : List Shape} {error : MergeError}

theorem reduce_append_eq_error (failed : reduce front = .error error) :
    reduce (front ++ back) = .error error := by
  obtain ⟨before, sample, behind, s, cause, rfl, reached, clash, rfl⟩ := reduce_eq_error.1 failed
  apply reduce_eq_error.2
  exists before, sample, behind ++ back, s, cause
  exact ⟨List.append_assoc before (sample :: behind) back, reached, clash, rfl⟩

theorem exists_reduce_take {t : Shape} (ok : reduce samples = .ok t) (count : Nat) :
    ∃ s, reduce (samples.take count) = .ok s := by
  rw [← List.take_append_drop count samples] at ok
  obtain ⟨s, reached, _⟩ := reduce_append_eq_ok.1 ok
  exact ⟨s, reached⟩

theorem reduce_eq_error_iff_take :
    reduce samples = .error error ↔ ∃ count, reduce (samples.take count) = .error error := by
  constructor
  · intro failed
    exists samples.length
    rwa [List.take_length]
  · intro ⟨count, failed⟩
    rw [← List.take_append_drop count samples]
    exact reduce_append_eq_error failed

/-- Reducing fails exactly if the first samples do, up to some number, and with the same error. It
names the first sample that does not merge with what those in front of it reduce to, and is else the
error of this merge. Neither merging nor refining names a sample. -/
theorem failure_names_first_misfit (samples : List Shape) :
    (∀ error, reduce samples = .error error ↔
      ∃ count, reduce (samples.take count) = .error error) ∧
    (∀ error, reduce samples = .error error → ∃ i sample s cause,
      error.sample = some i ∧ samples[i]? = some sample ∧
      reduce (samples.take i) = .ok s ∧ s.merge sample = .error cause ∧
      { error with sample := none } = cause ∧
      reduce (samples.take (i + 1)) = .error error ∧
      ∀ j, j < i → ∃ t, reduce (samples.take (j + 1)) = .ok t) ∧
    (∀ (a b : Shape) (error : MergeError), a.merge b = .error error → error.sample = none) ∧
    ∀ (r : Refinement) (name : String) (t : Shape) (error : MergeError),
      t.refine r name = .error error → error.sample = none := by
  refine ⟨fun error => reduce_eq_error_iff_take, ?_, ?_, ?_⟩
  · intro error failed
    obtain ⟨front, sample, back, s, cause, rfl, reached, clash, rfl⟩ := reduce_eq_error.1 failed
    have first : (front ++ sample :: back).take front.length = front := List.take_left
    have upTo : (front ++ sample :: back).take (front.length + 1) = front ++ [sample] := by
      rw [List.take_length_add_append, List.take_succ_cons, List.take_zero]
    exists front.length, sample, s, cause
    refine ⟨rfl, ?_, ?_, clash, ?_, ?_, ?_⟩
    · rw [List.getElem?_append_right (Nat.le_refl _), Nat.sub_self, List.getElem?_cons_zero]
    · rw [first]
      exact reached
    · rw [← sample_of_merge clash]
    · rw [upTo]
      exact reduce_eq_error.2 ⟨front, sample, [], s, cause, rfl, reached, clash, rfl⟩
    · intro j before
      rw [List.take_append_of_le_length before]
      exact exists_reduce_take reached (j + 1)
  · intro a b error failed
    exact sample_of_merge failed
  · intro r name t error failed
    exact Refinement.sample_of_refine failed

/-- The fourth of all elements does not fit, and it stands in the second sample. -/
theorem failure_names_first_misfit_flags :
    let samples := [array "flags" [number .int, number .int],
      array "flags" [number .double, bool true]]
    ∃ error i cause, reduce samples = .error error ∧ error.sample = some i ∧ i = 1 ∧
      { error with sample := none } = cause ∧ cause.sample = none ∧
      ∃ clash, (array "flags" [text "2020-01-01", text "soon"]).refine {} "flags" = .error clash ∧
        clash.sample = none := by
  intro samples
  have kinds : (number .double).merge (bool true) = .error { clash := .kinds .number .bool } :=
    merge_of_kind_ne rfl rfl (by decide) (by decide) (by decide)
  have clash : (array "flags" [number .int, number .int]).merge
      (array "flags" [number .double, bool true]) = .error { clash := .kinds .number .bool } := by
    simp [array_merge_array, representative_eq, mergeOnto_cons, number_merge_number,
      NumberKind.widen, kinds, Except.bind, Except.map]
  have failed : reduce samples = .error { clash := .kinds .number .bool, sample := some 1 } :=
    reduce_eq_error.2 ⟨[_], _, [], _, _, rfl, reduce_singleton _, clash, rfl⟩
  obtain ⟨_, named, merging, refining⟩ := failure_names_first_misfit samples
  obtain ⟨i, sample, s, cause, index, _, _, fails, same, _⟩ := named _ failed
  have refused := Refinement.refine_date_beside_text "flags" "flags"
  exact ⟨_, i, cause, failed, index, (Option.some.inj index).symm, same, merging _ _ _ fails, _,
    refused, refining _ _ _ _ refused⟩

end ShapeInference.Shape
