import ShapeInference.Proofs.Merge.Rules

/-! Induction over successful merges.

A property of merges is given by its rules: for nothing on one side, for optionals, for each kind of
leaf, for objects key by key, and for arrays, whose pooled elements merge one after the other onto
nothing. The last rule speaks of merges of merged shapes, so the induction is on the depth.
-/

set_option autoImplicit false

namespace ShapeInference.Shape

theorem depth_merge_le {a b t : Shape} (ok : a.merge b = .ok t) :
    t.depth ≤ max a.depth b.depth := by
  simp only [merge] at ok
  cases within : mergeWithin a b with
  | error e => simp [within, Except.map] at ok
  | ok s =>
    simp only [within, Except.map] at ok
    cases ok
    exact s.2

inductive Folds (P : Shape → Shape → Shape → Prop) : Shape → List Shape → Shape → Prop where
  | nil (acc : Shape) : Folds P acc [] acc
  | cons {acc value t last : Shape} {rest : List Shape} :
      acc.merge value = .ok t → P acc value t → Folds P t rest last →
      Folds P acc (value :: rest) last

structure MergeRules (P : Shape → Shape → Shape → Prop) : Prop where
  emptyLeft : ∀ b, P empty b b
  emptyRight : ∀ a, P a empty a
  optionalLeft : ∀ a b t, a.WellFormed → b.WellFormed → a.isOptional = true →
    P a.bare b.bare t → P a b t.orAbsent
  optionalRight : ∀ a b t, a.WellFormed → b.WellFormed → a.isOptional = false →
    b.isOptional = true → P b.bare a t → P a b t.orAbsent
  bool : ∀ x y, P (bool x) (bool y) (bool (x && y))
  number : ∀ x y, P (number x) (number y) (number (x.widen y))
  text : ∀ x y, P (text x) (text y) (text (if x = "" then y else x))
  object : ∀ name left right shared, mergeFields left right = .ok shared →
    (∀ key, P (entry left key) (entry right key)
      (entry (shared ++ fieldsOnlyIn left right) key)) →
    P (object name left) (object name right) (object name (shared ++ fieldsOnlyIn left right))
  array : ∀ name left right element, Folds P empty (left ++ right) element →
    P (array name left) (array name right) (array name element.asValues)
  url : ∀ x y, P (url x) (url y) (url x)
  date : ∀ format, P (date format) (date format) (date format)

section
variable {P : Shape → Shape → Shape → Prop}

def MergesBelow (P : Shape → Shape → Shape → Prop) (n : Nat) : Prop :=
  ∀ a b t, a.WellFormed → b.WellFormed → a.depth < n → b.depth < n → a.merge b = .ok t →
    t.WellFormed ∧ P a b t

theorem MergesBelow.folds {n : Nat} (below : MergesBelow P n) {values : List Shape}
    (wv : ∀ value ∈ values, value.WellFormed) (dv : ∀ value ∈ values, value.depth < n)
    {acc last : Shape} (wa : acc.WellFormed) (da : acc.depth < n)
    (ok : mergeOnto acc values = .ok last) : last.WellFormed ∧ Folds P acc values last := by
  induction values generalizing acc with
  | nil =>
    rw [mergeOnto_nil] at ok
    cases ok
    exact ⟨wa, .nil _⟩
  | cons value rest ih =>
    rw [mergeOnto_cons] at ok
    simp only [List.forall_mem_cons] at wv dv
    cases step : acc.merge value with
    | error e => simp [step, Except.bind] at ok
    | ok t =>
      rw [step] at ok
      obtain ⟨wt, holds⟩ := below acc value t wa wv.1 da dv.1 step
      have dt : t.depth < n := Nat.lt_of_le_of_lt (depth_merge_le step) (by omega)
      obtain ⟨wl, folds⟩ := ih wv.2 dv.2 wt dt ok
      exact ⟨wl, .cons step holds folds⟩

theorem MergesBelow.object_fields {n : Nat} (below : MergesBelow P n) {left right shared : Fields}
    (wl : ∀ field ∈ left, field.2.WellFormed) (wr : ∀ field ∈ right, field.2.WellFormed)
    (dl : fieldsDepth left < n) (dr : fieldsDepth right < n)
    (ok : mergeFields left right = .ok shared) :
    ∀ field ∈ shared ++ fieldsOnlyIn left right, field.2.WellFormed := by
  intro field member
  rcases List.mem_append.1 member with old | new
  · obtain ⟨a, inside, joins⟩ := mem_mergeFields ok old
    generalize field.2 = t at joins
    cases joins with
    | alone missing => exact (wl _ inside).orAbsent
    | both found merged =>
      have outside := Members.mem_of_lookup found
      exact (below _ _ _ (wl _ inside) (wr _ outside)
        (Nat.lt_of_le_of_lt (depth_le_of_mem_fields inside) dl)
        (Nat.lt_of_le_of_lt (depth_le_of_mem_fields outside) dr) merged).1
  · obtain ⟨other, inside, rfl⟩ := List.mem_map.1 new
    exact (wr _ (List.mem_filter.1 inside).1).orAbsent

theorem wellFormed_asValues {element : Shape} (h : element.WellFormed) :
    ∀ value ∈ element.asValues, value.WellFormed := by
  intro value member
  rw [mem_asValues member]
  exact h

theorem MergeRules.plain (rules : MergeRules P) {n : Nat} (below : MergesBelow P n)
    {a b t : Shape} (wa : a.WellFormed) (wb : b.WellFormed) (da : a.depth < n + 1)
    (db : b.depth < n + 1) (unites : Unites a b t) : t.WellFormed ∧ P a b t := by
  cases unites with
  | emptyLeft => exact ⟨wb, rules.emptyLeft b⟩
  | emptyRight => exact ⟨wa, rules.emptyRight a⟩
  | bool x y => exact ⟨wellFormed_of_leaf rfl rfl, rules.bool x y⟩
  | number x y => exact ⟨wellFormed_of_leaf rfl rfl, rules.number x y⟩
  | text x y => exact ⟨wellFormed_of_leaf rfl rfl, rules.text x y⟩
  | url x y => exact ⟨wellFormed_of_leaf rfl rfl, rules.url x y⟩
  | date x => exact ⟨wellFormed_of_leaf rfl rfl, rules.date x⟩
  | @object name left right shared ok =>
    rw [wellFormed_object] at wa wb
    simp only [depth] at da db
    -- Fields of the merged object are well formed since their merges are, one level below.
    have fields := below.object_fields wa wb (by omega) (by omega) ok
    refine ⟨wellFormed_object.2 fields, rules.object name left right shared ok fun key => ?_⟩
    exact (below _ _ _ (entry_of_forall wellFormed_absent wa)
      (entry_of_forall wellFormed_absent wb) (Nat.lt_of_le_of_lt depth_entry_le (by omega))
      (Nat.lt_of_le_of_lt depth_entry_le (by omega)) (entry_merged wa wb ok key)).2
  | @array name left right element ok =>
    rw [wellFormed_array] at wa wb
    simp only [depth] at da db
    have wv : ∀ value ∈ left ++ right, value.WellFormed := by
      intro value member
      exact (List.mem_append.1 member).elim (wa value) (wb value)
    have dv : ∀ value ∈ left ++ right, value.depth < n := by
      intro value member
      rcases List.mem_append.1 member with inside | inside <;>
        have := depth_le_of_mem_values inside <;> omega
    -- The pool merges onto nothing, which is below any array.
    have positive : empty.depth < n := by simp only [depth]; omega
    obtain ⟨we, folds⟩ := below.folds wv dv wellFormed_empty positive ok
    exact ⟨wellFormed_array.2 (wellFormed_asValues we), rules.array name left right element folds⟩

theorem MergeRules.below (rules : MergeRules P) (n : Nat) : MergesBelow P n := by
  -- Optionals do not count for the depth, so they come off within one step of the induction.
  induction n with
  | zero => exact fun a b t _ _ da => absurd da (Nat.not_lt_zero _)
  | succ n below =>
    intro a b t wa wb da db ok
    by_cases left : a.isOptional = true
    · rw [merge_of_isOptional_left wa wb left] at ok
      cases merged : a.bare.merge b.bare with
      | error e => simp [merged, Except.map] at ok
      | ok s =>
        rw [merged, Except.map] at ok
        cases ok
        obtain ⟨ws, holds⟩ := rules.plain below wa.bare wb.bare (depth_bare a ▸ da)
          (depth_bare b ▸ db) (unites_of_merge (isOptional_bare a) (isOptional_bare b) merged)
        exact ⟨ws.orAbsent, rules.optionalLeft a b s wa wb left holds⟩
    rw [Bool.not_eq_true] at left
    by_cases right : b.isOptional = true
    · rw [merge_of_isOptional_right wa wb left right] at ok
      cases merged : b.bare.merge a with
      | error e => simp [merged, Except.map] at ok
      | ok s =>
        rw [merged, Except.map] at ok
        cases ok
        obtain ⟨ws, holds⟩ := rules.plain below wb.bare wa (depth_bare b ▸ db) da
          (unites_of_merge (isOptional_bare b) left merged)
        exact ⟨ws.orAbsent, rules.optionalRight a b s wa wb left right holds⟩
    rw [Bool.not_eq_true] at right
    exact rules.plain below wa wb da db (unites_of_merge left right ok)

theorem MergeRules.folds (rules : MergeRules P) {acc last : Shape} {values : List Shape}
    (all : ∀ value ∈ values, value.WellFormed) (start : acc.WellFormed)
    (ok : mergeOnto acc values = .ok last) : Folds P acc values last := by
  refine ((rules.below (max acc.depth (valuesDepth values) + 1)).folds all (fun value member => ?_)
    start (by omega) ok).2
  have := depth_le_of_mem_values member
  omega

end

theorem mergeRules_true : MergeRules fun _ _ _ => True := by
  constructor <;> intros <;> trivial

theorem WellFormed.merge {a b t : Shape} (wa : a.WellFormed) (wb : b.WellFormed)
    (ok : a.merge b = .ok t) : t.WellFormed :=
  (mergeRules_true.below (max a.depth b.depth + 1) a b t wa wb (by omega) (by omega) ok).1

theorem wellFormed_reduce {samples : List Shape} {t : Shape}
    (all : ∀ sample ∈ samples, sample.WellFormed) (ok : reduce samples = .ok t) : t.WellFormed :=
  mergeOnto_invariant WellFormed.merge all wellFormed_empty (reduce_eq_ok.1 ok)

end ShapeInference.Shape
