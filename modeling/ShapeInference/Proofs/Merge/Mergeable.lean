import ShapeInference.Proofs.Merge.Kept

/-! When shapes merge.

Whether two shapes merge does not depend on their order, and a merged shape merges with all that
both of its parts merge with. Hence samples reduce exactly if every two of them merge. Arrays make
these laws depend on each other: their elements merge with merged elements. So both are proved
together, for all shapes below a depth.
-/

set_option autoImplicit false

namespace ShapeInference.Shape

def Mergeable (a b : Shape) : Prop := ∃ t, a.merge b = .ok t

@[simp] theorem mergeable_empty_left (b : Shape) : Mergeable empty b := ⟨b, empty_merge b⟩

@[simp] theorem mergeable_empty_right (a : Shape) : Mergeable a empty := ⟨a, merge_empty a⟩

theorem exists_map_eq_ok {ε α β : Type} {x : Except ε α} {f : α → β} :
    (∃ t, x.map f = .ok t) ↔ ∃ s, x = .ok s := by
  cases x <;> simp [Except.map]

theorem mergeable_of_isOptional_left {a b : Shape} (wa : a.WellFormed) (wb : b.WellFormed)
    (opt : a.isOptional = true) : Mergeable a b ↔ Mergeable a.bare b.bare := by
  unfold Mergeable
  rw [merge_of_isOptional_left wa wb opt, exists_map_eq_ok]

theorem mergeable_of_isOptional_right {a b : Shape} (wa : a.WellFormed) (wb : b.WellFormed)
    (plain : a.isOptional = false) (opt : b.isOptional = true) :
    Mergeable a b ↔ Mergeable b.bare a := by
  unfold Mergeable
  rw [merge_of_isOptional_right wa wb plain opt, exists_map_eq_ok]

/-- Optionals are no hindrance, provided that the order of the bare shapes is none. -/
theorem mergeable_iff_bare {a b : Shape} (wa : a.WellFormed) (wb : b.WellFormed)
    (symm : Mergeable b.bare a.bare ↔ Mergeable a.bare b.bare) :
    Mergeable a b ↔ Mergeable a.bare b.bare := by
  by_cases left : a.isOptional = true
  · exact mergeable_of_isOptional_left wa wb left
  rw [Bool.not_eq_true] at left
  by_cases right : b.isOptional = true
  · rw [mergeable_of_isOptional_right wa wb left right, ← symm, bare_of_not_isOptional left]
  rw [Bool.not_eq_true] at right
  rw [bare_of_not_isOptional left, bare_of_not_isOptional right]

/-! Bare shapes, kind by kind. -/

section
variable {a b : Shape}

theorem Mergeable.kind_eq (h : Mergeable a b) (plainLeft : a.isOptional = false)
    (plainRight : b.isOptional = false) (seenLeft : a.kind ≠ .empty) (seenRight : b.kind ≠ .empty) :
    a.kind = b.kind := by
  obtain ⟨t, ok⟩ := h
  refine Classical.byContradiction fun different => ?_
  rw [merge_of_kind_ne plainLeft plainRight seenLeft seenRight different] at ok
  cases ok

theorem mergeable_leaf (leaf : a.kind ∈ [.bool, .number, .text, .url])
    (plain : b.isOptional = false) : Mergeable a b ↔ b.kind = .empty ∨ b.kind = a.kind := by
  constructor
  · intro h
    by_cases nothing : b.kind = .empty
    · exact .inl nothing
    · have seen : a.kind ≠ .empty := by intro none; simp [none] at leaf
      have single : a.isOptional = false := by cases a <;> simp_all [isOptional, kind]
      exact .inr (h.kind_eq single plain seen nothing).symm
  · rintro (nothing | same)
    · rw [eq_empty_of_kind nothing]; exact mergeable_empty_right a
    · cases a <;> cases b <;> simp [kind] at leaf same
      · exact ⟨_, bool_merge_bool _ _⟩
      · exact ⟨_, number_merge_number _ _⟩
      · exact ⟨_, text_merge_text _ _⟩
      · exact ⟨_, url_merge_url _ _⟩

theorem merged_leaf {c t : Shape} (leaf : a.kind ∈ [.bool, .number, .text, .url])
    (sameRight : b.kind = a.kind) (sameMerged : t.kind = a.kind) (plain : c.isOptional = false) :
    Mergeable t c ↔ Mergeable a c ∧ Mergeable b c := by
  have leafRight : b.kind ∈ [.bool, .number, .text, .url] := sameRight.symm ▸ leaf
  have leafMerged : t.kind ∈ [.bool, .number, .text, .url] := sameMerged.symm ▸ leaf
  rw [mergeable_leaf leafMerged plain, mergeable_leaf leafRight plain, mergeable_leaf leaf plain,
    sameRight, sameMerged, and_self]

theorem Mergeable.suits_object {name : String} {fields : Fields}
    (h : Mergeable (object name fields) b) (plain : b.isOptional = false) :
    b = empty ∨ ∃ m others, b = object m others := by
  obtain ⟨t, ok⟩ := h
  cases unites_of_merge rfl plain ok with
  | emptyRight => exact .inl rfl
  | object => exact .inr ⟨_, _, rfl⟩

theorem Mergeable.suits_array {name : String} {values : List Shape}
    (h : Mergeable (array name values) b) (plain : b.isOptional = false) :
    b = empty ∨ ∃ m others, b = array m others := by
  obtain ⟨t, ok⟩ := h
  cases unites_of_merge rfl plain ok with
  | emptyRight => exact .inl rfl
  | array => exact .inr ⟨_, _, rfl⟩

theorem mergeable_object {n m : String} {left right : Fields}
    (tl : (object n left).Tidy) (tr : (object m right).Tidy) :
    Mergeable (object n left) (object m right) ↔
      n = m ∧ ∀ key, Mergeable (entry left key) (entry right key) := by
  constructor
  · rintro ⟨t, ok⟩
    cases unites_of_merge rfl rfl ok with
    | object _ shared =>
      refine ⟨rfl, fun key => ⟨_, entry_merged ?_ ?_ shared key⟩⟩
      · exact wellFormed_object.1 tl.wellFormed
      · exact wellFormed_object.1 tr.wellFormed
  · rintro ⟨rfl, entries⟩
    -- The fields merge if each field on the left does, alone or with its counterpart.
    have fields : ∃ shared, mergeFields left right = .ok shared := by
      refine exists_mergeFields_iff.2 fun field member => ?_
      cases found : right.lookup field.1 with
      | none => exact ⟨_, .alone found⟩
      | some b =>
        have own := entry_of_lookup (Members.lookup_of_mem (tidy_object.1 tl).1 member)
        obtain ⟨t, ok⟩ := entries field.1
        rw [own, entry_of_lookup found] at ok
        exact ⟨t, .both found ok⟩
    obtain ⟨shared, ok⟩ := fields
    exact ⟨_, merge_of_unites (.object n ok)⟩

theorem mergeable_array {n m : String} {left right : List Shape} :
    Mergeable (array n left) (array m right) ↔
      n = m ∧ ∃ last, mergeOnto empty (left ++ right) = .ok last := by
  constructor
  · rintro ⟨t, ok⟩
    cases unites_of_merge rfl rfl ok with
    | array _ folded => exact ⟨rfl, _, folded⟩
  · rintro ⟨rfl, last, folded⟩
    exact ⟨_, merge_of_unites (.array n folded)⟩

end

/-! The two laws, below a depth. -/

structure TidyBelow (n : Nat) (t : Shape) : Prop where
  tidy : t.Tidy
  bound : t.depth < n

theorem TidyBelow.merge {n : Nat} {a b t : Shape} (ha : TidyBelow n a) (hb : TidyBelow n b)
    (ok : a.merge b = .ok t) : TidyBelow n t :=
  ⟨ha.tidy.merge hb.tidy ok,
    Nat.lt_of_le_of_lt (depth_merge_le ok) (Nat.max_lt.2 ⟨ha.bound, hb.bound⟩)⟩

theorem TidyBelow.entry {n : Nat} {name : String} {fields : Fields}
    (h : TidyBelow (n + 1) (object name fields)) (key : String) :
    TidyBelow n (entry fields key) := by
  have bound := h.bound
  simp only [depth] at bound
  exact ⟨entry_of_forall tidy_absent (tidy_object.1 h.tidy).2,
    Nat.lt_of_le_of_lt depth_entry_le (by omega)⟩

theorem TidyBelow.value {n : Nat} {name : String} {values : List Shape}
    (h : TidyBelow (n + 1) (array name values)) {value : Shape} (member : value ∈ values) :
    TidyBelow n value := by
  have bound := h.bound
  simp only [depth] at bound
  exact ⟨tidy_array.1 h.tidy value member,
    Nat.lt_of_le_of_lt (depth_le_of_mem_values member) (by omega)⟩

theorem TidyBelow.empty {n : Nat} {name : String} {values : List Shape}
    (h : TidyBelow (n + 1) (array name values)) : TidyBelow n empty := by
  have bound := h.bound
  simp only [depth] at bound
  exact ⟨tidy_empty, by simp only [depth]; omega⟩

theorem TidyBelow.bare {n : Nat} {t : Shape} (h : TidyBelow n t) : TidyBelow n t.bare :=
  ⟨h.tidy.bare, (depth_bare t).symm ▸ h.bound⟩

structure Coherent (n : Nat) : Prop where
  symm {a b : Shape} : TidyBelow n a → TidyBelow n b → Mergeable a b → Mergeable b a
  merged {a b c t : Shape} : TidyBelow n a → TidyBelow n b → TidyBelow n c →
    a.merge b = .ok t → (Mergeable t c ↔ Mergeable a c ∧ Mergeable b c)

section
variable {n : Nat} {values : List Shape}

theorem Coherent.exists_mergeOnto (laws : Coherent n) (all : ∀ value ∈ values, TidyBelow n value)
    {acc : Shape} (start : TidyBelow n acc) :
    (∃ last, mergeOnto acc values = .ok last) ↔
      (∀ value ∈ values, Mergeable acc value) ∧ values.Pairwise Mergeable := by
  induction values generalizing acc with
  | nil => simp
  | cons value rest ih =>
    simp only [List.forall_mem_cons, List.pairwise_cons, mergeOnto_cons_eq_ok] at all ⊢
    constructor
    · rintro ⟨last, t, first, later⟩
      -- What fits the merged shape fits both the old one and the value.
      obtain ⟨fits, pairs⟩ := (ih all.2 (start.merge all.1 first)).1 ⟨last, later⟩
      have parts := fun other member =>
        (laws.merged start all.1 (all.2 other member) first).1 (fits other member)
      exact ⟨⟨⟨t, first⟩, fun other member => (parts other member).1⟩,
        fun other member => (parts other member).2, pairs⟩
    · rintro ⟨⟨⟨t, first⟩, fits⟩, others, pairs⟩
      obtain ⟨last, later⟩ := (ih all.2 (start.merge all.1 first)).2
        ⟨fun other member => (laws.merged start all.1 (all.2 other member) first).2
          ⟨fits other member, others other member⟩, pairs⟩
      exact ⟨last, t, first, later⟩

theorem Coherent.mergeable_last (laws : Coherent n) (all : ∀ value ∈ values, TidyBelow n value)
    {acc c last : Shape} (start : TidyBelow n acc) (hc : TidyBelow n c)
    (ok : mergeOnto acc values = .ok last) :
    Mergeable last c ↔ Mergeable acc c ∧ ∀ value ∈ values, Mergeable value c := by
  induction values generalizing acc with
  | nil => rw [mergeOnto_nil] at ok; cases ok; simp
  | cons value rest ih =>
    simp only [List.forall_mem_cons] at all ⊢
    obtain ⟨t, first, later⟩ := mergeOnto_cons_eq_ok.1 ok
    rw [ih all.2 (start.merge all.1 first) later, laws.merged start all.1 hc first, and_assoc]

end

/-! One level more. -/

section
variable {n : Nat} {a b c t : Shape}

theorem Coherent.symm_plain (laws : Coherent n) (ha : TidyBelow (n + 1) a)
    (hb : TidyBelow (n + 1) b) (plainLeft : a.isOptional = false)
    (plainRight : b.isOptional = false) (h : Mergeable a b) : Mergeable b a := by
  obtain ⟨t, ok⟩ := h
  cases unites_of_merge plainLeft plainRight ok with
  | emptyLeft => exact mergeable_empty_right b
  | emptyRight => exact mergeable_empty_left a
  | bool x y => exact ⟨_, bool_merge_bool y x⟩
  | number x y => exact ⟨_, number_merge_number y x⟩
  | text x y => exact ⟨_, text_merge_text y x⟩
  | url x y => exact ⟨_, url_merge_url y x⟩
  | date x => exact ⟨_, ok⟩
  | object name shared =>
    have entries := ((mergeable_object ha.tidy hb.tidy).1 ⟨_, ok⟩).2
    refine (mergeable_object hb.tidy ha.tidy).2 ⟨rfl, fun key => ?_⟩
    exact laws.symm (ha.entry key) (hb.entry key) (entries key)
  | @array name left right element folded =>
    have small : TidyBelow n empty := ha.empty
    have all : ∀ value ∈ left ++ right, TidyBelow n value := fun value member =>
      (List.mem_append.1 member).elim ha.value hb.value
    have all' : ∀ value ∈ right ++ left, TidyBelow n value := fun value member =>
      (List.mem_append.1 member).elim hb.value ha.value
    -- Pairs on either side keep their order; pairs across the sides are turned around.
    have pairs := ((laws.exists_mergeOnto all small).1 ⟨element, folded⟩).2
    obtain ⟨inLeft, inRight, across⟩ := List.pairwise_append.1 pairs
    refine mergeable_array.2 ⟨rfl, (laws.exists_mergeOnto all' small).2 ⟨by simp, ?_⟩⟩
    refine List.pairwise_append.2 ⟨inRight, inLeft, fun y memberRight x memberLeft => ?_⟩
    exact laws.symm (ha.value memberLeft) (hb.value memberRight) (across x memberLeft y memberRight)

theorem Coherent.merged_object (laws : Coherent n) {name : String} {left right shared : Fields}
    (ha : TidyBelow (n + 1) (object name left)) (hb : TidyBelow (n + 1) (object name right))
    (hc : TidyBelow (n + 1) c) (plain : c.isOptional = false)
    (ok : mergeFields left right = .ok shared) :
    Mergeable (object name (shared ++ fieldsOnlyIn left right)) c ↔
      Mergeable (object name left) c ∧ Mergeable (object name right) c := by
  have ht := ha.merge hb (merge_of_unites (.object name ok))
  by_cases suits : c = empty ∨ ∃ m fields, c = object m fields
  · rcases suits with rfl | ⟨m, fields, rfl⟩
    · simp
    -- Entries are less deep than their objects, so the law holds for each of them.
    have law : ∀ key, Mergeable (entry (shared ++ fieldsOnlyIn left right) key) (entry fields key) ↔
        Mergeable (entry left key) (entry fields key) ∧
          Mergeable (entry right key) (entry fields key) := fun key =>
      laws.merged (ha.entry key) (hb.entry key) (hc.entry key)
        (entry_merged (wellFormed_object.1 ha.tidy.wellFormed)
          (wellFormed_object.1 hb.tidy.wellFormed) ok key)
    simp only [mergeable_object ht.tidy hc.tidy, mergeable_object ha.tidy hc.tidy,
      mergeable_object hb.tidy hc.tidy, law, forall_and]
    exact and_and_left
  -- Any other shape merges with none of the three.
  · exact iff_of_false (fun h => suits (h.suits_object plain))
      fun both => suits (both.1.suits_object plain)

theorem Coherent.merged_array (laws : Coherent n) {name : String} {left right : List Shape}
    {element : Shape} (ha : TidyBelow (n + 1) (array name left))
    (hb : TidyBelow (n + 1) (array name right)) (hc : TidyBelow (n + 1) c)
    (plain : c.isOptional = false) (folded : mergeOnto empty (left ++ right) = .ok element) :
    Mergeable (array name element.asValues) c ↔
      Mergeable (array name left) c ∧ Mergeable (array name right) c := by
  by_cases suits : c = empty ∨ ∃ m values, c = array m values
  · rcases suits with rfl | ⟨m, values, rfl⟩
    · simp
    have small : TidyBelow n empty := ha.empty
    have inLeft : ∀ value ∈ left, TidyBelow n value := fun _ => ha.value
    have inRight : ∀ value ∈ right, TidyBelow n value := fun _ => hb.value
    have inValues : ∀ value ∈ values, TidyBelow n value := fun _ => hc.value
    have inPool := List.forall_mem_append.2 ⟨inLeft, inRight⟩
    have fits : ∀ value ∈ values, (Mergeable element value ↔
        (∀ part ∈ left, Mergeable part value) ∧ ∀ part ∈ right, Mergeable part value) := by
      intro value member
      rw [laws.mergeable_last inPool small (inValues value member) folded, List.forall_mem_append]
      simp
    have pooled : (∃ last, mergeOnto empty (element.asValues ++ values) = .ok last) ↔
        (∀ value ∈ values, Mergeable element value) ∧ values.Pairwise Mergeable := by
      rw [mergeOnto_asValues]
      exact laws.exists_mergeOnto inValues (mergeOnto_invariant TidyBelow.merge inPool small folded)
    have pairs := ((laws.exists_mergeOnto inPool small).1 ⟨element, folded⟩).2
    rw [mergeable_array, mergeable_array, mergeable_array, pooled,
      laws.exists_mergeOnto (List.forall_mem_append.2 ⟨inLeft, inValues⟩) small,
      laws.exists_mergeOnto (List.forall_mem_append.2 ⟨inRight, inValues⟩) small]
    simp only [List.pairwise_append, mergeable_empty_left] at pairs ⊢
    -- Within the pool all pairs merge already, so only the pairs with the third array count.
    grind
  · exact iff_of_false (fun h => suits (h.suits_array plain))
      fun both => suits (both.1.suits_array plain)

theorem Coherent.merged_plain (laws : Coherent n) (ha : TidyBelow (n + 1) a)
    (hb : TidyBelow (n + 1) b) (hc : TidyBelow (n + 1) c) (plain : c.isOptional = false)
    (unites : Unites a b t) : Mergeable t c ↔ Mergeable a c ∧ Mergeable b c := by
  cases unites with
  | emptyLeft => simp
  | emptyRight => simp
  | bool x y => exact merged_leaf (by simp [kind]) rfl rfl plain
  | number x y => exact merged_leaf (by simp [kind]) rfl rfl plain
  | text x y => exact merged_leaf (by simp [kind]) rfl rfl plain
  | url x y => exact merged_leaf (by simp [kind]) rfl rfl plain
  | date x => simp
  | object name shared => exact laws.merged_object ha hb hc plain shared
  | array name folded => exact laws.merged_array ha hb hc plain folded

theorem coherent (n : Nat) : Coherent n := by
  induction n with
  | zero =>
    exact ⟨fun ha => absurd ha.bound (Nat.not_lt_zero _),
      fun ha => absurd ha.bound (Nat.not_lt_zero _)⟩
  | succ n laws =>
    -- Both laws are brought down to bare shapes, where the cases of one level more apply.
    have symm {a b : Shape} (ha : TidyBelow (n + 1) a) (hb : TidyBelow (n + 1) b) :
        Mergeable a.bare b.bare ↔ Mergeable b.bare a.bare :=
      ⟨laws.symm_plain ha.bare hb.bare (isOptional_bare a) (isOptional_bare b),
        laws.symm_plain hb.bare ha.bare (isOptional_bare b) (isOptional_bare a)⟩
    have toBare {a b : Shape} (ha : TidyBelow (n + 1) a) (hb : TidyBelow (n + 1) b) :
        Mergeable a b ↔ Mergeable a.bare b.bare :=
      mergeable_iff_bare ha.tidy.wellFormed hb.tidy.wellFormed (symm hb ha)
    constructor
    · intro a b ha hb h
      rw [toBare hb ha, ← symm ha hb, ← toBare ha hb]
      exact h
    · intro a b c t ha hb hc ok
      rw [toBare (ha.merge hb ok) hc, toBare ha hc, toBare hb hc]
      have bare {x y s : Shape} (hx : TidyBelow (n + 1) x) (hy : TidyBelow (n + 1) y)
          (ok : x.bare.merge y.bare = .ok s) :
          Mergeable s c.bare ↔ Mergeable x.bare c.bare ∧ Mergeable y.bare c.bare :=
        laws.merged_plain hx.bare hy.bare hc.bare (isOptional_bare c)
          (unites_of_merge (isOptional_bare x) (isOptional_bare y) ok)
      obtain ⟨_, merged | ⟨_, swapped⟩⟩ := merge_eq_ok ha.tidy.wellFormed hb.tidy.wellFormed ok
      · exact bare ha hb merged
      · rw [bare hb ha swapped, and_comm]

end

/-! The laws for all tidy shapes. -/

theorem Tidy.below {t : Shape} (h : t.Tidy) {n : Nat} (bound : t.depth ≤ n) :
    TidyBelow (n + 1) t :=
  ⟨h, Nat.lt_succ_of_le bound⟩

section
variable {a b : Shape} {samples : List Shape}

theorem Mergeable.symm (ta : a.Tidy) (tb : b.Tidy) (h : Mergeable a b) : Mergeable b a :=
  (coherent _).symm (ta.below (Nat.le_max_left _ _)) (tb.below (Nat.le_max_right _ _)) h

/-- A merged shape merges with what both of its parts merge with. -/
theorem mergeable_merged {c t : Shape} (ta : a.Tidy) (tb : b.Tidy) (tc : c.Tidy)
    (ok : a.merge b = .ok t) : Mergeable t c ↔ Mergeable a c ∧ Mergeable b c :=
  (coherent (max a.depth (max b.depth c.depth) + 1)).merged (ta.below (by omega))
    (tb.below (by omega)) (tc.below (by omega)) ok

theorem exists_mergeOnto_iff {acc : Shape} (start : acc.Tidy)
    (all : ∀ sample ∈ samples, sample.Tidy) :
    (∃ last, mergeOnto acc samples = .ok last) ↔
      (∀ sample ∈ samples, Mergeable acc sample) ∧ samples.Pairwise Mergeable := by
  refine (coherent _).exists_mergeOnto (fun sample member => ?_)
    (start.below (Nat.le_max_left _ (valuesDepth samples)))
  exact (all sample member).below
    (Nat.le_trans (depth_le_of_mem_values member) (Nat.le_max_right _ _))

theorem pairwise_mergeable_perm {samples' : List Shape} (perm : samples.Perm samples')
    (all : ∀ sample ∈ samples, sample.Tidy) (pairs : samples.Pairwise Mergeable) :
    samples'.Pairwise Mergeable := by
  have both : samples.Pairwise fun a b => Mergeable a b ∧ Mergeable b a :=
    pairs.imp_of_mem fun inLeft inRight h => ⟨h, h.symm (all _ inLeft) (all _ inRight)⟩
  exact (both.perm perm fun h => ⟨h.2, h.1⟩).imp And.left

theorem exists_reduce_iff (all : ∀ sample ∈ samples, sample.Tidy) :
    (∃ t, reduce samples = .ok t) ↔ samples.Pairwise Mergeable := by
  simp only [reduce_eq_ok, exists_mergeOnto_iff tidy_empty all, mergeable_empty_left]
  simp

theorem Tidy.reduce {t : Shape} (all : ∀ sample ∈ samples, sample.Tidy)
    (ok : reduce samples = .ok t) : t.Tidy :=
  mergeOnto_invariant Tidy.merge all tidy_empty (reduce_eq_ok.1 ok)

theorem mergeable_reduced (all : ∀ sample ∈ samples, sample.Tidy) (tb : b.Tidy) {t : Shape}
    (ok : reduce samples = .ok t) : Mergeable t b ↔ ∀ sample ∈ samples, Mergeable sample b := by
  rw [reduce_eq_ok] at ok
  have law := (coherent (max b.depth (valuesDepth samples) + 1)).mergeable_last
    (fun sample member => (all sample member).below
      (Nat.le_trans (depth_le_of_mem_values member) (Nat.le_max_right _ _)))
    (tidy_empty.below (Nat.zero_le _)) (tb.below (Nat.le_max_left _ _)) ok
  simpa using law

end

end ShapeInference.Shape
