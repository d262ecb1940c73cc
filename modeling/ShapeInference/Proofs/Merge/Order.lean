import ShapeInference.Proofs.Merge.Mergeable
import ShapeInference.Proofs.Shape.Alike

/-! The order of merges.

Merging respects alike shapes, and two shapes that are merged into a third one may come in either
order: the results are alike. Order and grouping of any number of samples follow. Pooled arrays make
both laws depend on the laws for their elements, so they are proved together, for all shapes below
a depth.
-/

set_option autoImplicit false

namespace ShapeInference

theorem NumberKind.widen_right_comm (x y z : NumberKind) :
    (x.widen y).widen z = (x.widen z).widen y := by
  cases x <;> cases y <;> cases z <;> rfl

namespace Shape

structure OrderFree (n : Nat) : Prop where
  congr {a a' b b' t t' : Shape} : TidyBelow n a → TidyBelow n a' → TidyBelow n b →
    TidyBelow n b' → Alike a a' → Alike b b' → a.merge b = .ok t → a'.merge b' = .ok t' →
    Alike t t'
  swap {a b c s s' t t' : Shape} : TidyBelow n a → TidyBelow n b → TidyBelow n c →
    a.merge b = .ok s → s.merge c = .ok t → a.merge c = .ok s' → s'.merge b = .ok t' → Alike t t'

section
variable {n : Nat}

theorem TidyBelow.nothing {t : Shape} (h : TidyBelow n t) : TidyBelow n .empty :=
  ⟨tidy_empty, Nat.lt_of_le_of_lt (Nat.zero_le _) h.bound⟩

theorem OrderFree.comm (laws : OrderFree n) {a b t t' : Shape} (ha : TidyBelow n a)
    (hb : TidyBelow n b) (ok : a.merge b = .ok t) (ok' : b.merge a = .ok t') : Alike t t' :=
  laws.swap ha.nothing ha hb (empty_merge a) ok (empty_merge b) ok'

theorem OrderFree.fold_congr (laws : OrderFree n) {values values' : List Shape}
    (alike : List.Forall₂ Alike values values') (all : ∀ value ∈ values, TidyBelow n value)
    (all' : ∀ value ∈ values', TidyBelow n value) {acc acc' last last' : Shape}
    (start : TidyBelow n acc) (start' : TidyBelow n acc') (alikeStart : Alike acc acc')
    (ok : mergeOnto acc values = .ok last) (ok' : mergeOnto acc' values' = .ok last') :
    Alike last last' := by
  induction alike generalizing acc acc' with
  | nil =>
    rw [mergeOnto_nil] at ok ok'
    cases ok
    cases ok'
    exact alikeStart
  | cons alikeHead _ ih =>
    simp only [List.forall_mem_cons] at all all'
    obtain ⟨s, first, later⟩ := mergeOnto_cons_eq_ok.1 ok
    obtain ⟨s', first', later'⟩ := mergeOnto_cons_eq_ok.1 ok'
    have alikeNext := laws.congr start start' all.1 all'.1 alikeStart alikeHead first first'
    exact ih all.2 all'.2 (start.merge all.1 first) (start'.merge all'.1 first') alikeNext later
      later'

theorem OrderFree.fold_perm (laws : OrderFree n) {values values' : List Shape}
    (perm : values.Perm values') (all : ∀ value ∈ values, TidyBelow n value)
    {acc last last' : Shape} (start : TidyBelow n acc)
    (ok : mergeOnto acc values = .ok last) (ok' : mergeOnto acc values' = .ok last') :
    Alike last last' := by
  induction perm generalizing acc last last' with
  | nil =>
    cases ok.symm.trans ok'
    exact .refl last
  | cons value _ ih =>
    simp only [List.forall_mem_cons] at all
    obtain ⟨s, first, later⟩ := mergeOnto_cons_eq_ok.1 ok
    obtain ⟨s', first', later'⟩ := mergeOnto_cons_eq_ok.1 ok'
    cases first.symm.trans first'
    exact ih all.2 (start.merge all.1 first) later later'
  | swap a b rest =>
    simp only [List.forall_mem_cons] at all
    obtain ⟨hb, ha, inRest⟩ := all
    -- After two merges in either order the shapes are alike, and the rest is the same.
    obtain ⟨s, first, more⟩ := mergeOnto_cons_eq_ok.1 ok
    obtain ⟨t, second, later⟩ := mergeOnto_cons_eq_ok.1 more
    obtain ⟨s', first', more'⟩ := mergeOnto_cons_eq_ok.1 ok'
    obtain ⟨t', second', later'⟩ := mergeOnto_cons_eq_ok.1 more'
    have alike := laws.swap start hb ha first second first' second'
    have same : List.Forall₂ Alike rest rest := List.forall₂_same.2 fun value _ => .refl value
    exact laws.fold_congr same inRest inRest ((start.merge hb first).merge ha second)
      ((start.merge ha first').merge hb second') alike later later'
  | @trans first middle final front back ihFront ihBack =>
    have inMiddle : ∀ value ∈ middle, TidyBelow n value := fun value member =>
      all value (front.mem_iff.2 member)
    -- The order in between succeeds as well.
    obtain ⟨fits, pairs⟩ := (exists_mergeOnto_iff start.tidy fun _ member =>
      (all _ member).tidy).1 ⟨last, ok⟩
    obtain ⟨between, okBetween⟩ := (exists_mergeOnto_iff start.tidy fun _ member =>
      (inMiddle _ member).tidy).2 ⟨fun value member => fits value (front.mem_iff.2 member),
        pairwise_mergeable_perm front (fun _ member => (all _ member).tidy) pairs⟩
    exact (ihFront all start ok okBetween).trans (ihBack inMiddle start okBetween ok')

end

/-! One level more, without optionals. -/

theorem forall₂_asValues {a b : Shape} (h : Alike a b) :
    List.Forall₂ Alike a.asValues b.asValues := by
  unfold asValues
  rw [h.kind_eq]
  split
  · exact .nil
  · exact .cons h .nil

section
variable {n : Nat} {a a' b b' c s s' t t' : Shape}

theorem TidyBelow.values {name : String} {left right : List Shape}
    (hl : TidyBelow (n + 1) (array name left)) (hr : TidyBelow (n + 1) (array name right)) :
    ∀ value ∈ left ++ right, TidyBelow n value :=
  List.forall_mem_append.2 ⟨fun _ => hl.value, fun _ => hr.value⟩

theorem OrderFree.congr_plain (laws : OrderFree n) (ha : TidyBelow (n + 1) a)
    (ha' : TidyBelow (n + 1) a') (hb : TidyBelow (n + 1) b) (hb' : TidyBelow (n + 1) b')
    (plainLeft : a.isOptional = false) (plainRight : b.isOptional = false) (left : Alike a a')
    (right : Alike b b') (ok : a.merge b = .ok t) (ok' : a'.merge b' = .ok t') : Alike t t' := by
  have unites' := unites_of_merge (left.isOptional_eq ▸ plainLeft)
    (right.isOptional_eq ▸ plainRight) ok'
  cases unites_of_merge plainLeft plainRight ok with
  | emptyLeft =>
    cases left
    rw [empty_merge] at ok'
    cases ok'
    exact right
  | emptyRight =>
    cases right
    rw [merge_empty] at ok'
    cases ok'
    exact left
  | bool =>
    cases left
    cases right
    cases unites'
    exact .bool _
  | number =>
    cases left
    cases right
    cases unites'
    exact .number _
  | text =>
    cases left
    cases right
    cases unites'
    exact .text _ _
  | url =>
    cases left
    cases right
    cases unites'
    exact .url _ _
  | date =>
    cases left
    cases right
    cases unites'
    exact .date _
  | object name shared =>
    cases left with
    | object _ keysLeft fieldsLeft =>
      have entriesLeft := alike_entry (.object name keysLeft fieldsLeft)
      cases right with
      | object _ keysRight fieldsRight =>
        have entriesRight := alike_entry (.object name keysRight fieldsRight)
        cases unites' with
        | object _ shared' =>
          refine alike_object (fun key => ?_) fun key => ?_
          · rw [mem_keys_merged shared, mem_keys_merged shared', keysLeft key, keysRight key]
          · exact laws.congr (ha.entry key) (ha'.entry key) (hb.entry key) (hb'.entry key)
              (entriesLeft key) (entriesRight key)
              (entry_merged (wellFormed_object.1 ha.tidy.wellFormed)
                (wellFormed_object.1 hb.tidy.wellFormed) shared key)
              (entry_merged (wellFormed_object.1 ha'.tidy.wellFormed)
                (wellFormed_object.1 hb'.tidy.wellFormed) shared' key)
  | array name folded =>
    cases left with
    | array _ lengthsLeft elementsLeft =>
      cases right with
      | array _ lengthsRight elementsRight =>
        cases unites' with
        | array _ folded' =>
          -- Alike arrays have alike pools, element by element.
          have pools := List.rel_append (alike_array.1 (.array name lengthsLeft elementsLeft)).2
            (alike_array.1 (.array name lengthsRight elementsRight)).2
          refine alike_array.2 ⟨rfl, forall₂_asValues ?_⟩
          exact laws.fold_congr pools (ha.values hb) (ha'.values hb') ha.empty ha'.empty (.refl _)
            folded folded'

theorem OrderFree.comm_plain (laws : OrderFree n) (ha : TidyBelow (n + 1) a)
    (hb : TidyBelow (n + 1) b) (plainLeft : a.isOptional = false)
    (plainRight : b.isOptional = false)
    (ok : a.merge b = .ok t) (ok' : b.merge a = .ok t') : Alike t t' := by
  have unites' := unites_of_merge plainRight plainLeft ok'
  cases unites_of_merge plainLeft plainRight ok with
  | emptyLeft =>
    rw [merge_empty] at ok'
    cases ok'
    exact .refl _
  | emptyRight =>
    rw [empty_merge] at ok'
    cases ok'
    exact .refl _
  | bool x y =>
    cases unites'
    rw [Bool.and_comm]
  | number x y =>
    cases unites'
    cases x <;> cases y <;> exact .number _
  | text =>
    cases unites'
    exact .text _ _
  | url =>
    cases unites'
    exact .url _ _
  | date =>
    cases unites'
    exact .date _
  | object name shared =>
    cases unites' with
    | object _ shared' =>
      have wa := wellFormed_object.1 ha.tidy.wellFormed
      have wb := wellFormed_object.1 hb.tidy.wellFormed
      refine alike_object (fun key => ?_) fun key => ?_
      · rw [mem_keys_merged shared, mem_keys_merged shared', or_comm]
      · exact laws.comm (ha.entry key) (hb.entry key) (entry_merged wa wb shared key)
          (entry_merged wb wa shared' key)
  | array name folded =>
    cases unites' with
    | array _ folded' =>
      refine alike_array.2 ⟨rfl, forall₂_asValues ?_⟩
      exact laws.fold_perm List.perm_append_comm (ha.values hb) ha.empty folded folded'

theorem mergeOnto_pooled {left middle right : List Shape} {element last : Shape}
    (folded : mergeOnto empty (left ++ middle) = .ok element)
    (later : mergeOnto empty (element.asValues ++ right) = .ok last) :
    mergeOnto empty (left ++ (middle ++ right)) = .ok last := by
  rw [mergeOnto_asValues] at later
  rw [← List.append_assoc, mergeOnto_append_eq_ok]
  exact ⟨element, folded, later⟩

theorem OrderFree.swap_plain (laws : OrderFree n) (ha : TidyBelow (n + 1) a)
    (hb : TidyBelow (n + 1) b) (hc : TidyBelow (n + 1) c) (plainA : a.isOptional = false)
    (plainB : b.isOptional = false) (plainC : c.isOptional = false) (ok : a.merge b = .ok s)
    (next : s.merge c = .ok t) (ok' : a.merge c = .ok s') (next' : s'.merge b = .ok t') :
    Alike t t' := by
  have plainS := (unites_of_merge plainA plainB ok).plain plainA plainB
  have plainS' := (unites_of_merge plainA plainC ok').plain plainA plainC
  have unitesNext := unites_of_merge plainS plainC next
  have unites' := unites_of_merge plainA plainC ok'
  have unitesNext' := unites_of_merge plainS' plainB next'
  by_cases noRight : c.kind = .empty
  · -- The third shape adds nothing, so both orders merge the same two.
    rw [eq_empty_of_kind noRight, merge_empty] at next ok'
    cases next
    cases ok'
    cases ok.symm.trans next'
    exact .refl _
  cases unites_of_merge plainA plainB ok with
  | emptyLeft =>
    rw [empty_merge] at ok'
    cases ok'
    exact laws.comm_plain hb hc plainB plainC next next'
  | emptyRight =>
    rw [merge_empty] at next'
    cases next'
    cases next.symm.trans ok'
    exact .refl _
  | bool x y =>
    cases unites' with
    | emptyRight => exact absurd rfl noRight
    | bool _ z =>
      cases unitesNext
      cases unitesNext'
      rw [Bool.and_right_comm]
  | number x y =>
    cases unites' with
    | emptyRight => exact absurd rfl noRight
    | number _ z =>
      cases unitesNext
      cases unitesNext'
      rw [NumberKind.widen_right_comm]
  | text x y =>
    cases unites' with
    | emptyRight => exact absurd rfl noRight
    | text _ z =>
      cases unitesNext
      cases unitesNext'
      exact .text _ _
  | url x y =>
    cases unites' with
    | emptyRight => exact absurd rfl noRight
    | url _ z =>
      cases unitesNext
      cases unitesNext'
      exact .url _ _
  | date format =>
    cases unites' with
    | emptyRight => exact absurd rfl noRight
    | date _ =>
      cases unitesNext
      cases unitesNext'
      exact .date _
  | object name shared =>
    have hs := ha.merge hb ok
    have hs' := ha.merge hc ok'
    have wa := wellFormed_object.1 ha.tidy.wellFormed
    have wb := wellFormed_object.1 hb.tidy.wellFormed
    cases unites' with
    | emptyRight => exact absurd rfl noRight
    | object _ shared' =>
      have wc := wellFormed_object.1 hc.tidy.wellFormed
      cases unitesNext with
      | object _ both =>
        cases unitesNext' with
        | object _ both' =>
          refine alike_object (fun key => ?_) fun key => ?_
          · rw [mem_keys_merged both, mem_keys_merged shared, mem_keys_merged both',
              mem_keys_merged shared', or_right_comm]
          · exact laws.swap (ha.entry key) (hb.entry key) (hc.entry key)
              (entry_merged wa wb shared key)
              (entry_merged (wellFormed_object.1 hs.tidy.wellFormed) wc both key)
              (entry_merged wa wc shared' key)
              (entry_merged (wellFormed_object.1 hs'.tidy.wellFormed) wb both' key)
  | array name folded =>
    cases unites' with
    | emptyRight => exact absurd rfl noRight
    | array _ folded' =>
      cases unitesNext with
      | array _ both =>
        cases unitesNext' with
        | array _ both' =>
          refine alike_array.2 ⟨rfl, forall₂_asValues ?_⟩
          -- Both orders merge one pool, with the last two arrays exchanged.
          refine laws.fold_perm (List.perm_append_comm.append_left _) ?_ ha.empty
            (mergeOnto_pooled folded both) (mergeOnto_pooled folded' both')
          exact List.forall_mem_append.2 ⟨fun _ => ha.value, hb.values hc⟩

/-! Optionals put on again. -/

theorem OrderFree.merge_bare (laws : OrderFree n) (ha : TidyBelow (n + 1) a)
    (hb : TidyBelow (n + 1) b) (ok : a.merge b = .ok t) : ∃ u, a.bare.merge b.bare = .ok u ∧
      Alike t.bare u ∧ t.isOptional = (a.isOptional || b.isOptional) := by
  obtain ⟨bit, merged | ⟨_, swapped⟩⟩ := merge_eq_ok ha.tidy.wellFormed hb.tidy.wellFormed ok
  · exact ⟨t.bare, merged, .refl _, bit⟩
  · obtain ⟨u, merged⟩ := Mergeable.symm hb.tidy.bare ha.tidy.bare ⟨_, swapped⟩
    refine ⟨u, merged, ?_, bit⟩
    exact laws.comm_plain hb.bare ha.bare (isOptional_bare b) (isOptional_bare a) swapped merged

theorem OrderFree.congr_next (laws : OrderFree n) (ha : TidyBelow (n + 1) a)
    (ha' : TidyBelow (n + 1) a') (hb : TidyBelow (n + 1) b) (hb' : TidyBelow (n + 1) b')
    (left : Alike a a') (right : Alike b b') (ok : a.merge b = .ok t)
    (ok' : a'.merge b' = .ok t') : Alike t t' := by
  obtain ⟨u, merged, alike, bit⟩ := laws.merge_bare ha hb ok
  obtain ⟨u', merged', alike', bit'⟩ := laws.merge_bare ha' hb' ok'
  have same : t.isOptional = t'.isOptional := by
    rw [bit, bit', left.isOptional_eq, right.isOptional_eq]
  refine .of_bare (ha.merge hb ok).tidy.wellFormed (ha'.merge hb' ok').tidy.wellFormed same ?_
  have between := laws.congr_plain ha.bare ha'.bare hb.bare hb'.bare (isOptional_bare a)
    (isOptional_bare b) left.bare right.bare merged merged'
  exact (alike.trans between).trans alike'.symm

theorem OrderFree.merge_twice (laws : OrderFree n) (ha : TidyBelow (n + 1) a)
    (hb : TidyBelow (n + 1) b) (hc : TidyBelow (n + 1) c) (ok : a.merge b = .ok s)
    (next : s.merge c = .ok t) : ∃ u v, a.bare.merge b.bare = .ok u ∧
      u.merge c.bare = .ok v ∧ Alike t.bare v ∧
      t.isOptional = (a.isOptional || b.isOptional || c.isOptional) := by
  have hs := ha.merge hb ok
  obtain ⟨u, first, alikeFirst, bitFirst⟩ := laws.merge_bare ha hb ok
  obtain ⟨w, second, alikeSecond, bitSecond⟩ := laws.merge_bare hs hc next
  have hu := ha.bare.merge hb.bare first
  have plain := (unites_of_merge (isOptional_bare a) (isOptional_bare b) first).plain
    (isOptional_bare a) (isOptional_bare b)
  -- The merged bare shape need not be `u` itself, but it merges with no more and no less.
  have fits : Mergeable u c.bare := by
    rw [mergeable_merged ha.tidy.bare hb.tidy.bare hc.tidy.bare first]
    obtain ⟨_, merged | ⟨_, swapped⟩⟩ := merge_eq_ok ha.tidy.wellFormed hb.tidy.wellFormed ok
    · exact (mergeable_merged ha.tidy.bare hb.tidy.bare hc.tidy.bare merged).1 ⟨w, second⟩
    · exact ((mergeable_merged hb.tidy.bare ha.tidy.bare hc.tidy.bare swapped).1 ⟨w, second⟩).symm
  obtain ⟨v, third⟩ := fits
  have between := laws.congr_plain hs.bare hu hc.bare hc.bare (isOptional_bare s)
    (isOptional_bare c) alikeFirst (.refl _) second third
  exact ⟨u, v, first, third, alikeSecond.trans between, by rw [bitSecond, bitFirst]⟩

theorem OrderFree.swap_next (laws : OrderFree n) (ha : TidyBelow (n + 1) a)
    (hb : TidyBelow (n + 1) b) (hc : TidyBelow (n + 1) c) (ok : a.merge b = .ok s)
    (next : s.merge c = .ok t) (ok' : a.merge c = .ok s') (next' : s'.merge b = .ok t') :
    Alike t t' := by
  obtain ⟨u, v, first, second, alike, bit⟩ := laws.merge_twice ha hb hc ok next
  obtain ⟨u', v', first', second', alike', bit'⟩ := laws.merge_twice ha hc hb ok' next'
  have same : t.isOptional = t'.isOptional := by
    rw [bit, bit', Bool.or_right_comm]
  have between := laws.swap_plain ha.bare hb.bare hc.bare (isOptional_bare a) (isOptional_bare b)
    (isOptional_bare c) first second first' second'
  refine .of_bare ((ha.merge hb ok).merge hc next).tidy.wellFormed
    ((ha.merge hc ok').merge hb next').tidy.wellFormed same ?_
  exact (alike.trans between).trans alike'.symm

end

theorem orderFree (n : Nat) : OrderFree n := by
  induction n with
  | zero =>
    exact ⟨fun ha => absurd ha.bound (Nat.not_lt_zero _),
      fun ha => absurd ha.bound (Nat.not_lt_zero _)⟩
  | succ n laws => exact ⟨laws.congr_next, laws.swap_next⟩

/-! The laws for all tidy shapes. -/

section
variable {a a' b b' c s s' t t' : Shape}

theorem Alike.merge (ta : a.Tidy) (ta' : a'.Tidy) (tb : b.Tidy) (tb' : b'.Tidy)
    (left : Alike a a') (right : Alike b b') (ok : a.merge b = .ok t)
    (ok' : a'.merge b' = .ok t') : Alike t t' :=
  (orderFree (max (max a.depth a'.depth) (max b.depth b'.depth) + 1)).congr
    (ta.below (by omega)) (ta'.below (by omega)) (tb.below (by omega)) (tb'.below (by omega))
    left right ok ok'

theorem merge_right_comm (ta : a.Tidy) (tb : b.Tidy) (tc : c.Tidy) (ok : a.merge b = .ok s)
    (next : s.merge c = .ok t) (ok' : a.merge c = .ok s') (next' : s'.merge b = .ok t') :
    Alike t t' :=
  (orderFree (max a.depth (max b.depth c.depth) + 1)).swap (ta.below (by omega))
    (tb.below (by omega)) (tc.below (by omega)) ok next ok' next'

theorem merge_comm (ta : a.Tidy) (tb : b.Tidy) (ok : a.merge b = .ok t)
    (ok' : b.merge a = .ok t') : Alike t t' :=
  merge_right_comm tidy_empty ta tb (empty_merge a) ok (empty_merge b) ok'

/-- Merging from the left and merging from the right give alike shapes. -/
theorem merge_assoc (ta : a.Tidy) (tb : b.Tidy) (tc : c.Tidy) (ok : a.merge b = .ok s)
    (next : s.merge c = .ok t) (ok' : b.merge c = .ok s') (next' : a.merge s' = .ok t') :
    Alike t t' := by
  -- Both sides are alike to `b` merged with `a` and `c`, in one order or the other.
  have fits := (mergeable_merged ta tb tc ok).1 ⟨t, next⟩
  have ts := ta.merge tb ok
  have ts' := tb.merge tc ok'
  obtain ⟨u, swapped⟩ := Mergeable.symm ta tb ⟨s, ok⟩
  have tu := tb.merge ta swapped
  obtain ⟨v, left⟩ := (mergeable_merged tb ta tc swapped).2 ⟨fits.2, fits.1⟩
  obtain ⟨w, right⟩ := Mergeable.symm ta ts' ⟨t', next'⟩
  have first : Alike t v := (merge_comm ta tb ok swapped).merge ts tu tc tc (.refl c) next left
  have second : Alike v w := merge_right_comm tb ta tc swapped left ok' right
  exact (first.trans second).trans (merge_comm ts' ta right next')

end

end Shape

end ShapeInference
