import ShapeInference.Proofs.Merge.Kept
import ShapeInference.Proofs.Merge.Reduce

/-! Shapes that a merge leaves as they are.

A shape absorbs another one if merging that one into it changes nothing: no literal, no kind of a
number, no optional and no order of fields. What one side of a merge absorbs, the merged shape
absorbs as well, whichever side comes first. A condensed shape absorbs itself, and so the samples
that reduce to a shape are absorbed by it. An array of several values does not absorb itself: its
elements have yet to meet.
-/

set_option autoImplicit false

namespace ShapeInference

theorem NumberKind.widen_eq_double {x y : NumberKind} :
    x.widen y = .double ↔ x = .double ∨ y = .double := by
  cases x <;> cases y <;> decide

namespace Shape

abbrev Absorbs (t x : Shape) : Prop := t.merge x = .ok t

section
variable {t b : Shape} {left right : Fields}

theorem orAbsent_of_isOptional (opt : t.isOptional = true) : t.orAbsent = t := by
  cases t with
  | absent | optional => rfl
  | _ => cases opt

theorem mergeOnto_eq_self {values : List Shape} (all : ∀ value ∈ values, t.merge value = .ok t) :
    mergeOnto t values = .ok t := by
  induction values with
  | nil => exact mergeOnto_nil t
  | cons value rest ih =>
    obtain ⟨first, later⟩ := List.forall_mem_cons.1 all
    exact mergeOnto_cons_eq_ok.2 ⟨t, first, ih later⟩

theorem mergeFields_eq_self (all : ∀ field ∈ left, Joins right field.1 field.2 field.2) :
    mergeFields left right = .ok left := by
  induction left with
  | nil => exact mergeFields_nil right
  | cons field rest ih =>
    obtain ⟨key, t⟩ := field
    obtain ⟨first, later⟩ := List.forall_mem_cons.1 all
    exact mergeFields_cons_eq_ok.2 ⟨t, rest, first, ih later, rfl⟩

theorem fieldsOnlyIn_eq_nil (known : ∀ key ∈ Members.keys right, key ∈ Members.keys left) :
    fieldsOnlyIn left right = [] := by
  rw [fieldsOnlyIn, List.map_eq_nil_iff, List.filter_eq_nil_iff]
  intro field member
  have found := Members.isSome_lookup.2 (known field.1 (List.mem_map_of_mem member))
  rw [Option.isNone_iff_eq_none]
  exact Option.isSome_iff_ne_none.1 found

end

/-! What is absorbed, kind by kind. -/

section
variable {a b t x : Shape}

theorem absorbs_of_empty (h : Absorbs empty x) (t : Shape) : Absorbs t x := by
  rw [Absorbs, empty_merge] at h
  cases h
  exact merge_empty t

theorem absorbs_bool {p q : Bool} : Absorbs (bool p) (bool q) ↔ (p = true → q = true) := by
  rw [Absorbs, bool_merge_bool]
  cases p <;> cases q <;> simp

theorem absorbs_number {p q : NumberKind} :
    Absorbs (number p) (number q) ↔ (q = .double → p = .double) := by
  rw [Absorbs, number_merge_number]
  cases p <;> cases q <;> simp [NumberKind.widen]

theorem absorbs_text {p q : String} : Absorbs (text p) (text q) ↔ (p = "" → q = "") := by
  rw [Absorbs, text_merge_text]
  by_cases nothing : p = "" <;> simp [nothing]

/-- Apart from one bit, only the bare shapes count. -/
theorem absorbs_iff (wt : t.WellFormed) (wx : x.WellFormed) :
    Absorbs t x ↔ (x.isOptional = true → t.isOptional = true) ∧ Absorbs t.bare x.bare := by
  have whole := wt.orAbsentIf_bare
  cases opt : t.isOptional with
  | true =>
    rw [opt] at whole
    unfold Absorbs
    rw [merge_of_isOptional_left wt wx opt, map_eq_ok]
    constructor
    · rintro ⟨s, merged, same⟩
      have plain := (unites_of_merge (isOptional_bare t) (isOptional_bare x) merged).plain
        (isOptional_bare t) (isOptional_bare x)
      have inner : t.bare = s := by
        rw [← same, bare_orAbsent, bare_of_not_isOptional plain]
      exact ⟨fun _ => rfl, inner ▸ merged⟩
    · rintro ⟨_, merged⟩
      exact ⟨t.bare, merged, whole⟩
  | false =>
    rw [bare_of_not_isOptional opt]
    constructor
    · intro h
      have bit := (merge_eq_ok wt wx h).1
      rw [opt, Bool.false_or] at bit
      rw [bare_of_not_isOptional bit.symm, ← bit]
      exact ⟨id, h⟩
    · rintro ⟨bit, h⟩
      have plain : x.isOptional = false := Bool.eq_false_iff.2 fun some => nomatch bit some
      rwa [bare_of_not_isOptional plain] at h

theorem merge_eq_self_of_bare (wt : t.WellFormed) (wb : b.WellFormed) (plain : b.isOptional = false)
    (same : t.bare.merge b = .ok t.bare) : t.merge b = .ok t := by
  refine (absorbs_iff wt wb).2 ⟨fun opt => ?_, ?_⟩
  · rw [plain] at opt
    cases opt
  · rwa [bare_of_not_isOptional plain]

/-- Two objects, key by key. No key may be new, since a new one would be added. -/
theorem absorbs_object {n m : String} {left right : Fields} (tl : (object n left).Tidy)
    (tr : (object m right).Tidy) : Absorbs (object n left) (object m right) ↔
      n = m ∧ (∀ key ∈ Members.keys right, key ∈ Members.keys left) ∧
        ∀ key, Absorbs (entry left key) (entry right key) := by
  have wl := wellFormed_object.1 tl.wellFormed
  have wr := wellFormed_object.1 tr.wellFormed
  constructor
  · intro h
    rw [Absorbs, object_merge_object] at h
    split at h
    · next same =>
      obtain ⟨shared, ok, whole⟩ := map_eq_ok.1 h
      injection whole with _ fields
      refine ⟨same, fun key inside => ?_, fun key => ?_⟩
      · rw [← fields]
        exact (mem_keys_merged ok).2 (.inr inside)
      · have entries := entry_merged wl wr ok key
        rwa [fields] at entries
    · cases h
  · rintro ⟨rfl, known, entries⟩
    have shared : mergeFields left right = .ok left := by
      apply mergeFields_eq_self
      intro field member
      have own := entries field.1
      rw [entry_of_lookup (Members.lookup_of_mem (tidy_object.1 tl).1 member)] at own
      cases found : right.lookup field.1 with
      | some b =>
        rw [entry_of_lookup found] at own
        exact .both found own
      | none =>
        rw [entry_of_missing found, Absorbs, merge_absent (wl field member)] at own
        have alone := Joins.alone (a := field.2) found
        rwa [Except.ok.inj own] at alone
    rw [Absorbs, object_merge_object, if_pos rfl, shared, fieldsOnlyIn_eq_nil known, Except.map,
      List.append_nil]

theorem absorbs_array {n m : String} {u v : Shape} :
    Absorbs (array n v.asValues) (array m u.asValues) ↔ n = m ∧ Absorbs v u := by
  rw [Absorbs, array_merge_array, representative_eq, mergeOnto_asValues, mergeOnto_of_asValues]
  constructor
  · intro h
    split at h
    · next same =>
      obtain ⟨values, merged, whole⟩ := map_eq_ok.1 h
      obtain ⟨s, ok, rfl⟩ := map_eq_ok.1 merged
      injection whole with _ values
      cases asValues_injective values
      exact ⟨same, ok⟩
    · cases h
  · rintro ⟨rfl, h⟩
    rw [if_pos rfl, h, Except.map, Except.map]

theorem Absorbs.asValues {n m : String} {left right : List Shape}
    (h : Absorbs (array n left) (array m right)) : ∃ v : Shape, left = v.asValues := by
  rw [Absorbs, array_merge_array] at h
  split at h
  · obtain ⟨values, merged, whole⟩ := map_eq_ok.1 h
    rw [representative_eq] at merged
    obtain ⟨v, _, rfl⟩ := map_eq_ok.1 merged
    injection whole with _ values
    exact ⟨v, values.symm⟩
  · cases h

end

/-! What one side of a merge absorbs. -/

def Persistent (x : Shape) : Prop := ∀ a b t : Shape, a.Tidy → b.Tidy → a.merge b = .ok t →
  Absorbs a x ∨ Absorbs b x → Absorbs t x

section
variable {a b t x y acc last : Shape} {values : List Shape}

theorem persistent_empty : Persistent empty := fun _ _ t _ _ _ _ => merge_empty t

/-- Absorbed by what was merged so far or by a value to come, and so by what all of them merge to. -/
theorem Persistent.mergeOnto (h : Persistent x) (all : ∀ value ∈ values, value.Tidy)
    (start : acc.Tidy) (absorbed : Absorbs acc x ∨ ∃ value ∈ values, Absorbs value x)
    (ok : mergeOnto acc values = .ok last) : Absorbs last x := by
  induction values generalizing acc with
  | nil =>
    rw [mergeOnto_nil] at ok
    cases ok
    rcases absorbed with before | ⟨_, inside, _⟩
    · exact before
    · cases inside
  | cons value rest ih =>
    obtain ⟨t, first, later⟩ := mergeOnto_cons_eq_ok.1 ok
    obtain ⟨tv, tidy⟩ := List.forall_mem_cons.1 all
    rw [List.exists_mem_cons_iff, ← or_assoc] at absorbed
    exact ih tidy (start.merge tv first) (absorbed.imp_left (h acc value t start tv first)) later

theorem Unites.kind_of_absorbs (h : Unites a b t) (plainLeft : a.isOptional = false)
    (plainRight : b.isOptional = false) (plain : x.isOptional = false) (seen : x.kind ≠ .empty)
    (absorbed : Absorbs a x ∨ Absorbs b x) : t.kind = x.kind := by
  rcases absorbed with left | right
  · have kind := (unites_of_merge plainLeft plain left).kind_eq.2 seen
    rw [← kind]
    exact h.kind_eq.1 (kind ▸ seen)
  · have kind := (unites_of_merge plainRight plain right).kind_eq.2 seen
    rw [← kind]
    exact h.kind_eq.2 (kind ▸ seen)

/-- It is enough to look at merges of bare shapes. As they come in both orders, neither side may be
preferred. -/
theorem persistent_of_unites (wx : x.WellFormed) (bare : x.bare = y)
    (step : ∀ a b t : Shape, a.Tidy → b.Tidy → Unites a b t → t.kind = y.kind →
      Absorbs a y ∨ Absorbs b y → Absorbs t y) : Persistent x := by
  have plain : y.isOptional = false := bare ▸ isOptional_bare x
  have united {a b t : Shape} (ta : a.Tidy) (tb : b.Tidy) (ok : a.bare.merge b.bare = .ok t)
      (absorbed : Absorbs a.bare y ∨ Absorbs b.bare y) : Absorbs t y := by
    have unites := unites_of_merge (isOptional_bare a) (isOptional_bare b) ok
    by_cases nothing : y.kind = .empty
    · rw [eq_empty_of_kind nothing]
      exact merge_empty t
    · exact step _ _ _ ta.bare tb.bare unites (unites.kind_of_absorbs (isOptional_bare a)
        (isOptional_bare b) plain nothing absorbed) absorbed
  intro a b t ta tb ok absorbed
  rw [absorbs_iff ta.wellFormed wx, absorbs_iff tb.wellFormed wx, bare] at absorbed
  obtain ⟨bit, merged⟩ := merge_eq_ok ta.wellFormed tb.wellFormed ok
  rw [absorbs_iff (ta.wellFormed.merge tb.wellFormed ok) wx, bare, bit, Bool.or_eq_true]
  refine ⟨fun opt => absorbed.imp (·.1 opt) (·.1 opt), ?_⟩
  have inner := absorbed.imp And.right And.right
  rcases merged with merged | ⟨_, swapped⟩
  · exact united ta tb merged inner
  · exact united tb ta swapped inner.symm

theorem merged_text_eq_empty {p q : String} : (if p = "" then q else p) = "" ↔ p = "" ∧ q = "" := by
  by_cases nothing : p = "" <;> simp [nothing]

theorem Unites.absorbs_leaf (h : Unites a b t) (leaf : x.isLeaf = true) (same : t.kind = x.kind)
    (absorbed : Absorbs a x ∨ Absorbs b x) : Absorbs t x := by
  cases h with
  | emptyLeft => exact absorbed.elim (absorbs_of_empty · _) id
  | emptyRight => exact absorbed.elim id (absorbs_of_empty · _)
  | bool p q =>
    cases x with
    | bool y =>
      rw [absorbs_bool, absorbs_bool] at absorbed
      rw [absorbs_bool, Bool.and_eq_true]
      exact fun both => absorbed.elim (· both.1) (· both.2)
    | _ => cases same
  | number p q =>
    cases x with
    | number y =>
      rw [absorbs_number, absorbs_number] at absorbed
      rw [absorbs_number, NumberKind.widen_eq_double]
      exact fun double => absorbed.imp (· double) (· double)
    | _ => cases same
  | text p q =>
    cases x with
    | text y =>
      rw [absorbs_text, absorbs_text] at absorbed
      rw [absorbs_text, merged_text_eq_empty]
      exact fun both => absorbed.elim (· both.1) (· both.2)
    | _ => cases same
  | url p q =>
    cases x with
    | url y => exact url_merge_url p y
    | _ => cases same
  | date format =>
    cases x with
    | date other => exact absorbed.elim id id
    | _ => cases same
  | object name shared =>
    cases x with
    | object => cases leaf
    | _ => cases same
  | array name folded =>
    cases x with
    | array => cases leaf
    | _ => cases same

theorem persistent_object {name : String} {fields : Fields} (tidy : (object name fields).Tidy)
    (below : ∀ key, Persistent (entry fields key)) : Persistent (object name fields) := by
  apply persistent_of_unites (y := object name fields) tidy.wellFormed rfl
  intro a b t ta tb unites kind absorbed
  have tt := ta.merge tb (merge_of_unites unites)
  cases unites with
  | emptyLeft => exact absorbed.elim (absorbs_of_empty · _) id
  | emptyRight => exact absorbed.elim id (absorbs_of_empty · _)
  | @object n left right shared ok =>
    rw [absorbs_object ta tidy, absorbs_object tb tidy] at absorbed
    refine (absorbs_object tt tidy).2 ⟨absorbed.elim And.left And.left, ?_, ?_⟩
    · intro key inside
      exact (mem_keys_merged ok).2 (absorbed.imp (·.2.1 key inside) (·.2.1 key inside))
    · intro key
      have merged := entry_merged (wellFormed_object.1 ta.wellFormed)
        (wellFormed_object.1 tb.wellFormed) ok key
      exact below key _ _ _ (entry_of_forall tidy_absent (tidy_object.1 ta).2)
        (entry_of_forall tidy_absent (tidy_object.1 tb).2) merged
        (absorbed.imp (·.2.2 key) (·.2.2 key))
  | _ => cases kind

theorem absorbs_value {n m : String} {u : Shape}
    (h : Absorbs (array n values) (array m u.asValues)) :
    n = m ∧ (Absorbs empty u ∨ ∃ value ∈ values, Absorbs value u) := by
  obtain ⟨v, rfl⟩ := h.asValues
  obtain ⟨same, own⟩ := absorbs_array.1 h
  refine ⟨same, ?_⟩
  by_cases nothing : v.kind = .empty
  · rw [eq_empty_of_kind nothing] at own
    exact .inl own
  · refine .inr ⟨v, ?_, own⟩
    rw [asValues, if_neg nothing]
    exact List.mem_singleton_self v

theorem persistent_array {name : String} {u : Shape} (tidy : (array name u.asValues).Tidy)
    (below : Persistent u) : Persistent (array name u.asValues) := by
  apply persistent_of_unites (y := array name u.asValues) tidy.wellFormed rfl
  intro a b t ta tb unites kind absorbed
  cases unites with
  | emptyLeft => exact absorbed.elim (absorbs_of_empty · _) id
  | emptyRight => exact absorbed.elim id (absorbs_of_empty · _)
  | @array n left right element folded =>
    have inPool : ∀ value ∈ left ++ right, value.Tidy :=
      List.forall_mem_append.2 ⟨tidy_array.1 ta, tidy_array.1 tb⟩
    -- The elements of both arrays are merged, so it does not matter which array it was.
    have stays {part : List Shape} (within : part ⊆ left ++ right)
        (h : Absorbs (array n part) (array name u.asValues)) :
        Absorbs (array n element.asValues) (array name u.asValues) := by
      obtain ⟨same, own⟩ := absorbs_value h
      have seen : Absorbs empty u ∨ ∃ value ∈ left ++ right, Absorbs value u :=
        own.imp_right fun ⟨value, inside, absorbs⟩ => ⟨value, within inside, absorbs⟩
      exact absorbs_array.2 ⟨same, below.mergeOnto inPool tidy_empty seen folded⟩
    exact absorbed.elim (stays (List.subset_append_left left right))
      (stays (List.subset_append_right left right))
  | _ => cases kind

theorem persistent_leaf (leaf : x.isLeaf = true) : Persistent x := by
  have wx : x.WellFormed := (everywhere_leaf leaf).2 <| by
    cases x with
    | optional => cases leaf
    | _ => trivial
  cases x with
  | optional | object | array => cases leaf
  | empty => exact persistent_empty
  | absent => exact persistent_of_unites wx rfl fun _ _ t _ _ _ _ _ => merge_empty t
  | _ =>
    apply persistent_of_unites wx rfl
    intro a b t _ _ unites kind
    exact unites.absorbs_leaf rfl kind

/-- In a condensed shape no array has elements that would have to meet first. -/
theorem persistent (tidy : x.Tidy) (condensed : x.Condensed) : Persistent x := by
  induction x with
  | optional inner ih =>
    obtain ⟨⟨_, single⟩, wi⟩ := wellFormed_optional.1 tidy.wellFormed
    have own := ih ⟨wi, distinct_optional.1 tidy.distinct⟩ (condensed_optional.1 condensed)
    have bare : (optional inner).bare = inner :=
      bare_of_not_isOptional (decide_eq_false single)
    apply persistent_of_unites tidy.wellFormed bare
    intro a b t ta tb unites _
    exact own a b t ta tb (merge_of_unites unites)
  | object name fields ih =>
    have all := (tidy_object.1 tidy).2
    rw [condensed_object] at condensed
    apply persistent_object tidy
    intro key
    exact entry_of_forall (persistent_leaf rfl) fun field member =>
      ih field member (all field member) (condensed field member)
  | array name values ih =>
    obtain ⟨single, below⟩ := condensed_array.1 condensed
    obtain ⟨u, rfl⟩ := singleValue_iff.1 single
    apply persistent_array tidy
    exact forall_asValues persistent_empty fun value member =>
      ih value member (tidy_array.1 tidy value member) (below value member)
  | _ => exact persistent_leaf rfl

theorem absorbs_self (tidy : t.Tidy) (condensed : t.Condensed) : Absorbs t t := by
  induction t with
  | empty => exact merge_empty empty
  | absent => exact merge_absent wellFormed_absent
  | optional inner ih =>
    obtain ⟨_, wi⟩ := wellFormed_optional.1 tidy.wellFormed
    have own := ih ⟨wi, distinct_optional.1 tidy.distinct⟩ (condensed_optional.1 condensed)
    exact (absorbs_iff tidy.wellFormed tidy.wellFormed).2 ⟨id, ((absorbs_iff wi wi).1 own).2⟩
  | bool sample => exact absorbs_bool.2 id
  | number kind => exact absorbs_number.2 id
  | text sample => exact absorbs_text.2 id
  | object name fields ih =>
    have all := (tidy_object.1 tidy).2
    rw [condensed_object] at condensed
    refine (absorbs_object tidy tidy).2 ⟨rfl, fun _ known => known, fun key => ?_⟩
    exact entry_of_forall (p := fun t => Absorbs t t) (merge_absent wellFormed_absent)
      fun field member => ih field member (all field member) (condensed field member)
  | array name values ih =>
    obtain ⟨single, below⟩ := condensed_array.1 condensed
    obtain ⟨u, rfl⟩ := singleValue_iff.1 single
    refine absorbs_array.2 ⟨rfl, ?_⟩
    exact forall_asValues (p := fun t => Absorbs t t) (merge_empty empty) fun value member =>
      ih value member (tidy_array.1 tidy value member) (below value member)
  | url literal => exact url_merge_url literal literal
  | date format => exact (date_merge_date format format).trans (if_pos rfl)

end

/-! Samples. -/

/-- What samples reduce to absorbs each of them, if their arrays are condensed. Fields are a map,
so keys are distinct. -/
theorem reduced_absorbs_samples {samples : List Shape}
    (wellFormed : ∀ sample ∈ samples, sample.WellFormed)
    (distinct : ∀ sample ∈ samples, sample.Distinct)
    (condensed : ∀ sample ∈ samples, sample.Condensed) {t : Shape} (ok : reduce samples = .ok t) :
    ∀ sample ∈ samples, t.merge sample = .ok t := by
  have all : ∀ sample ∈ samples, sample.Tidy := fun sample member =>
    ⟨wellFormed sample member, distinct sample member⟩
  intro sample member
  have persists := persistent (all sample member) (condensed sample member)
  have itself := absorbs_self (all sample member) (condensed sample member)
  exact persists.mergeOnto all tidy_empty (.inr ⟨sample, member, itself⟩) (reduce_eq_ok.1 ok)

/-- Two objects, of which the second one is optional, so that its literal and its keys go first. -/
theorem reduced_absorbs_samples_pets :
    let pet := object "Pet" [("name", text "rex"), ("tags", array "Tags" [text ""])]
    let other := optional (object "Pet" [("age", number .int), ("name", text "tom")])
    (∀ sample ∈ [pet, other], sample.WellFormed ∧ sample.Distinct ∧ sample.Condensed) ∧
      ∃ fields, reduce [pet, other] = .ok (optional (object "Pet" fields)) ∧
        fields.lookup "name" = some (text "tom") ∧
        (optional (object "Pet" fields)).merge pet = .ok (optional (object "Pet" fields)) := by
  intro pet other
  have each : ∀ sample ∈ [pet, other],
      sample.WellFormed ∧ sample.Distinct ∧ sample.Condensed := by decide
  have ok : reduce [pet, other] = .ok (optional (object "Pet" [("age", optional (number .int)),
      ("name", text "tom"), ("tags", optional (array "Tags" [text ""]))])) := by
    simp (disch := decide) [pet, other, reduce_eq_ok, mergeOnto_cons, Except.bind, Except.map,
      merge_optional_of_seen, orAbsent, object_merge_object, mergeFields_cons,
      Members.lookup_cons, text_merge_text, fieldsOnlyIn]
  refine ⟨each, _, ok, rfl, ?_⟩
  exact reduced_absorbs_samples (fun sample member => (each sample member).1)
    (fun sample member => (each sample member).2.1) (fun sample member => (each sample member).2.2)
    ok pet List.mem_cons_self

end Shape

end ShapeInference
