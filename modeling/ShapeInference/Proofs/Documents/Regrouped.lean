import ShapeInference.Proofs.Documents.Finished

/-! Uniform documents in groups.

What two groups of uniform documents are merged and refined to merges to what all of them give, and
groups with the same documents give the same if the same literals and keys come first. Arrays that
stand alone are refined element by element, so both laws depend on the same law for elements. All of
them are proved together, for all documents below a size.
-/

set_option autoImplicit false

namespace ShapeInference.Shape

open Json (Descent Interchangeable SameFirst Steady Uniform column elements firstText hasNull
  hasNull_append hasNull_iff keyOrder mem_present present present_append present_eq_self)
open Literal (promoted)

/-- What the results of two groups merge to. -/
def united (r : Refinement) (n name : String) (front back : List Json) : Except MergeError Shape :=
  (finished r n name front).bind fun a => (finished r n name back).bind fun b => a.merge b

/-- Uniform documents below a size. Nulls, which also stand for missing members, do not count. -/
structure Suited (r : Refinement) (size : Nat) (vs : List Json) : Prop where
  distinct : ∀ v ∈ vs, v.Distinct
  uniform : Uniform r vs
  small : ∀ v ∈ vs, v ≠ .null → sizeOf v < size

section
variable {r : Refinement} {size : Nat} {vs ws front back : List Json} {n name : String}

theorem Suited.mono (h : Suited r size ws) (inside : vs ⊆ ws) : Suited r size vs where
  distinct v member := h.distinct v (inside member)
  uniform := h.uniform.mono inside
  small v member := h.small v (inside member)

theorem Suited.present (h : Suited r size vs) : Suited r size (present vs) :=
  h.mono fun _ inside => (mem_present.1 inside).1

theorem sizeOf_element_lt {v e : Json} (inside : e ∈ v.elements) : sizeOf e < sizeOf v := by
  cases v with
  | array es =>
    have below := List.sizeOf_lt_of_mem (show e ∈ es from inside)
    simp only [Json.array.sizeOf_spec]
    omega
  | _ => cases inside

theorem sizeOf_member_lt {v w : Json} {key : String} (found : v.member key = some w) :
    sizeOf w < sizeOf v := by
  cases v with
  | object members =>
    have below := List.sizeOf_lt_of_mem (Members.mem_of_lookup found)
    simp only [Prod.mk.sizeOf_spec] at below
    simp only [Json.object.sizeOf_spec]
    omega
  | _ => cases found

theorem Suited.below (h : Suited r (size + 1) vs) (step : Descent) :
    Suited r size (step.below vs) where
  distinct := by
    cases step with
    | member key => exact Json.distinct_column h.distinct
    | element => exact Json.distinct_elements h.distinct
  uniform := h.uniform.below step
  small v inside seen := by
    cases step with
    | member key =>
      obtain ⟨w, known, rfl⟩ := List.mem_map.1 inside
      cases found : w.member key with
      | none =>
        rw [found] at seen
        exact absurd rfl seen
      | some u =>
        have bound := h.small w (mem_present.1 known).1 (mem_present.1 known).2
        have less := sizeOf_member_lt found
        rw [Option.getD_some]
        omega
    | element =>
      obtain ⟨w, known, own⟩ := List.mem_flatMap.1 inside
      have bound := h.small w known (by rintro rfl; cases own)
      have less := sizeOf_element_lt own
      omega

theorem Suited.exists_succ (h : Suited r size vs) {v : Json} (inside : v ∈ vs) (seen : v ≠ .null) :
    ∃ less, size = less + 1 :=
  Nat.exists_eq_add_one.2 (Nat.zero_lt_of_lt (h.small v inside seen))

structure Laws (r : Refinement) (size : Nat) : Prop where
  -- Elements may be refined before they are merged.
  each {es : List Json} : Suited r size es →
    (∀ front e back, es = front ++ e :: back → Steady front [e]) → ∀ n name : String,
    Same ((r.values name (seeds n es)).outcome.bind reduce) (finished r n name es)
  -- The same documents count, and what comes first among them.
  congr {vs ws : List Json} : Suited r size vs → Suited r size ws →
    (∀ v, v ∈ vs ↔ v ∈ ws) → SameFirst vs ws → ∀ n name : String,
    Same (finished r n name vs) (finished r n name ws)
  -- Groups may be refined before they meet.
  append {front back : List Json} : Suited r size (front ++ back) → Steady front back →
    ∀ n name : String, Same (united r n name front back) (finished r n name (front ++ back))

/-! One size more, without nulls. -/

theorem Laws.arrays (laws : Laws r size) (h : Suited r (size + 1) vs) (some : vs ≠ [])
    (arrays : ∀ v ∈ vs, v.kind = .array) (n name : String) : Same (finished r n name vs)
      ((finished r n (r.singular name) (vs.flatMap elements)).map fun u =>
        array (typeName name) u.asValues) := by
  refine finished_arrays some arrays fun es single => ?_
  have pool : es = Descent.element.below vs := by
    rw [single, Descent.below, List.flatMap_singleton, elements]
  have suited : Suited r size es := pool ▸ h.below .element
  refine laws.each suited (fun front e back split => ?_) n _
  exact (h.uniform.orderly (.array es) (single ▸ List.mem_singleton_self _)).steady split

theorem below_congr (same : ∀ v, v ∈ vs ↔ v ∈ ws) (step : Descent) (v : Json) :
    v ∈ step.below vs ↔ v ∈ step.below ws :=
  ⟨fun inside => step.below_subset (fun w => (same w).1) inside,
    fun inside => step.below_subset (fun w => (same w).2) inside⟩

theorem congr_stable {kind : Kind} (stable : kind ∈ [.bool, .number]) (some : vs ≠ [])
    (kinds : ∀ v ∈ vs, v.kind = kind) (same : ∀ v, v ∈ vs ↔ v ∈ ws) :
    finished r n name vs = finished r n name ws := by
  have other : kind ≠ .optional := by
    rintro rfl
    simp at stable
  have kinds' : ∀ v ∈ ws, v.kind = kind := fun v inside => kinds v ((same v).2 inside)
  obtain ⟨v, inside⟩ := List.exists_mem_of_ne_nil vs some
  obtain ⟨t, reduced, kind, ok⟩ := finished_stable r n name stable some kinds
  obtain ⟨t', reduced', kind', ok'⟩ :=
    finished_stable r n name stable (List.ne_nil_of_mem ((same v).1 inside)) kinds'
  rw [ok, ok']
  have seenLeft := Json.ne_null_of_kind other kinds
  have seenRight := Json.ne_null_of_kind other kinds'
  cases t with
  | bool x =>
    cases t' with
    | bool y =>
      have equal : x = y := by
        rw [Bool.eq_iff_iff, reduced_bool seenLeft reduced, reduced_bool seenRight reduced', same]
      rw [equal]
    | _ => cases kind.trans kind'.symm
  | number x =>
    cases t' with
    | number y =>
      have equal : x = .double ↔ y = .double := by
        rw [reduced_number seenLeft reduced, reduced_number seenRight reduced']
        exact exists_congr fun _ => same _
      cases x <;> cases y <;> simp_all
    | _ => cases kind.trans kind'.symm
  | _ =>
    rw [← kind] at stable
    simp [Shape.kind] at stable

theorem one_kind (seen : ∀ v ∈ vs, v ≠ .null) {u : Shape} (ok : finished r n name vs = .ok u)
    {v w : Json} (first : v ∈ vs) (second : w ∈ vs) : w.kind = v.kind := by
  have kinds := (kind_finished seen ok).2
  rw [← kinds w second, kinds v first]

theorem congr_plain (below : ∀ less < size, Laws r less) (hv : Suited r size vs)
    (hw : Suited r size ws) (seen : ∀ v ∈ vs, v ≠ .null) (same : ∀ v, v ∈ vs ↔ v ∈ ws)
    (first : SameFirst vs ws) (n name : String) :
    Same (finished r n name vs) (finished r n name ws) := by
  have seen' : ∀ v ∈ ws, v ≠ .null := fun v inside => seen v ((same v).2 inside)
  by_cases none : vs = []
  · have none' : ws = [] := List.eq_nil_iff_forall_not_mem.2 fun v inside => by
      rw [← same, none] at inside
      cases inside
    rw [none, none']
    exact .refl _
  obtain ⟨v, inside⟩ := List.exists_mem_of_ne_nil vs none
  obtain ⟨less, rfl⟩ := hv.exists_succ inside (seen v inside)
  have laws := below less (Nat.lt_succ_self less)
  have some : ws ≠ [] := List.ne_nil_of_mem ((same v).1 inside)
  -- If either succeeds, the documents are of one kind.
  refine Same.of_success fun u ok => ?_
  have kinds : ∀ w ∈ vs, w.kind = v.kind := by
    intro w member
    rcases ok with ok | ok
    · exact one_kind seen ok inside member
    · exact one_kind seen' ok ((same v).1 inside) ((same w).1 member)
  have kinds' : ∀ w ∈ ws, w.kind = v.kind := fun w member => kinds w ((same w).2 member)
  cases v with
  | null => exact absurd rfl (seen _ inside)
  | bool => exact congr_stable (by simp [Json.kind]) none kinds same ▸ .refl _
  | number => exact congr_stable (by simp [Json.kind]) none kinds same ▸ .refl _
  | string =>
    have text := (first []).1
    rw [Json.along, Json.along] at text
    rw [finished_texts none kinds, finished_texts some kinds', text]
    exact .refl _
  | array =>
    have inner := laws.congr (hv.below .element) (hw.below .element) (below_congr same .element)
      (first.below .element) n (r.singular name)
    exact (laws.arrays hv none kinds n name).trans
      ((inner.map _).trans (laws.arrays hw some kinds' n name).symm)
  | object =>
    have keys := (first []).2
    rw [Json.along, Json.along] at keys
    intro u
    rw [finished_objects none kinds hv.distinct, finished_objects some kinds' hw.distinct, keys]
    refine exists_congr fun fields => and_congr_right fun _ => and_congr_right fun _ =>
      forall_congr' fun key => ?_
    exact laws.congr (hv.below (.member key)) (hw.below (.member key))
      (below_congr same (.member key)) (first.below (.member key)) key key _

theorem congr_next (below : ∀ less < size, Laws r less) (hv : Suited r size vs)
    (hw : Suited r size ws) (same : ∀ v, v ∈ vs ↔ v ∈ ws) (first : SameFirst vs ws)
    (n name : String) : Same (finished r n name vs) (finished r n name ws) := by
  have nulls : hasNull vs = hasNull ws := by
    rw [Bool.eq_iff_iff, hasNull_iff, hasNull_iff, same]
  have plain : Same (finished r n name (present vs)) (finished r n name (present ws)) := by
    refine congr_plain below hv.present hw.present (fun v inside => (mem_present.1 inside).2)
      (fun v => ?_) first.present n name
    rw [mem_present, mem_present, same]
  refine (finished_present hv.uniform n name).trans
    (Same.trans ?_ (finished_present hw.uniform n name).symm)
  rw [nulls]
  exact plain.map _

/-! Two groups. -/

theorem united_eq_ok {u : Shape} : united r n name front back = .ok u ↔
    ∃ a, finished r n name front = .ok a ∧ ∃ b, finished r n name back = .ok b ∧
      a.merge b = .ok u := by
  simp only [united, bind_eq_ok]

/-- Two groups whose results come from others that merge alike. -/
theorem same_united {x y : Except MergeError Shape} {left right whole : Shape → Shape}
    {m : Shape → Shape → Except MergeError Shape}
    (first : Same (finished r n name front) (x.map left))
    (second : Same (finished r n name back) (y.map right))
    (each : ∀ a b, x = .ok a → y = .ok b → (left a).merge (right b) = (m a b).map whole) :
    Same (united r n name front back) ((x.bind fun a => y.bind fun b => m a b).map whole) := by
  refine ((first.bind _).trans (Same.bind_congr fun a _ => second.bind _)).trans ?_
  rw [bind_map, map_bind]
  refine Same.bind_congr fun a known => ?_
  rw [bind_map, map_bind]
  refine Same.bind_congr fun b own => ?_
  exact each a b known own ▸ .refl _

theorem append_stable {kind : Kind} (stable : kind ∈ [.bool, .number]) (someFront : front ≠ [])
    (someBack : back ≠ []) (distinct : ∀ v ∈ front ++ back, v.Distinct)
    (kinds : ∀ v ∈ front ++ back, v.kind = kind) :
    Same (united r n name front back) (finished r n name (front ++ back)) := by
  obtain ⟨inFront, inBack⟩ := List.forall_mem_append.1 kinds
  obtain ⟨distinctFront, distinctBack⟩ := List.forall_mem_append.1 distinct
  have some : front ++ back ≠ [] := List.append_ne_nil_of_left_ne_nil someFront back
  obtain ⟨a, reducedFront, _, left⟩ := finished_stable r n name stable someFront inFront
  obtain ⟨b, reducedBack, _, right⟩ := finished_stable r n name stable someBack inBack
  obtain ⟨t, reduced, kind, whole⟩ := finished_stable r n name stable some kinds
  rw [united, left, right, whole, Except.bind, Except.bind]
  have tidyFront := tidy_seeds n distinctFront
  have tidyBack := tidy_seeds n distinctBack
  rw [seeds_append] at reduced
  obtain ⟨s, u, t', first, second, merged⟩ :=
    (exists_reduce_append tidyFront tidyBack).1 ⟨t, reduced⟩
  cases first.symm.trans reducedFront
  cases second.symm.trans reducedBack
  obtain ⟨s, same, later⟩ := reduce_append_eq_ok.1 reduced
  cases same.symm.trans reducedFront
  have alike : Alike t t' :=
    mergeOnto_alike (Tidy.reduce tidyFront reducedFront) tidyBack later reducedBack merged
  -- Such leaves hold no literal, so alike ones are the same.
  have equal : t = t' := by
    cases alike with
    | empty | absent | bool | number | date => rfl
    | _ =>
      rw [← kind] at stable
      simp [Shape.kind] at stable
  rw [merged, equal]
  exact .refl _

theorem string_firstText_mem_of_texts (some : vs ≠ []) (texts : ∀ v ∈ vs, v.kind = .text) :
    .string (firstText vs) ∈ vs := by
  by_cases nothing : firstText vs = ""
  · obtain ⟨v, inside⟩ := List.exists_mem_of_ne_nil vs some
    have kind := texts v inside
    cases v with
    | string s =>
      rw [nothing, ← Json.eq_empty_of_firstText nothing inside]
      exact inside
    | _ => cases kind
  · exact Json.string_firstText_mem nothing

theorem append_texts (uniform : Uniform r (front ++ back)) (someFront : front ≠ [])
    (someBack : back ≠ []) (texts : ∀ v ∈ front ++ back, v.kind = .text) :
    Same (united r n name front back) (finished r n name (front ++ back)) := by
  obtain ⟨inFront, inBack⟩ := List.forall_mem_append.1 texts
  have some : front ++ back ≠ [] := List.append_ne_nil_of_left_ne_nil someFront back
  obtain ⟨t, ok⟩ := uniform.alike [] (firstText front) (firstText back)
    (List.mem_append_left back (string_firstText_mem_of_texts someFront inFront))
    (List.mem_append_right front (string_firstText_mem_of_texts someBack inBack))
  rw [united, finished_texts someFront inFront, finished_texts someBack inBack,
    finished_texts some texts, Except.bind, Except.bind, ok, Literal.merge_promoted ok,
    Json.firstText_append]
  exact .refl _

theorem merge_array_asValues (n : String) (t u : Shape) :
    (array n t.asValues).merge (array n u.asValues) =
      (t.merge u).map fun v => array n v.asValues := by
  rw [array_merge_array, if_pos rfl, representative_eq, mergeOnto_asValues, mergeOnto_of_asValues]
  cases t.merge u <;> rfl

theorem Laws.append_arrays (laws : Laws r size) (h : Suited r (size + 1) (front ++ back))
    (steady : Steady front back) (someFront : front ≠ []) (someBack : back ≠ [])
    (arrays : ∀ v ∈ front ++ back, v.kind = .array) :
    Same (united r n name front back) (finished r n name (front ++ back)) := by
  obtain ⟨inFront, inBack⟩ := List.forall_mem_append.1 arrays
  have some : front ++ back ≠ [] := List.append_ne_nil_of_left_ne_nil someFront back
  have left := laws.arrays (h.mono (List.subset_append_left front back)) someFront inFront n name
  have right := laws.arrays (h.mono (List.subset_append_right front back)) someBack inBack n name
  have pool := h.below .element
  rw [Descent.below_append] at pool
  have inner := laws.append pool (steady.below .element) n (r.singular name)
  have whole := laws.arrays h some arrays n name
  rw [List.flatMap_append] at whole
  refine (same_united left right fun a b _ _ => ?_).trans ((inner.map _).trans whole.symm)
  exact merge_array_asValues (typeName name) a b

theorem keys_of_merged {left right shared : Fields} (keysFront : Members.keys left = keyOrder front)
    (keysBack : Members.keys right = keyOrder back) (ok : mergeFields left right = .ok shared) :
    Members.keys (shared ++ fieldsOnlyIn left right) = keyOrder (front ++ back) := by
  have once (vs : List Json) : (keyOrder vs).Nodup := nodup_eraseDups _
  have new (key : String) : (left.lookup key).isNone = true ↔ key ∉ keyOrder front := by
    rw [Option.isNone_iff_eq_none, Members.lookup_eq_none, keysFront]
  have whole : keyOrder (front ++ back) =
      (front.flatMap Json.keys ++ back.flatMap Json.keys).eraseDups := by
    rw [keyOrder, List.flatMap_append]
  rw [← eraseDups_of_nodup (nodup_keys_merged ok (keysFront ▸ once front) (keysBack ▸ once back)),
    Members.keys_append, keys_mergeFields ok, keys_fieldsOnlyIn, keysFront, keysBack, whole]
  exact eraseDups_append_filter (eraseDups_of_nodup (once front)) (eraseDups_of_nodup (once back))
    new

section
variable (someFront : front ≠ []) (someBack : back ≠ [])
variable (objects : ∀ v ∈ front ++ back, v.kind = .object)
variable (distinct : ∀ v ∈ front ++ back, v.Distinct)
variable (columns : ∀ key, Same (united r key key (column key front) (column key back))
  (finished r key key (column key (front ++ back))))
include someFront someBack objects distinct columns

theorem finished_of_united {u : Shape} (ok : united r n name front back = .ok u) :
    finished r n name (front ++ back) = .ok u := by
  obtain ⟨inFront, inBack⟩ := List.forall_mem_append.1 objects
  obtain ⟨distinctFront, distinctBack⟩ := List.forall_mem_append.1 distinct
  have some : front ++ back ≠ [] := List.append_ne_nil_of_left_ne_nil someFront back
  obtain ⟨a, left, b, right, merged⟩ := united_eq_ok.1 ok
  have wa := (tidy_finished distinctFront left).wellFormed
  have wb := (tidy_finished distinctBack right).wellFormed
  obtain ⟨fields, rfl, keys, entries⟩ := object_of_finished someFront inFront distinctFront left
  obtain ⟨others, rfl, keys', entries'⟩ := object_of_finished someBack inBack distinctBack right
  cases unites_of_merge rfl rfl merged with
  | object _ shared =>
    refine (finished_objects some objects distinct).2 ⟨_, rfl, ?_, fun key => ?_⟩
    · exact keys_of_merged keys keys' shared
    · have merged := entry_merged (wellFormed_object.1 wa) (wellFormed_object.1 wb) shared key
      exact (columns key _).1 (united_eq_ok.2 ⟨_, entries key, _, entries' key, merged⟩)

theorem exists_united_of_finished {u : Shape} (ok : finished r n name (front ++ back) = .ok u) :
    ∃ t, united r n name front back = .ok t := by
  obtain ⟨inFront, inBack⟩ := List.forall_mem_append.1 objects
  obtain ⟨distinctFront, distinctBack⟩ := List.forall_mem_append.1 distinct
  have some : front ++ back ≠ [] := List.append_ne_nil_of_left_ne_nil someFront back
  obtain ⟨fields, _, _, entries⟩ := object_of_finished some objects distinct ok
  have parts (key : String) : ∃ a, finished r key key (column key front) = .ok a ∧
      ∃ b, finished r key key (column key back) = .ok b ∧ Mergeable a b := by
    obtain ⟨a, left, b, right, merged⟩ := united_eq_ok.1 ((columns key _).2 (entries key))
    exact ⟨a, left, b, right, _, merged⟩
  obtain ⟨a, left⟩ := exists_finished_objects n name someFront inFront distinctFront fun key =>
    (parts key).imp fun _ both => both.1
  obtain ⟨b, right⟩ := exists_finished_objects n name someBack inBack distinctBack fun key => by
    obtain ⟨_, _, b, right, _⟩ := parts key
    exact ⟨b, right⟩
  have ta := tidy_finished distinctFront left
  have tb := tidy_finished distinctBack right
  obtain ⟨fields, rfl, _, entries⟩ := object_of_finished someFront inFront distinctFront left
  obtain ⟨others, rfl, _, entries'⟩ := object_of_finished someBack inBack distinctBack right
  -- Two objects merge if their entries do, under every key.
  have fits : Mergeable (object (typeName name) fields) (object (typeName name) others) := by
    refine (mergeable_object ta tb).2 ⟨rfl, fun key => ?_⟩
    obtain ⟨a, first, b, second, merge⟩ := parts key
    cases first.symm.trans (entries key)
    cases second.symm.trans (entries' key)
    exact merge
  obtain ⟨t, merged⟩ := fits
  exact ⟨t, united_eq_ok.2 ⟨_, left, _, right, merged⟩⟩

end

theorem Laws.append_objects (laws : Laws r size) (h : Suited r (size + 1) (front ++ back))
    (steady : Steady front back) (someFront : front ≠ []) (someBack : back ≠ [])
    (objects : ∀ v ∈ front ++ back, v.kind = .object) :
    Same (united r n name front back) (finished r n name (front ++ back)) := by
  have columns (key : String) : Same (united r key key (column key front) (column key back))
      (finished r key key (column key (front ++ back))) := by
    have suited := h.below (.member key)
    rw [Descent.below_append] at suited
    rw [Json.column_append]
    exact laws.append suited (steady.below (.member key)) key key
  exact Same.of_exists
    (fun _ ok => finished_of_united someFront someBack objects h.distinct columns ok)
    (fun _ ok => exists_united_of_finished someFront someBack objects h.distinct columns ok)

theorem same_bind_ok {ε α : Type} (x : Except ε α) : Same (x.bind fun a => .ok a) x := by
  cases x <;> exact .refl _

theorem kinds_of_merged {a b t : Shape} (seen : ∀ v ∈ front ++ back, v ≠ .null)
    (left : finished r n name front = .ok a) (right : finished r n name back = .ok b)
    (merged : a.merge b = .ok t) {v w : Json} (inFront : v ∈ front) (inBack : w ∈ back) :
    v.kind = w.kind := by
  obtain ⟨seenFront, seenBack⟩ := List.forall_mem_append.1 seen
  obtain ⟨plainLeft, kindsLeft⟩ := kind_finished seenFront left
  obtain ⟨plainRight, kindsRight⟩ := kind_finished seenBack right
  have some {s : Shape} {v : Json} (kind : s.kind.raw = v.kind) : s.kind ≠ .empty := by
    intro nothing
    rw [nothing] at kind
    exact Json.kind_ne_empty v kind.symm
  have same := Mergeable.kind_eq ⟨t, merged⟩ plainLeft plainRight (some (kindsLeft v inFront))
    (some (kindsRight w inBack))
  rw [← kindsLeft v inFront, same, kindsRight w inBack]

theorem append_plain (below : ∀ less < size, Laws r less) (h : Suited r size (front ++ back))
    (seen : ∀ v ∈ front ++ back, v ≠ .null) (steady : Steady front back) (n name : String) :
    Same (united r n name front back) (finished r n name (front ++ back)) := by
  by_cases noFront : front = []
  · subst noFront
    change Same ((finished r n name back).bind fun b => empty.merge b) (finished r n name back)
    simp only [empty_merge]
    exact same_bind_ok _
  by_cases noBack : back = []
  · subst noBack
    rw [List.append_nil]
    change Same ((finished r n name front).bind fun a => a.merge empty) (finished r n name front)
    simp only [merge_empty]
    exact same_bind_ok _
  obtain ⟨v, inside⟩ := List.exists_mem_of_ne_nil front noFront
  have member : v ∈ front ++ back := List.mem_append_left back inside
  obtain ⟨less, rfl⟩ := h.exists_succ member (seen v member)
  have laws := below less (Nat.lt_succ_self less)
  obtain ⟨seenFront, seenBack⟩ := List.forall_mem_append.1 seen
  refine Same.of_success fun u ok => ?_
  have kinds : ∀ w ∈ front ++ back, w.kind = v.kind := by
    rcases ok with ok | ok
    · obtain ⟨a, left, b, right, merged⟩ := united_eq_ok.1 ok
      obtain ⟨first, last⟩ := List.exists_mem_of_ne_nil back noBack
      have across := fun {v w} => kinds_of_merged (v := v) (w := w) seen left right merged
      refine List.forall_mem_append.2 ⟨fun w known => ?_, fun w known => (across inside known).symm⟩
      exact (across known last).trans (across inside last).symm
    · exact fun w known => one_kind seen ok member known
  cases v with
  | null => exact absurd rfl (seen _ member)
  | bool => exact append_stable (by simp [Json.kind]) noFront noBack h.distinct kinds
  | number => exact append_stable (by simp [Json.kind]) noFront noBack h.distinct kinds
  | string => exact append_texts h.uniform noFront noBack kinds
  | array => exact laws.append_arrays h steady noFront noBack kinds
  | object => exact laws.append_objects h steady noFront noBack kinds

/-- If nothing depends on which group comes first, the one behind may be merged first. -/
theorem append_turned (below : ∀ less < size, Laws r less) (h : Suited r size (front ++ back))
    (seen : ∀ v ∈ front ++ back, v ≠ .null) (free : Interchangeable front back) (n name : String) :
    Same (united r n name back front) (finished r n name (front ++ back)) := by
  have turn (v : Json) : v ∈ back ++ front ↔ v ∈ front ++ back :=
    List.mem_append.trans (or_comm.trans List.mem_append.symm)
  have turned : Suited r size (back ++ front) := h.mono fun v inside => (turn v).1 inside
  have seen' : ∀ v ∈ back ++ front, v ≠ .null := fun v inside => seen v ((turn v).1 inside)
  have swapped : Interchangeable back front := SameFirst.symm free
  exact (append_plain below turned seen' swapped.steady n name).trans
    (congr_plain below turned h seen' turn swapped n name)

/-! Nulls in the groups. -/

theorem merge_orAbsentIf {a b : Shape} (wa : a.WellFormed) (wb : b.WellFormed)
    (plainLeft : a.isOptional = false) (plainRight : b.isOptional = false) {left right : Bool}
    (ordered : right = true → left = true) : (a.orAbsentIf left).merge (b.orAbsentIf right) =
      (a.merge b).map (orAbsentIf (left || right)) := by
  cases left with
  | false =>
    cases right with
    | false =>
      simp only [orAbsentIf, Bool.or_false, Bool.false_eq_true, if_false]
      cases a.merge b <;> rfl
    | true => cases ordered rfl
  | true =>
    have opt : (a.orAbsentIf true).isOptional = true := isOptional_orAbsent a
    have outer : (a.orAbsentIf true).WellFormed := wa.orAbsent
    have whole : (b.orAbsentIf right).WellFormed := by
      cases right with
      | false => exact wb
      | true => exact wb.orAbsent
    rw [merge_of_isOptional_left outer whole opt, bare_orAbsentIf, bare_orAbsentIf,
      bare_of_not_isOptional plainLeft, bare_of_not_isOptional plainRight]
    rfl

theorem merge_orAbsent {a b : Shape} (wa : a.WellFormed) (wb : b.WellFormed)
    (plainLeft : a.isOptional = false) (plainRight : b.isOptional = false) :
    a.merge b.orAbsent = (b.merge a).map orAbsent := by
  rw [merge_of_isOptional_right wa wb.orAbsent plainLeft (isOptional_orAbsent b), bare_orAbsent,
    bare_of_not_isOptional plainRight]

theorem append_next (below : ∀ less < size, Laws r less) (h : Suited r size (front ++ back))
    (steady : Steady front back) (n name : String) :
    Same (united r n name front back) (finished r n name (front ++ back)) := by
  have suitedFront := h.mono (List.subset_append_left front back)
  have suitedBack := h.mono (List.subset_append_right front back)
  have seen (vs : List Json) : ∀ v ∈ present vs, v ≠ .null := fun v inside =>
    (mem_present.1 inside).2
  have suited : Suited r size (present front ++ present back) := by
    rw [← present_append]
    exact h.present
  have all : ∀ v ∈ present front ++ present back, v ≠ .null := by
    rw [← present_append]
    exact seen _
  have left := finished_present suitedFront.uniform n name
  have right := finished_present suitedBack.uniform n name
  have whole := finished_present h.uniform n name
  rw [present_append, hasNull_append] at whole
  have tidy {vs : List Json} (suited : Suited r size vs) {u : Shape}
      (ok : finished r n name (present vs) = .ok u) : u.WellFormed ∧ u.isOptional = false :=
    ⟨(tidy_finished suited.present.distinct ok).wellFormed, (kind_finished (seen vs) ok).1⟩
  -- A merge begins with its optional side if there is only one, so the order changes only if nulls
  -- come with the back alone.
  by_cases ordered : hasNull back = true → hasNull front = true
  · have inner := append_plain below suited all steady.present n name
    refine (same_united left right fun a b first second => ?_).trans
      ((inner.map _).trans whole.symm)
    obtain ⟨wa, plainLeft⟩ := tidy suitedFront first
    obtain ⟨wb, plainRight⟩ := tidy suitedBack second
    exact merge_orAbsentIf wa wb plainLeft plainRight ordered
  · obtain ⟨nullBack, noNull⟩ := Classical.not_imp.1 ordered
    rw [Bool.not_eq_true] at noNull
    have free : Interchangeable front back := by
      refine (steady [] (hasNull_iff.1 nullBack)).resolve_left fun null => ?_
      exact Bool.false_ne_true (noNull.symm.trans (hasNull_iff.2 null))
    have inner := append_turned below suited all free.present n name
    rw [noNull] at left
    rw [nullBack] at right
    rw [noNull, nullBack] at whole
    have turning : Same (united r n name front back)
        ((united r n name (present back) (present front)).map orAbsent) := by
      refine (same_united left right (m := fun a b => b.merge a) fun a b first second => ?_).trans
        ((Same.bind_comm _ _ _).map _)
      obtain ⟨wa, plainLeft⟩ := tidy suitedFront first
      obtain ⟨wb, plainRight⟩ := tidy suitedBack second
      exact merge_orAbsent wa wb plainLeft plainRight
    exact turning.trans ((inner.map _).trans whole.symm)

/-! Elements, refined one by one. -/

theorem outcome_values_concat (r : Refinement) (name : String) (values : List Shape) (t : Shape) :
    (r.values name (values ++ [t])).outcome = (r.values name values).outcome.bind fun images =>
      (t.refine r name).map fun u => images ++ [u] := by
  induction values with
  | nil =>
    rw [List.nil_append, Refinement.outcome_values_cons, Refinement.outcome_values_nil]
    rfl
  | cons first rest ih =>
    rw [List.cons_append, Refinement.outcome_values_cons, Refinement.outcome_values_cons, ih]
    cases first.refine r name with
    | error e => rfl
    | ok u =>
      cases (r.values name rest).outcome with
      | error e => rfl
      | ok images => cases t.refine r name <;> rfl

theorem same_values_concat (r : Refinement) (name : String) (values : List Shape) (t : Shape) :
    Same ((r.values name (values ++ [t])).outcome.bind reduce)
      (((r.values name values).outcome.bind reduce).bind fun a =>
        (t.refine r name).bind fun b => a.merge b) := by
  intro u
  rw [outcome_values_concat]
  simp only [bind_eq_ok, map_eq_ok]
  constructor
  · rintro ⟨_, ⟨images, each, b, refined, rfl⟩, reduced⟩
    obtain ⟨a, front, merged⟩ := reduce_concat_eq_ok.1 reduced
    exact ⟨a, ⟨images, each, front⟩, b, refined, merged⟩
  · rintro ⟨a, ⟨images, each, front⟩, b, refined, merged⟩
    exact ⟨_, ⟨images, each, b, refined, rfl⟩, reduce_concat_eq_ok.2 ⟨a, front, merged⟩⟩

theorem each_next (below : ∀ less < size, Laws r less) {es : List Json} (h : Suited r size es)
    (steady : ∀ front e back, es = front ++ e :: back → Steady front [e]) (n name : String) :
    Same ((r.values name (seeds n es)).outcome.bind reduce) (finished r n name es) := by
  induction es using List.reverseRecOn with
  | nil => exact .refl _
  | append_singleton es e ih =>
    have inFront := ih (h.mono (List.subset_append_left es [e])) fun front e' back split =>
      steady front e' (back ++ [e]) (by rw [split, List.append_assoc, List.cons_append])
    have last : finished r n name [e] = (ofJson n e).refine r name := by
      rw [finished, seeds, List.map_singleton, reduce_singleton]
      rfl
    rw [seeds_append]
    refine (same_values_concat r name (seeds n es) (ofJson n e)).trans ?_
    refine (inFront.bind _).trans ?_
    rw [← last]
    exact append_next below h (steady es e [] rfl) n name

theorem laws (r : Refinement) (size : Nat) : Laws r size := by
  induction size using Nat.strongRecOn with
  | ind size below => exact ⟨each_next below, congr_next below, append_next below⟩

/-- One more copy of uniform documents changes nothing. -/
theorem finished_concat (distinct : ∀ v ∈ vs, v.Distinct) (uniform : Uniform r vs) {v : Json}
    (inside : v ∈ vs) (n name : String) :
    Same (finished r n name (vs ++ [v])) (finished r n name vs) := by
  have copy : [v] ⊆ vs := List.cons_subset.2 ⟨inside, List.nil_subset vs⟩
  have suited : Suited r (sizeOf vs) vs :=
    ⟨distinct, uniform, fun _ member _ => List.sizeOf_lt_of_mem member⟩
  have again : vs ++ [v] ⊆ vs := List.append_subset.2 ⟨List.Subset.refl vs, copy⟩
  refine (laws r (sizeOf vs)).congr (suited.mono again) suited (fun w => ?_)
    (Json.sameFirst_of_subset copy) n name
  exact ⟨fun known => again known, fun known => List.mem_append_left [v] known⟩

end

end ShapeInference.Shape
