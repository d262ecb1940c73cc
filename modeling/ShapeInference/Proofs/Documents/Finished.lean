import ShapeInference.Proofs.Documents.Filled
import ShapeInference.Proofs.Documents.Uniform

/-! What uniform documents are refined to after they are merged.

Nulls put one optional around it. Objects give an object whose fields come from their columns, in
the order of the keys, and arrays give an array whose element comes from all their elements. Texts
give the leaf that the first of them becomes, and booleans and numbers stay what they are.
-/

set_option autoImplicit false

namespace ShapeInference

/-- What a node was before it was refined. -/
def Kind.raw : Kind → Kind
  | .url => .text
  | .date => .text
  | kind => kind

namespace Json

def hasNull (vs : List Json) : Bool := vs.any isNull

theorem hasNull_iff {vs : List Json} : hasNull vs = true ↔ .null ∈ vs := by
  simp [hasNull]

theorem present_eq_self {vs : List Json} (seen : ∀ v ∈ vs, v ≠ .null) : present vs = vs := by
  refine List.filter_eq_self.2 fun v inside => ?_
  rw [Bool.not_eq_true', ← Bool.not_eq_true, isNull_iff]
  exact seen v inside

theorem ne_null_of_kind {vs : List Json} {kind : Kind} (other : kind ≠ .optional)
    (kinds : ∀ v ∈ vs, v.kind = kind) : ∀ v ∈ vs, v ≠ .null := by
  rintro v inside rfl
  exact other (kinds _ inside).symm

theorem hasNull_append (vs ws : List Json) : hasNull (vs ++ ws) = (hasNull vs || hasNull ws) :=
  List.any_append

end Json

namespace Literal

/-- Leaves that merge keep what the text is promoted to that is kept. -/
theorem merge_promoted {x y : String} {t : Shape} (ok : (promoted x).merge (promoted y) = .ok t) :
    t = promoted (if x = "" then y else x) := by
  have plain (s : String) : (promoted s).isOptional = false := by
    unfold Shape.isOptional
    rcases kind_promoted s with kind | kind | kind <;> rw [kind] <;> rfl
  have unites := Shape.unites_of_merge (plain x) (plain y) ok
  have kind := kind_promoted x
  have kind' := kind_promoted y
  generalize left : promoted x = a at unites kind
  generalize right : promoted y = b at unites kind'
  -- The empty text is neither a URL nor a date.
  have some (notText : a.kind ≠ .text) : x ≠ "" := by
    rintro rfl
    rw [promoted_empty] at left
    exact notText (left ▸ rfl)
  cases unites with
  | text z w =>
    rw [eq_of_promoted_eq_text left, eq_of_promoted_eq_text right] at *
    split
    · next nothing => rw [right]
    · exact left.symm
  | url z w => rw [if_neg (some (by simp [Shape.kind])), left]
  | date format => rw [if_neg (some (by simp [Shape.kind])), left]
  | _ => simp [Shape.kind] at kind kind'

end Literal

namespace Members

theorem ext_lookup {α : Type} {left right : Members α} (keys : left.keys = right.keys)
    (once : left.keys.Nodup) (same : ∀ key ∈ left.keys, left.lookup key = right.lookup key) :
    left = right := by
  induction left generalizing right with
  | nil =>
    cases right with
    | nil => rfl
    | cons => cases keys
  | cons member rest ih =>
    obtain ⟨key, a⟩ := member
    cases right with
    | nil => cases keys
    | cons other others =>
      obtain ⟨key', b⟩ := other
      obtain ⟨rfl, tail⟩ := List.cons_eq_cons.1 keys
      obtain ⟨new, onceTail⟩ := List.nodup_cons.1 once
      have head := same key List.mem_cons_self
      rw [lookup_cons, lookup_cons, if_pos rfl, if_pos rfl] at head
      have below := ih tail onceTail fun name inside => by
        have different : name ≠ key := by
          rintro rfl
          exact new inside
        have later := same name (List.mem_cons_of_mem _ inside)
        rwa [lookup_cons, lookup_cons, if_neg different, if_neg different] at later
      rw [Option.some.inj head, below]

end Members

namespace Shape

open Json (Still Uniform column elements firstText hasNull hasNull_iff keyOrder mem_present present
  present_append present_singleton)
open Literal (promoted)

/-- What documents are refined to after they are merged. -/
def finished (r : Refinement) (n name : String) (vs : List Json) : Except MergeError Shape :=
  (reduce (seeds n vs)).bind fun t => t.refine r name

section
variable {r : Refinement} {vs ws : List Json} {n name : String} {t u : Shape}

theorem finished_eq_ok : finished r n name vs = .ok u ↔
    ∃ t, reduce (seeds n vs) = .ok t ∧ t.refine r name = .ok u := bind_eq_ok

theorem tidy_finished (distinct : ∀ v ∈ vs, v.Distinct) (ok : finished r n name vs = .ok u) :
    u.Tidy := by
  obtain ⟨t, reduced, refined⟩ := finished_eq_ok.1 ok
  have tidy := Tidy.reduce (tidy_seeds n distinct) reduced
  exact ⟨(Refinement.stable_wellFormed.refine r name tidy.wellFormed).of_ok refined,
    (Refinement.yields_refine_distinct r name tidy.distinct).of_ok refined⟩

theorem kind_finished (seen : ∀ v ∈ vs, v ≠ .null) (ok : finished r n name vs = .ok u) :
    u.isOptional = false ∧ ∀ v ∈ vs, u.kind.raw = v.kind := by
  obtain ⟨t, reduced, refined⟩ := finished_eq_ok.1 ok
  obtain ⟨plain, _, kinds⟩ := kind_reduced seen reduced
  have refines := Refinement.refines_of_refine plain refined
  refine ⟨refines.isOptional_eq_false, fun v inside => ?_⟩
  rw [← kinds v inside]
  have same := kinds v inside
  cases refines with
  | text sample => rcases Literal.kind_promoted sample with kind | kind | kind <;> rw [kind] <;> rfl
  | url | date => cases v <;> cases same
  | _ => rfl

/-! Nulls. -/

theorem exists_reduce_of_present (ok : reduce (seeds n (present vs)) = .ok t) :
    ∃ s, reduce (seeds n vs) = .ok s := by
  induction vs using List.reverseRecOn generalizing t with
  | nil => exact ⟨t, ok⟩
  | append_singleton vs v ih =>
    by_cases none : v = .null
    · subst none
      have dropped : present [.null] = [] := rfl
      rw [present_append, dropped, List.append_nil] at ok
      obtain ⟨s, before⟩ := ih ok
      exact ⟨s.orAbsent, reduce_seeds_concat.2 ⟨s, before,
        merge_absent (wellFormed_reduce (wellFormed_seeds n vs) before)⟩⟩
    · rw [present_append, present_singleton none] at ok
      obtain ⟨u, inner, merged⟩ := reduce_seeds_concat.1 ok
      obtain ⟨s, before⟩ := ih inner
      have ws := wellFormed_reduce (wellFormed_seeds n vs) before
      have wv := wellFormed_ofJson n v
      cases inner.symm.trans (reduce_present before).1
      cases opt : s.isOptional with
      | false =>
        rw [bare_of_not_isOptional opt] at merged
        exact ⟨t, reduce_seeds_concat.2 ⟨s, before, merged⟩⟩
      | true =>
        refine ⟨t.orAbsent, reduce_seeds_concat.2 ⟨s, before, ?_⟩⟩
        rw [merge_of_isOptional_left ws wv opt,
          bare_of_not_isOptional (isOptional_ofJson_of_ne n none), merged]
        rfl

theorem same_reduce_present (n : String) (vs : List Json) : Same (reduce (seeds n vs))
    ((reduce (seeds n (present vs))).map (orAbsentIf (hasNull vs))) := by
  apply Same.of_exists
  · intro t ok
    obtain ⟨reduced, bit⟩ := reduce_present ok
    have flag : t.isOptional = hasNull vs := by
      rw [Bool.eq_iff_iff, bit, hasNull_iff]
    rw [reduced, ← flag]
    exact congrArg Except.ok (wellFormed_reduce (wellFormed_seeds n vs) ok).orAbsentIf_bare
  · intro u ok
    obtain ⟨t, reduced, _⟩ := map_eq_ok.1 ok
    exact exists_reduce_of_present reduced

theorem refine_orAbsent_of_still (still : r.throughOptionals = true ∨ ∀ v ∈ vs, v.Still)
    (ok : reduce (seeds n (present vs)) = .ok t) (name : String) :
    t.orAbsent.refine r name = (t.refine r name).map orAbsent := by
  by_cases through : r.throughOptionals = true
  · exact Refinement.refine_orAbsent through t
  have still := still.resolve_left through
  -- Nothing here is refined, be it below an optional or not.
  have kept (t : Shape) : (Shape.optional t).refine r name = .ok (.optional t) := by
    rw [Refinement.refine_optional, if_neg through]
  have seen : ∀ v ∈ present vs, v ≠ .null := fun v inside => (mem_present.1 inside).2
  obtain ⟨_, nothing, kinds⟩ := kind_reduced seen ok
  cases values : present vs with
  | nil =>
    rw [eq_empty_of_kind (nothing.2 values)]
    rfl
  | cons v rest =>
    have inside : v ∈ present vs := values ▸ List.mem_cons_self
    have kind := kinds v inside
    have own := still v (mem_present.1 inside).1
    cases t with
    | bool => exact kept _
    | number => exact kept _
    | text s =>
      have same : promoted s = .text s := by
        by_cases nothing : s = ""
        · rw [nothing, Literal.promoted_empty]
        · rw [reduced_text seen ok] at nothing ⊢
          exact still _ (mem_present.1 (Json.string_firstText_mem nothing)).1
      rw [Refinement.refine_text, same]
      exact kept _
    | _ =>
      cases v with
      | null => exact absurd rfl (seen _ inside)
      | array | object => cases own
      | _ => cases kind

theorem finished_present (uniform : Uniform r vs) (n name : String) : Same (finished r n name vs)
    ((finished r n name (present vs)).map (orAbsentIf (hasNull vs))) := by
  refine ((same_reduce_present n vs).bind _).trans ?_
  rw [bind_map, finished, map_bind]
  refine Same.bind_congr fun t ok => ?_
  cases flag : hasNull vs with
  | false =>
    have same (x : Except MergeError Shape) : x.map (orAbsentIf false) = x := by
      cases x <;> rfl
    rw [same]
    exact .refl _
  | true =>
    have still := uniform.still.imp_right fun still => still [] (hasNull_iff.1 flag)
    have whole := refine_orAbsent_of_still still ok name
    exact whole ▸ .refl _

/-! Scalars. -/

theorem exists_reduce_leaves {kind : Kind} (leaf : kind ∈ [.bool, .number, .text])
    (kinds : ∀ v ∈ vs, v.kind = kind) (n : String) : ∃ t, reduce (seeds n vs) = .ok t := by
  induction vs using List.reverseRecOn with
  | nil => exact ⟨.empty, rfl⟩
  | append_singleton vs v ih =>
    obtain ⟨inFront, last⟩ := List.forall_mem_append.1 kinds
    have own : v.kind = kind := last v (List.mem_singleton_self v)
    have other : kind ≠ .optional := by
      rintro rfl
      simp at leaf
    obtain ⟨s, before⟩ := ih inFront
    obtain ⟨plain, nothing, kindsBefore⟩ := kind_reduced (Json.ne_null_of_kind other inFront) before
    have fits : Mergeable s (ofJson n v) := by
      cases vs with
      | nil => exact eq_empty_of_kind (nothing.2 rfl) ▸ mergeable_empty_left _
      | cons w rest =>
        have same : s.kind = kind :=
          (kindsBefore w List.mem_cons_self).trans (inFront w List.mem_cons_self)
        have simple : s.kind ∈ [.bool, .number, .text, .url] := by
          rw [same]
          exact List.mem_append_left [.url] leaf
        have seen := Json.ne_null_of_kind other last v (List.mem_singleton_self v)
        rw [mergeable_leaf simple (isOptional_ofJson_of_ne n seen), kind_ofJson, own, same]
        exact .inr rfl
    obtain ⟨t, merged⟩ := fits
    exact ⟨t, reduce_seeds_concat.2 ⟨s, before, merged⟩⟩

theorem finished_texts (some : vs ≠ []) (texts : ∀ v ∈ vs, v.kind = .text) :
    finished r n name vs = .ok (promoted (firstText vs)) := by
  obtain ⟨t, ok⟩ := exists_reduce_leaves (by simp) texts n
  have seen := Json.ne_null_of_kind (by simp) texts
  obtain ⟨v, inside⟩ := List.exists_mem_of_ne_nil vs some
  have kind : t.kind = .text := ((kind_reduced seen ok).2.2 v inside).trans (texts v inside)
  cases t with
  | text s => rw [finished, ok, Except.bind, Refinement.refine_text, reduced_text seen ok]
  | _ => cases kind

theorem finished_stable (r : Refinement) (n name : String) {kind : Kind}
    (stable : kind ∈ [.bool, .number]) (some : vs ≠ []) (kinds : ∀ v ∈ vs, v.kind = kind) :
    ∃ t, reduce (seeds n vs) = .ok t ∧ t.kind = kind ∧ finished r n name vs = .ok t := by
  obtain ⟨t, ok⟩ := exists_reduce_leaves (List.mem_append_left [.text] stable) kinds n
  have seen := Json.ne_null_of_kind (by rintro rfl; simp at stable) kinds
  obtain ⟨v, inside⟩ := List.exists_mem_of_ne_nil vs some
  have own : t.kind = kind := ((kind_reduced seen ok).2.2 v inside).trans (kinds v inside)
  refine ⟨t, ok, own, ?_⟩
  rw [finished, ok, Except.bind]
  cases t with
  | bool | number => rfl
  | _ =>
    rw [← own] at stable
    simp [Shape.kind] at stable

/-! Arrays. -/

theorem merge_ofJson_array {left : List Shape} {es : List Json} :
    (array n left).merge (ofJson n (.array es)) =
      (mergeOnto empty (left ++ seeds n es)).map fun u => array n u.asValues := by
  rw [ofJson_array, array_merge_array, if_pos rfl, representative_eq, seeds]
  cases mergeOnto empty (left ++ es.map (ofJson n)) <;> rfl

theorem seeds_append (n : String) (vs ws : List Json) :
    seeds n (vs ++ ws) = seeds n vs ++ seeds n ws := List.map_append

theorem same_reduce_concat (n : String) (vs : List Json) (v : Json) :
    Same (reduce (seeds n (vs ++ [v])))
      ((reduce (seeds n vs)).bind fun s => s.merge (ofJson n v)) :=
  fun _ => reduce_seeds_concat.trans bind_eq_ok.symm

theorem same_reduce_append (front back : List Shape) :
    Same (reduce (front ++ back)) ((reduce front).bind fun s => mergeOnto s back) :=
  fun _ => reduce_append_eq_ok.trans bind_eq_ok.symm

theorem same_reduce_arrays (several : 2 ≤ vs.length) (arrays : ∀ v ∈ vs, v.kind = .array) :
    Same (reduce (seeds n vs))
      ((reduce (seeds n (vs.flatMap elements))).map fun u => array n u.asValues) := by
  induction vs using List.reverseRecOn with
  | nil => cases several
  | append_singleton vs v ih =>
    obtain ⟨inFront, last⟩ := List.forall_mem_append.1 arrays
    cases v with
    | array es =>
      refine (same_reduce_concat n vs _).trans ?_
      have pool : (vs ++ [Json.array es]).flatMap elements = vs.flatMap elements ++ es := by
        simp [elements]
      rw [pool, seeds_append]
      refine Same.trans ?_ ((same_reduce_append _ _).map _).symm
      rw [map_bind]
      by_cases more : 2 ≤ vs.length
      -- The elements in front are merged already.
      · refine ((ih more inFront).bind _).trans ?_
        rw [bind_map]
        refine Same.bind_congr fun s _ => ?_
        rw [merge_ofJson_array, mergeOnto_asValues]
        exact .refl _
      -- There is one array in front, and its elements meet the others now.
      · rw [List.length_append] at several
        obtain ⟨w, rfl⟩ := List.length_eq_one_iff.1 (show vs.length = 1 by simp at several; omega)
        cases w with
        | array first =>
          have alone : reduce (seeds n [Json.array first]) = .ok (array n (seeds n first)) := by
            rw [seeds, List.map_singleton, reduce_singleton, ofJson_array, seeds]
          rw [alone, Except.bind, merge_ofJson_array, List.flatMap_singleton, elements,
            ← map_bind]
          exact ((same_reduce _).symm.trans (same_reduce_append _ _)).map _
        | _ => cases inFront _ (List.mem_singleton_self _)
    | _ => cases last _ (List.mem_singleton_self _)

/-- An array that stands alone is refined element by element before its elements are merged. -/
theorem finished_arrays (some : vs ≠ []) (arrays : ∀ v ∈ vs, v.kind = .array)
    (alone : ∀ es, vs = [.array es] →
      Same ((r.values (r.singular name) (seeds n es)).outcome.bind reduce)
        (finished r n (r.singular name) es)) :
    Same (finished r n name vs)
      ((finished r n (r.singular name) (vs.flatMap elements)).map fun u =>
        array (typeName name) u.asValues) := by
  by_cases several : 2 ≤ vs.length
  · refine ((same_reduce_arrays several arrays).bind _).trans ?_
    rw [Refinement.bind_refine_asValues]
    exact .refl _
  · have positive := List.length_pos_iff.2 some
    obtain ⟨v, rfl⟩ := List.length_eq_one_iff.1 (show vs.length = 1 by omega)
    cases v with
    | array es =>
      rw [finished, seeds, List.map_singleton, reduce_singleton, Except.bind, ofJson_array,
        Refinement.refine_array_mergeOnto, List.flatMap_singleton, elements]
      refine Same.map _ (Same.trans ?_ (alone es rfl))
      exact Same.bind_congr fun values _ => (same_reduce values).symm
    | _ => cases arrays _ (List.mem_singleton_self _)

/-! Objects. -/

theorem column_of_seen (seen : ∀ v ∈ vs, v ≠ .null) (key : String) :
    column key vs = vs.map fun v => (v.member key).getD .null := by
  rw [column, Json.present_eq_self seen]

theorem mergeable_objects {v w : Json} (left : v.kind = .object) (right : w.kind = .object)
    (dv : v.Distinct) (dw : w.Distinct) (n : String) : Mergeable (ofJson n v) (ofJson n w) ↔
      ∀ key, Mergeable (ofJson key ((v.member key).getD .null))
        (ofJson key ((w.member key).getD .null)) := by
  have tidy {v : Json} (distinct : v.Distinct) : (ofJson n v).Tidy :=
    ⟨wellFormed_ofJson n v, distinct_ofJson distinct n⟩
  have tv := tidy dv
  have tw := tidy dw
  cases v with
  | object members =>
    cases w with
    | object others =>
      rw [ofJson_object] at tv tw ⊢
      rw [ofJson_object, mergeable_object tv tw]
      simp only [entry_ofJson, Json.member, true_and]
    | _ => cases right
  | _ => cases left

theorem exists_reduce_objects (objects : ∀ v ∈ vs, v.kind = .object)
    (distinct : ∀ v ∈ vs, v.Distinct)
    (columns : ∀ key, ∃ t, reduce (seeds key (column key vs)) = .ok t) (n : String) :
    ∃ t, reduce (seeds n vs) = .ok t := by
  have seen := Json.ne_null_of_kind (by simp) objects
  rw [exists_reduce_iff (tidy_seeds n distinct), seeds, List.pairwise_map]
  refine List.pairwise_iff_forall_sublist.2 fun {v w} two => ?_
  have first : v ∈ vs := two.subset List.mem_cons_self
  have second : w ∈ vs := two.subset (List.mem_cons_of_mem v (List.mem_singleton_self w))
  rw [mergeable_objects (objects v first) (objects w second) (distinct v first)
    (distinct w second)]
  intro key
  have pairs := (exists_reduce_iff (tidy_seeds key (Json.distinct_column distinct))).1 (columns key)
  rw [seeds, column_of_seen seen, List.map_map, List.pairwise_map] at pairs
  exact List.pairwise_iff_forall_sublist.1 pairs two

theorem fields_ext {left right : Fields} (keys : Members.keys left = Members.keys right)
    (once : (Members.keys left).Nodup) (entries : ∀ key, entry left key = entry right key) :
    left = right := by
  refine Members.ext_lookup keys once fun key inside => ?_
  obtain ⟨a, first⟩ := Option.isSome_iff_exists.1 (Members.isSome_lookup.2 inside)
  obtain ⟨b, second⟩ := Option.isSome_iff_exists.1 (Members.isSome_lookup.2 (keys ▸ inside))
  have same := entries key
  rw [entry_of_lookup first, entry_of_lookup second] at same
  rw [first, second, same]

theorem refine_entry {fields refined : Fields} (ok : (r.fields fields).outcome = .ok refined)
    (key : String) : (entry fields key).refine r key = .ok (entry refined key) := by
  have keys : Members.keys refined = Members.keys fields := by
    rw [Refinement.outcome_fields] at ok
    exact Members.keys_traverse ok
  cases found : refined.lookup key with
  | some u =>
    obtain ⟨t, origin, inner⟩ := Refinement.lookup_refined ok found
    rw [entry_of_lookup found, entry_of_lookup origin, inner]
  | none =>
    rw [entry_of_missing found]
    rw [Members.lookup_eq_none, keys, ← Members.lookup_eq_none] at found
    rw [entry_of_missing found]
    rfl

theorem object_of_finished (some : vs ≠ []) (objects : ∀ v ∈ vs, v.kind = .object)
    (distinct : ∀ v ∈ vs, v.Distinct) (ok : finished r n name vs = .ok u) :
    ∃ fields, u = object (typeName name) fields ∧ Members.keys fields = keyOrder vs ∧
      ∀ key, finished r key key (column key vs) = .ok (entry fields key) := by
  have seen := Json.ne_null_of_kind (by simp) objects
  obtain ⟨t, reduced, refined⟩ := finished_eq_ok.1 ok
  obtain ⟨v, inside⟩ := List.exists_mem_of_ne_nil vs some
  have kind := ((kind_reduced seen reduced).2.2 v inside).trans (objects v inside)
  have once := (Tidy.reduce (tidy_seeds n distinct) reduced).distinct
  cases t with
  | object m fields =>
    rw [Refinement.refine_object, map_eq_ok] at refined
    obtain ⟨images, each, rfl⟩ := refined
    refine ⟨images, rfl, ?_, fun key => finished_eq_ok.2 ⟨entry fields key, ?_, ?_⟩⟩
    · rw [Refinement.outcome_fields] at each
      rw [Members.keys_traverse each, ← eraseDups_of_nodup (distinct_object.1 once).1,
        reduced_keys seen reduced, keyOrder]
    · rw [column_of_seen seen]
      exact (reduced_object seen reduced key).2
    · exact refine_entry each key
  | _ => cases kind

theorem exists_finished_objects (n name : String) (some : vs ≠ [])
    (objects : ∀ v ∈ vs, v.kind = .object) (distinct : ∀ v ∈ vs, v.Distinct)
    (columns : ∀ key, ∃ u, finished r key key (column key vs) = .ok u) :
    ∃ u, finished r n name vs = .ok u := by
  have seen := Json.ne_null_of_kind (by simp) objects
  have below (key : String) : ∃ t, reduce (seeds key (column key vs)) = .ok t ∧
      ∃ u, t.refine r key = .ok u := by
    obtain ⟨u, ok⟩ := columns key
    obtain ⟨t, reduced, refined⟩ := finished_eq_ok.1 ok
    exact ⟨t, reduced, u, refined⟩
  obtain ⟨t, reduced⟩ := exists_reduce_objects objects distinct
    (fun key => (below key).imp fun _ both => both.1) n
  obtain ⟨v, inside⟩ := List.exists_mem_of_ne_nil vs some
  have kind := ((kind_reduced seen reduced).2.2 v inside).trans (objects v inside)
  have once := (Tidy.reduce (tidy_seeds n distinct) reduced).distinct
  cases t with
  | object m fields =>
    have each : ∃ images, (r.fields fields).outcome = .ok images := by
      rw [Refinement.outcome_fields, Members.exists_traverse_iff]
      rintro ⟨key, t⟩ member
      obtain ⟨s, own, refined⟩ := below key
      have whole := (reduced_object seen reduced key).2
      rw [entry_of_lookup (Members.lookup_of_mem (distinct_object.1 once).1 member),
        ← column_of_seen seen] at whole
      cases whole.symm.trans own
      exact refined
    obtain ⟨images, each⟩ := each
    refine ⟨object (typeName name) images, finished_eq_ok.2 ⟨_, reduced, ?_⟩⟩
    rw [Refinement.refine_object, each]
    rfl
  | _ => cases kind

/-- Objects are merged and refined column by column. -/
theorem finished_objects (some : vs ≠ []) (objects : ∀ v ∈ vs, v.kind = .object)
    (distinct : ∀ v ∈ vs, v.Distinct) : finished r n name vs = .ok u ↔
      ∃ fields, u = object (typeName name) fields ∧ Members.keys fields = keyOrder vs ∧
        ∀ key, finished r key key (column key vs) = .ok (entry fields key) := by
  refine ⟨object_of_finished some objects distinct, ?_⟩
  rintro ⟨fields, rfl, keys, columns⟩
  obtain ⟨u, ok⟩ := exists_finished_objects n name some objects distinct
    fun key => ⟨_, columns key⟩
  obtain ⟨others, rfl, keys', columns'⟩ := object_of_finished some objects distinct ok
  have same : others = fields := by
    refine fields_ext (keys'.trans keys.symm) (keys' ▸ nodup_eraseDups _) fun key => ?_
    exact Except.ok.inj ((columns' key).symm.trans (columns key))
  rw [ok, same]

end

end Shape

end ShapeInference
