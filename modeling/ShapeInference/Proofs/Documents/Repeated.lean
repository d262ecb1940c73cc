import ShapeInference.Inference
import ShapeInference.Proofs.Documents.Regrouped

/-! One more copy of a document.

A copy of a pooled document is absorbed. Other arrays are merged once a copy is there, before they
are refined, and without the copy they are refined first. So the copy changes nothing if, for each
of these arrays, it does not matter which of the two is first, as in uniform documents.
-/

set_option autoImplicit false

namespace ShapeInference

namespace Json

open Shape (reduce seeds)

/-- An optional keeps a refinement that does not go through it from the values at its place. -/
def Reached (r : Refinement) (vs : List Json) : Prop := .null ∈ vs → r.throughOptionals = true

/-- Each array of the document has another array beside it, or stands among uniform values. -/
inductive Repeatable (r : Refinement) : List Json → Json → Prop where
  -- The copy is absorbed before anything is refined.
  | pooled {vs : List Json} {v : Json} : Pooled vs v → Repeatable r vs v
  -- It does not matter what comes first.
  | uniform {vs : List Json} {v : Json} : Uniform r vs → Repeatable r vs v
  -- The elements are merged already, so each of them is refined after that.
  | array {vs es : List Json} : Reached r vs → (2 ≤ es.length → 2 ≤ (present vs).length) →
      (∀ e ∈ es, Repeatable r (vs.flatMap elements) e) → Repeatable r vs (.array es)
  | object {vs : List Json} {members : Members Json} : Reached r vs →
      (∀ key v, members.lookup key = some v → Repeatable r (column key vs) v) →
      Repeatable r vs (.object members)

theorem Reached.append {r : Refinement} {vs front back : List Json} (h : Reached r vs)
    (inside : (front ++ back).Sublist vs) : Reached r (vs ++ front) := by
  intro null
  rcases List.mem_append.1 null with known | known
  · exact h known
  · exact h (inside.subset (List.mem_append_left back known))

/-- Copies of what stands in front of the document change nothing for it. -/
theorem Repeatable.append {r : Refinement} {vs front : List Json} {v : Json}
    (h : Repeatable r vs v) (inside : (front ++ [v]).Sublist vs) :
    Repeatable r (vs ++ front) v := by
  induction h generalizing front with
  | pooled pooled => exact .pooled (pooled.append front)
  | @uniform vs _ uniform =>
    have ahead : front ⊆ vs := fun w member => inside.subset (List.mem_append_left _ member)
    exact .uniform (uniform.mono (List.append_subset.2 ⟨List.Subset.refl vs, ahead⟩))
  | @array vs es reached several all ih =>
    have below : (front.flatMap elements ++ es).Sublist (vs.flatMap elements) := by
      simpa [elements] using inside.flatMap elements
    refine .array (reached.append inside) (fun many => ?_) fun e member => ?_
    · rw [present_append, List.length_append]
      exact Nat.le_add_right_of_le (several many)
    · have one : [e].Sublist es := List.singleton_sublist.2 member
      rw [List.flatMap_append]
      exact ih e member (((List.Sublist.refl _).append one).trans below)
  | @object vs members reached all ih =>
    refine .object (reached.append inside) fun key v found => ?_
    have last : column key [.object members] = [v] := by
      simp [column, present, isNull, Json.member, found]
    have below : (column key front ++ [v]).Sublist (column key vs) := by
      rw [← last, ← column_append]
      exact column_sublist inside
    rw [column_append]
    exact ih key v found below

end Json

namespace Shape

open Json (Pooled Reached Repeatable Uniform array_mem_present column distinct_column
  distinct_elements elements object_mem_present present)

section
variable {r : Refinement} {vs es : List Json} {n name : String} {v : Json} {t : Shape}

/-- Where the refinement reaches, a bare shape tells about the optional around it as well. -/
theorem same_of_bare (ok : reduce (seeds n vs) = .ok t) (seen : v ≠ .null) (reached : Reached r vs)
    (bare : reduce (seeds n (present vs)) = .ok t.bare →
      Same ((t.bare.merge (ofJson n v)).bind fun u => u.refine r name) (t.bare.refine r name)) :
    Same ((t.merge (ofJson n v)).bind fun u => u.refine r name) (t.refine r name) := by
  have wt := wellFormed_reduce (wellFormed_seeds n vs) ok
  have wv := wellFormed_ofJson n v
  have plain := isOptional_ofJson_of_ne n seen
  obtain ⟨reduced, bit⟩ := reduce_present ok
  have same := bare reduced
  have whole := wt.orAbsentIf_bare
  cases opt : t.isOptional with
  | false => rwa [bare_of_not_isOptional opt] at same
  | true =>
    have through := reached (bit.1 opt)
    have outer : t.refine r name = (t.bare.refine r name).map orAbsent := by
      rw [opt] at whole
      rw [← Refinement.refine_orAbsent through]
      exact congrArg (·.refine r name) whole.symm
    have inner (x : Except MergeError Shape) : (x.map orAbsent).bind (fun u => u.refine r name) =
        (x.bind fun u => u.refine r name).map orAbsent := by
      cases x with
      | error e => rfl
      | ok u => exact Refinement.refine_orAbsent through u
    rw [merge_of_isOptional_left wt wv opt, bare_of_not_isOptional plain, outer, inner]
    exact same.map orAbsent

theorem same_pooled (distinct : ∀ w ∈ vs, w.Distinct) (inside : v ∈ vs) (pooled : Pooled vs v)
    (ok : reduce (seeds n vs) = .ok t) :
    Same ((t.merge (ofJson n v)).bind fun u => u.refine r name) (t.refine r name) := by
  rw [merge_pooled distinct inside pooled ok]
  exact .refl _

theorem same_uniform (distinct : ∀ w ∈ vs, w.Distinct) (inside : v ∈ vs) (uniform : Uniform r vs)
    (ok : reduce (seeds n vs) = .ok t) :
    Same ((t.merge (ofJson n v)).bind fun u => u.refine r name) (t.refine r name) := by
  have copy := finished_concat distinct uniform inside n name
  have again := (same_reduce_concat n vs v).bind fun t => t.refine r name
  rw [ok] at again
  refine again.symm.trans (copy.trans ?_)
  rw [finished, ok]
  exact .refl _

theorem same_mergeOnto {u : Shape} (ok : reduce (seeds n vs) = .ok u)
    (step : ∀ front e back t, es = front ++ e :: back → reduce (seeds n (vs ++ front)) = .ok t →
      Same ((t.merge (ofJson n e)).bind fun s => s.refine r name) (t.refine r name)) :
    Same ((mergeOnto u (es.map (ofJson n))).bind fun s => s.refine r name) (u.refine r name) := by
  induction es using List.reverseRecOn with
  | nil =>
    rw [List.map_nil, mergeOnto_nil]
    exact .refl _
  | append_singleton es e ih =>
    have before := ih fun front e' back t split => step front e' (back ++ [e]) t (by simp [split])
    rw [List.map_append, List.map_singleton, mergeOnto_concat]
    cases merged : mergeOnto u (es.map (ofJson n)) with
    | error e =>
      rw [merged] at before
      exact before
    | ok t =>
      rw [merged] at before
      have reduced : reduce (seeds n (vs ++ es)) = .ok t := by
        rw [seeds, List.map_append]
        exact reduce_append_eq_ok.2 ⟨u, ok, merged⟩
      exact (step es e [] t rfl reduced).trans before

/-- If the array is merged already, only its elements are left to be merged one by one. -/
theorem same_array (inside : .array es ∈ vs) (reached : Reached r vs)
    (several : 2 ≤ es.length → 2 ≤ (present vs).length) (ok : reduce (seeds n vs) = .ok t)
    (each : ∀ front e back u, es = front ++ e :: back →
      reduce (seeds n (vs.flatMap elements ++ front)) = .ok u →
      Same ((u.merge (ofJson n e)).bind fun s => s.refine r (r.singular name))
        (u.refine r (r.singular name))) :
    Same ((t.merge (ofJson n (.array es))).bind fun u => u.refine r name) (t.refine r name) := by
  apply same_of_bare ok (by simp) reached
  intro reduced
  obtain ⟨values, same⟩ := eq_array_of_reduce reduced (array_mem_present inside)
  rw [same] at reduced ⊢
  obtain ⟨element, merged, rfl⟩ := merged_array reduced inside several
  rw [merge_ofJson_array, mergeOnto_asValues, Refinement.bind_refine_asValues,
    Refinement.refine_asValues]
  exact (same_mergeOnto merged each).map _

theorem same_object {members : Members Json} (distinct : ∀ w ∈ vs, w.Distinct)
    (inside : .object members ∈ vs) (reached : Reached r vs) (ok : reduce (seeds n vs) = .ok t)
    (each : ∀ key w u, members.lookup key = some w → w ∈ column key vs →
      reduce (seeds key (column key vs)) = .ok u →
      Same ((u.merge (ofJson key w)).bind fun s => s.refine r key) (u.refine r key)) :
    Same ((t.merge (ofJson n (.object members))).bind fun u => u.refine r name)
      (t.refine r name) := by
  apply same_of_bare ok (by simp) reached
  intro reduced
  obtain ⟨fields, same⟩ := eq_object_of_reduce reduced (object_mem_present inside)
  have distinctBare : t.bare.Distinct := (Tidy.reduce (tidy_seeds n distinct) ok).bare.distinct
  rw [same] at reduced distinctBare ⊢
  have fieldwise : Same ((mergeFields fields (fieldsOfJson members)).bind
      fun shared => (r.fields shared).outcome) (r.fields fields).outcome := by
    apply Refinement.same_fields
    intro field member u
    have own := merged_field distinctBare reduced member
    rcases field_cases own inside with ⟨missing, stays⟩ | ⟨w, found, right, inColumn⟩
    · simp only [joins_of_missing missing, stays, exists_eq_left]
    · rw [← each field.1 w field.2 found inColumn own u, bind_eq_ok]
      simp only [joins_of_lookup right]
  rw [merge_object_of_reduce reduced inside, Refinement.bind_refine_object,
    Refinement.refine_object]
  exact fieldwise.map _

theorem ahead_of_array (inside : .array es ∈ vs) {front back : List Json} {e : Json}
    (split : es = front ++ e :: back) : e ∈ es ∧ (front ++ [e]).Sublist (vs.flatMap elements) := by
  have pool : es.Sublist (vs.flatMap elements) := by
    simpa [elements] using (List.singleton_sublist.2 inside).flatMap elements
  have first : (front ++ [e]).Sublist es := by
    rw [split]
    exact (List.Sublist.refl front).append (List.singleton_sublist.2 List.mem_cons_self)
  exact ⟨first.subset List.mem_concat_self, first.trans pool⟩

theorem refine_repeated (distinct : ∀ w ∈ vs, w.Distinct) (inside : v ∈ vs)
    (repeatable : Repeatable r vs v) (ok : reduce (seeds n vs) = .ok t) :
    Same ((t.merge (ofJson n v)).bind fun u => u.refine r name) (t.refine r name) := by
  -- By induction on the document, for all values that it may stand among.
  induction v generalizing vs n name t with
  | array es ih =>
    cases repeatable with
    | pooled pooled => exact same_pooled distinct inside pooled ok
    | uniform uniform => exact same_uniform distinct inside uniform ok
    | array reached several all =>
      refine same_array inside reached several ok fun front e back u split before => ?_
      -- In front of an element stands the pool, and then the elements before it once more.
      obtain ⟨inArray, ahead⟩ := ahead_of_array inside split
      have inPool : e ∈ vs.flatMap elements := ahead.subset List.mem_concat_self
      have distinctPool : ∀ w ∈ vs.flatMap elements ++ front, w.Distinct := by
        intro w member
        apply distinct_elements distinct
        rcases List.mem_append.1 member with known | inFront
        · exact known
        · exact ahead.subset (List.mem_append_left [e] inFront)
      exact ih e inArray distinctPool (List.mem_append_left front inPool)
        ((all e inArray).append ahead) before
  | object members ih =>
    cases repeatable with
    | pooled pooled => exact same_pooled distinct inside pooled ok
    | uniform uniform => exact same_uniform distinct inside uniform ok
    | object reached all =>
      refine same_object distinct inside reached ok fun key w u found inColumn own => ?_
      exact ih _ (Members.mem_of_lookup found) (distinct_column distinct) inColumn (all key w found)
        own
  | _ =>
    cases repeatable with
    | pooled pooled => exact same_pooled distinct inside pooled ok
    | uniform uniform => exact same_uniform distinct inside uniform ok

end

end Shape

/-! Inference with one more copy. -/

open Json (Repeatable Steady Uniform)
open Shape (reduce seeds)

def inferRefined (r : Refinement) (name : String) (documents : List Json) :
    Except InferenceError Shape :=
  (infer r name documents).outcome.map (·.refined)

theorem inferRefined_eq_ok {r : Refinement} {name : String} {documents : List Json} {u : Shape} :
    inferRefined r name documents = .ok u ↔
      ∃ t, reduce (seeds name documents) = .ok t ∧ t.refine r name = .ok u := by
  unfold inferRefined infer
  simp only [Logged.outcome_bind, Logged.outcome_mapError, Shape.outcome_reduceLogged,
    Refinement.outcome_run, map_eq_ok, bind_eq_ok, mapError_eq_ok]
  constructor
  · rintro ⟨_, ⟨t, ok, v, refined, _, _, same⟩, rfl⟩
    cases same
    exact ⟨t, ok, refined⟩
  · rintro ⟨t, ok, refined⟩
    exact ⟨_, ⟨t, ok, u, refined, .ofShape u, rfl, rfl⟩, rfl⟩

theorem inferRefined_concat {r : Refinement} {name : String} {documents : List Json} {d : Json}
    (inside : d ∈ documents) (distinct : ∀ document ∈ documents, document.Distinct)
    (repeatable : Repeatable r documents d) :
    Same (inferRefined r name (documents ++ [d])) (inferRefined r name documents) := by
  intro u
  rw [inferRefined_eq_ok, inferRefined_eq_ok]
  constructor
  · rintro ⟨t', ok, refined⟩
    obtain ⟨t, before, merged⟩ := Shape.reduce_seeds_concat.1 ok
    refine ⟨t, before, (Shape.refine_repeated distinct inside repeatable before u).1 ?_⟩
    exact bind_eq_ok.2 ⟨t', merged, refined⟩
  · rintro ⟨t, before, refined⟩
    have again := (Shape.refine_repeated distinct inside repeatable before u).2 refined
    obtain ⟨t', merged, refined'⟩ := bind_eq_ok.1 again
    exact ⟨t', Shape.reduce_seeds_concat.2 ⟨t, before, merged⟩, refined'⟩

/-- One more copy of a document changes nothing if each array of the document has another one beside
it or stands among uniform values. Any further copy changes nothing at all. -/
theorem repeated_document (r : Refinement) (name : String) {documents : List Json} {d : Json}
    (inside : d ∈ documents) (distinct : ∀ document ∈ documents, document.Distinct) :
    (Repeatable r documents d →
      Same (inferRefined r name (documents ++ [d])) (inferRefined r name documents)) ∧
    Same (inferRefined r name (documents ++ [d] ++ [d]))
      (inferRefined r name (documents ++ [d])) := by
  have twice : [d, d].Sublist (documents ++ [d]) :=
    (List.singleton_sublist.2 inside).append (List.Sublist.refl [d])
  refine ⟨inferRefined_concat inside distinct, ?_⟩
  apply inferRefined_concat (List.mem_append_left [d] inside)
  · intro document member
    rcases List.mem_append.1 member with known | last
    · exact distinct document known
    · rw [List.mem_singleton.1 last]
      exact distinct d inside
  · exact .pooled (Json.pooled_of_twice twice)

/-! Rows that stand alone. -/

theorem distinct_texts (s s' : String) :
    ∀ document ∈ [Json.array [.string s, .string s']], document.Distinct := by
  intro document member
  rw [List.mem_singleton.1 member]
  refine .array fun element inside => ?_
  rcases List.mem_pair.1 inside with rfl | rfl
  · exact .string _
  · exact .string _

/-- Two rows of days, the second one with a null in front. It turns optional, so its days would come
first, but a date keeps no literal. -/
theorem repeated_document_days :
    let rows : List (List Json) := [[.string "2020-01-01"], [.null, .string "2020-01-02"]]
    let d : Json := .array (rows.map .array)
    let r : Refinement := { throughOptionals := true }
    d ∈ [d] ∧ (∀ document ∈ [d], document.Distinct) ∧ Repeatable r [d] d ∧
      Same (inferRefined r "entry" ([d] ++ [d])) (inferRefined r "entry" [d]) := by
  intro rows d r
  have inside : d ∈ [d] := List.mem_singleton_self d
  have second : Literal.promoted "2020-01-02" = .date .dateOnly :=
    Literal.promoted_of_dateFormat? (by decide) (by decide)
  have days : ∀ row ∈ rows, ∀ v ∈ row, v.DateOrNull .dateOnly := by
    simp [rows, Json.DateOrNull, Literal.promoted_day, second]
  have distinct : ∀ document ∈ [d], document.Distinct := by
    rw [List.forall_mem_singleton]
    refine .array (List.forall_mem_map.2 fun row member => .array fun v own => ?_)
    rcases days row member v own with rfl | ⟨s, rfl, _⟩
    · exact .null
    · exact .string s
  have uniform : Uniform r [d] :=
    Json.uniform_rows (List.forall_mem_map.2 fun row member => ⟨row, rfl, days row member⟩) rfl
  have repeatable : Repeatable r [d] d := .uniform uniform
  exact ⟨inside, distinct, repeatable,
    (repeated_document r "entry" inside distinct).1 repeatable⟩

/-- A date and a text that is none: they clash unless they are merged first. -/
theorem not_every_copy_absorbed :
    ¬ ∀ (r : Refinement) (name : String) (documents : List Json) (d : Json), d ∈ documents →
      (∀ document ∈ documents, document.Distinct) →
      Same (inferRefined r name (documents ++ [d])) (inferRefined r name documents) := by
  intro claim
  let d : Json := .array [.string "2020-01-01", .string "soon"]
  have same := claim {} "entry" [d] d (List.mem_singleton_self d) (distinct_texts _ _)
  have day : [Shape.text "2020-01-01"] = (Shape.text "2020-01-01").asValues := rfl
  have twice : reduce (seeds "entry" ([d] ++ [d])) = .ok (.array "entry" [.text "2020-01-01"]) := by
    simp [d, seeds, Shape.ofJson, Shape.reduce_eq_ok, Shape.mergeOnto_cons, Except.bind, Except.map,
      Shape.text_merge_text, Shape.array_merge_array, Shape.representative_eq, day]
  have refined : (Shape.array "entry" [.text "2020-01-01"]).refine {} "entry" =
      .ok (.array (typeName "entry") [.date .dateOnly]) := by
    rw [day, Refinement.refine_asValues, Refinement.refine_text, Literal.promoted_day]
    rfl
  have once : reduce (seeds "entry" [d]) =
      .ok (.array "entry" [.text "2020-01-01", .text "soon"]) :=
    Shape.reduce_singleton _
  have inferred := (same _).1 (inferRefined_eq_ok.2 ⟨_, twice, refined⟩)
  obtain ⟨t, ok, fits⟩ := inferRefined_eq_ok.1 inferred
  cases once.symm.trans ok
  rw [Refinement.refine_date_beside_text] at fits
  cases fits

end ShapeInference
