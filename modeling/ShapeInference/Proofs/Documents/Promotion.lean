import ShapeInference.Proofs.Documents.Paths
import ShapeInference.Proofs.Refine.Rules

/-! URLs and dates of refined shapes, and the texts they come from.

Merged shapes have neither: a text becomes one of them when the shape is refined. Merging keeps the
first text that is not empty, so this one text decides.
-/

set_option autoImplicit false

namespace ShapeInference

namespace Json

theorem firstText_present (documents : List Json) :
    firstText (present documents) = firstText documents := by
  induction documents with
  | nil => rfl
  | cons v rest ih =>
    cases v with
    | string s =>
      have kept : present (.string s :: rest) = .string s :: present rest := rfl
      rw [kept, firstText, firstText, ih]
    | _ => exact ih

theorem string_firstText_mem {documents : List Json} (some : firstText documents ≠ "") :
    .string (firstText documents) ∈ documents := by
  induction documents with
  | nil => exact absurd rfl some
  | cons v rest ih =>
    cases v with
    | string s =>
      rw [firstText] at some ⊢
      split at some
      · next nothing =>
        rw [if_pos nothing]
        exact List.mem_cons_of_mem _ (ih some)
      · next kept =>
        rw [if_neg kept]
        exact List.mem_cons_self
    | _ => exact List.mem_cons_of_mem _ (ih some)

end Json

namespace Literal

theorem isUrl_empty : isUrl "" = false := by decide

theorem dateFormat?_empty : dateFormat? "" = none := by decide

theorem promoted_empty : promoted "" = .text "" :=
  promoted_eq_text_iff.2 ⟨isUrl_empty, dateFormat?_empty⟩

end Literal

namespace Shape

open Json (firstText observed)
open Refinement (Refines)

/-- What a path reaches in a refined shape is refined from what it reached before, if at all. -/
theorem follow_refined {r : Refinement} {name : String} {t u : Shape}
    (ok : t.refine r name = .ok u) {path : List String} {node : Shape}
    (found : u.follow path = some node) : ∃ origin, t.follow path = some origin ∧
      (node.bare = origin.bare ∨ ∃ key, Refines r key origin.bare node.bare) := by
  induction path using List.reverseRecOn generalizing node with
  | nil =>
    cases found
    exact ⟨t, rfl, (Refinement.bare_of_refine ok).imp_right fun refines => ⟨name, refines⟩⟩
  | append_singleton path key ih =>
    rw [follow, walk_concat] at found
    obtain ⟨parent, reached, step⟩ := Option.bind_eq_some_iff.1 found
    obtain ⟨origin, before, related⟩ := ih reached
    rw [follow, walk_concat, ← follow, before, Option.bind_some]
    cases bare : parent.bare with
    | object n fields =>
      rw [member_of_bare bare] at step
      rcases related with same | ⟨own, refines⟩
      -- Below an optional that is left alone, nothing is refined.
      · exact ⟨node, by rw [member_of_bare (same.symm.trans bare), step], .inl rfl⟩
      · rw [bare] at refines
        obtain ⟨m, fields, origin, refined⟩ := refines.eq_object
        obtain ⟨field, inside, inner⟩ := Refinement.lookup_refined refined step
        refine ⟨field, by rw [member_of_bare origin, inside], ?_⟩
        exact (Refinement.bare_of_refine inner).imp_right fun refines => ⟨key, refines⟩
    | _ => rw [member, bare] at step; cases step

section
variable {documents : List Json} {path : List String} {node : Shape}

theorem Summary.kind_ne (h : Summary documents path node) :
    node.bare.kind ≠ .url ∧ node.bare.kind ≠ .date := by
  obtain ⟨name, reduced⟩ := h.reduced
  obtain ⟨_, nothing, kinds⟩ := kind_reduced (fun v inside => (Json.mem_present.1 inside).2) reduced
  cases values : Json.present (observed documents path) with
  | nil =>
    rw [nothing.2 values]
    exact ⟨by decide, by decide⟩
  | cons v rest =>
    rw [kinds v (values ▸ List.mem_cons_self)]
    cases v <;> simp [Json.kind]

theorem Summary.text_eq (h : Summary documents path node) {sample : String}
    (text : node.bare = .text sample) : sample = firstText (observed documents path) := by
  obtain ⟨name, reduced⟩ := h.reduced
  rw [text] at reduced
  rw [← Json.firstText_present]
  exact reduced_text (fun v inside => (Json.mem_present.1 inside).2) reduced

end

/-! Documents with three days, one of them empty and one no date. -/

theorem reduce_days (name : String) : reduce (seeds name [.object [("day", .string "")],
    .object [("day", .string "2020-01-01")], .object [("day", .string "soon")]]) =
      .ok (object name [("day", text "2020-01-01")]) := by
  simp [seeds, ofJson, reduce_eq_ok, mergeOnto_cons, Except.bind, Except.map, object_merge_object,
    mergeFields_cons, Members.lookup_cons, text_merge_text, fieldsOnlyIn]

theorem refine_day (name : String) :
    (object name [("day", text "2020-01-01")]).refine {} name =
      .ok (object (typeName name) [("day", date .dateOnly)]) := by
  rw [Refinement.refine_object, Refinement.outcome_fields_cons, Refinement.refine_text,
    Literal.promoted_day]
  rfl

/-! The text that decides. -/

/-- The first text that is not empty is there, and it makes the leaf a URL or a date. -/
theorem promoted_by_first_text {documents : List Json} {name : String} {r : Refinement}
    {t u : Shape} (some : documents ≠ []) (ok : reduce (seeds name documents) = .ok t)
    (refined : t.refine r name = .ok u) {path : List String} {node : Shape}
    (found : u.follow path = .some node) :
    (∀ literal, node.bare = .url literal →
      .string (firstText (observed documents path)) ∈ observed documents path ∧
        firstText (observed documents path) ≠ "" ∧
        Literal.isUrl (firstText (observed documents path)) = true) ∧
    ∀ format, node.bare = .date format →
      .string (firstText (observed documents path)) ∈ observed documents path ∧
        firstText (observed documents path) ≠ "" ∧
        Literal.dateFormat? (firstText (observed documents path)) = .some format := by
  obtain ⟨origin, before, related⟩ := follow_refined refined found
  rcases follow_reduced some ok path with ⟨missing, _⟩ | ⟨other, reached, summary⟩
  · rw [missing] at before
    cases before
  cases reached.symm.trans before
  obtain ⟨noUrl, noDate⟩ := summary.kind_ne
  constructor
  · intro literal url
    rw [url] at related
    have text : origin.bare = .text literal ∧ Literal.isUrl literal = true := by
      rcases related with same | ⟨key, refines⟩
      · exact absurd (congrArg kind same.symm) noUrl
      · exact refines.eq_url.resolve_left fun same => noUrl (congrArg kind same)
    rw [summary.text_eq text.1] at text
    -- The empty text is no URL, so a text was seen.
    have seen : firstText (observed documents path) ≠ "" := by
      intro nothing
      rw [nothing, Literal.isUrl_empty] at text
      cases text.2
    exact ⟨Json.string_firstText_mem seen, seen, text.2⟩
  · intro format date
    rw [date] at related
    obtain ⟨sample, text, accepted⟩ : ∃ sample, origin.bare = .text sample ∧
        Literal.dateFormat? sample = .some format := by
      rcases related with same | ⟨key, refines⟩
      · exact absurd (congrArg kind same.symm) noDate
      · exact refines.eq_date.resolve_left fun same => noDate (congrArg kind same)
    rw [summary.text_eq text] at accepted
    have seen : firstText (observed documents path) ≠ "" := by
      intro nothing
      rw [nothing, Literal.dateFormat?_empty] at accepted
      cases accepted
    exact ⟨Json.string_firstText_mem seen, seen, accepted⟩

/-- Three days, of which the second one decides. -/
theorem promoted_by_first_text_days :
    let documents : List Json := [.object [("day", .string "")],
      .object [("day", .string "2020-01-01")], .object [("day", .string "soon")]]
    documents ≠ [] ∧ ∃ t u node, reduce (seeds "Entry" documents) = .ok t ∧
      t.refine {} "Entry" = .ok u ∧ u.follow ["day"] = some node ∧
      node.bare = date .dateOnly ∧ Literal.dateFormat?
        (firstText (observed documents ["day"])) = some .dateOnly := by
  intro documents
  have nonempty : documents ≠ [] := List.cons_ne_nil _ _
  have ok := reduce_days "Entry"
  have found : (object (typeName "Entry") [("day", date .dateOnly)]).follow ["day"] =
      some (date .dateOnly) := rfl
  exact ⟨nonempty, _, _, _, ok, refine_day "Entry", found, rfl,
    ((promoted_by_first_text nonempty ok (refine_day "Entry") found).2 .dateOnly rfl).2.2⟩

/-- Other texts do not count: of the three days, one alone is a date. -/
theorem not_promoted_by_every_text :
    ¬ ∀ (documents : List Json) (name : String) (r : Refinement) (t u : Shape),
      documents ≠ [] → reduce (seeds name documents) = .ok t → t.refine r name = .ok u →
      ∀ path node, u.follow path = some node →
        (∀ literal, node.bare = .url literal →
          ∀ s, .string s ∈ observed documents path → Literal.isUrl s = true) ∧
        ∀ format, node.bare = .date format →
          ∀ s, .string s ∈ observed documents path → Literal.dateFormat? s = some format := by
  intro claim
  have all := (claim _ "entry" {} _ _ (List.cons_ne_nil _ _) (reduce_days "entry")
    (refine_day "entry") ["day"] _ rfl).2 .dateOnly rfl
  have seen : .string "soon" ∈ observed [.object [("day", .string "")],
      .object [("day", .string "2020-01-01")], .object [("day", .string "soon")]] ["day"] :=
    List.mem_cons_of_mem _ (List.mem_cons_of_mem _ (List.mem_singleton_self _))
  have accepted := all "soon" seen
  have rejected : Literal.dateFormat? "soon" = none := by decide
  rw [rejected] at accepted
  cases accepted

end Shape

end ShapeInference
