import ShapeInference.Proofs.Documents.Seed

/-! What the shape of many documents tells about them.

Nulls only decide whether the shape is optional. The other documents all have its kind. Its entries
under a key are in turn the shape of the members under this key, with null where it is missing, and
the keys are those of some document.
-/

set_option autoImplicit false

namespace ShapeInference

namespace Json

def isNull : Json → Bool
  | .null => true
  | _ => false

@[simp] theorem isNull_iff {v : Json} : v.isNull = true ↔ v = .null := by
  cases v <;> simp [isNull]

def elements : Json → List Json
  | .array es => es
  | _ => []

def present (documents : List Json) : List Json := documents.filter fun v => !v.isNull

section
variable {documents rest : List Json} {v : Json}

@[simp] theorem mem_present : v ∈ present documents ↔ v ∈ documents ∧ v ≠ .null := by
  rw [present, List.mem_filter, Bool.not_eq_true', ← Bool.not_eq_true, isNull_iff]

theorem array_mem_present {es : List Json} (inside : .array es ∈ documents) :
    .array es ∈ present documents := by
  simpa using inside

theorem object_mem_present {members : Members Json} (inside : .object members ∈ documents) :
    .object members ∈ present documents := by
  simpa using inside

theorem present_append : present (documents ++ rest) = present documents ++ present rest :=
  List.filter_append _ _

theorem present_singleton (seen : v ≠ .null) : present [v] = [v] := by
  have kept : v.isNull = false := Bool.eq_false_iff.2 fun null => seen (isNull_iff.1 null)
  simp [present, kept]

theorem flatMap_present {α : Type} {f : Json → List α} (nothing : f .null = []) :
    (present documents).flatMap f = documents.flatMap f := by
  induction documents with
  | nil => rfl
  | cons v rest ih =>
    cases v with
    | null => rwa [List.flatMap_cons, nothing, List.nil_append]
    | _ => exact congrArg (_ ++ ·) ih

theorem flatMap_elements_present :
    (present documents).flatMap elements = documents.flatMap elements := flatMap_present rfl

theorem present_eq_nil : present documents = [] ↔ ∀ v ∈ documents, v = .null := by
  rw [List.eq_nil_iff_forall_not_mem]
  refine forall_congr' fun v => ?_
  rw [mem_present, not_and, not_not]

theorem kind_ne_empty (v : Json) : v.kind ≠ .empty := by
  cases v <;> simp [kind]

end

def firstText : List Json → String
  | [] => ""
  | .string s :: rest => if s = "" then firstText rest else s
  | _ :: rest => firstText rest

theorem firstText_concat_string (documents : List Json) (s : String) :
    firstText (documents ++ [.string s]) =
      if firstText documents = "" then s else firstText documents := by
  induction documents with
  | nil =>
    simp only [List.nil_append, firstText, if_true]
    split
    · next nothing => exact nothing.symm
    · rfl
  | cons v rest ih =>
    cases v with
    | string x =>
      simp only [List.cons_append, firstText, ih]
      by_cases nothing : x = "" <;> simp [nothing]
    | _ => exact ih

theorem eq_empty_of_firstText {documents : List Json} {s : String}
    (nothing : firstText documents = "") (inside : .string s ∈ documents) : s = "" := by
  induction documents with
  | nil => cases inside
  | cons v rest ih =>
    rcases List.mem_cons.1 inside with rfl | later
    · rw [firstText] at nothing
      split at nothing
      · next empty => exact empty
      · next some => exact absurd nothing some
    · refine ih ?_ later
      cases v with
      | string x =>
        rw [firstText] at nothing
        split at nothing
        · exact nothing
        · next some => exact absurd nothing some
      | _ => exact nothing

end Json

namespace Json

def member (key : String) : Json → Option Json
  | .object members => members.lookup key
  | _ => none

section
variable {v w : Json} {key : String}

theorem Distinct.member (h : v.Distinct) (found : v.member key = some w) : w.Distinct := by
  cases h with
  | object _ all => exact all _ (Members.mem_of_lookup found)
  | _ => cases found

theorem Distinct.element (h : v.Distinct) (inside : w ∈ v.elements) : w.Distinct := by
  cases h with
  | array all => exact all w inside
  | _ => cases inside

end

end Json

namespace Shape

open Json (elements firstText firstText_concat_string kind_ne_empty mem_present present
  present_append present_singleton)

section
variable {name : String} {documents : List Json} {t : Shape}

theorem reduce_seeds_concat {v : Json} :
    reduce (seeds name (documents ++ [v])) = .ok t ↔
      ∃ s, reduce (seeds name documents) = .ok s ∧ s.merge (ofJson name v) = .ok t := by
  rw [seeds, List.map_append, List.map_singleton, reduce_concat_eq_ok, seeds]

/-- Nulls make a shape optional and change nothing else. -/
theorem reduce_present (ok : reduce (seeds name documents) = .ok t) :
    reduce (seeds name (present documents)) = .ok t.bare ∧
      (t.isOptional = true ↔ .null ∈ documents) := by
  induction documents using List.reverseRecOn generalizing t with
  | nil =>
    rw [seeds, List.map_nil, reduce_nil] at ok
    cases ok
    exact ⟨rfl, by simp [isOptional, kind]⟩
  | append_singleton documents v ih =>
    obtain ⟨s, before, merged⟩ := reduce_seeds_concat.1 ok
    obtain ⟨reduced, bit⟩ := ih before
    have ws := wellFormed_reduce (wellFormed_seeds name documents) before
    have wv := wellFormed_ofJson name v
    have optional : t.isOptional = true ↔ .null ∈ documents ++ [v] := by
      rw [(merge_eq_ok ws wv merged).1, Bool.or_eq_true, bit, isOptional_ofJson, List.mem_append,
        List.mem_singleton, eq_comm]
    refine ⟨?_, optional⟩
    rw [present_append]
    by_cases none : v = .null
    -- A null at the end is dropped on the left, and on the right it changes no bare shape.
    · subst none
      rw [ofJson, merge_absent ws] at merged
      cases merged
      have dropped : present [.null] = [] := rfl
      rw [dropped, List.append_nil, bare_orAbsent]
      exact reduced
    · rw [present_singleton none, reduce_seeds_concat]
      exact ⟨s.bare, reduced, bare_merge_of_plain ws wv (isOptional_ofJson_of_ne name none) merged⟩

theorem kind_reduced (seen : ∀ v ∈ documents, v ≠ .null)
    (ok : reduce (seeds name documents) = .ok t) :
    t.isOptional = false ∧ (t.kind = .empty ↔ documents = []) ∧
      ∀ v ∈ documents, t.kind = v.kind := by
  induction documents using List.reverseRecOn generalizing t with
  | nil =>
    rw [seeds, List.map_nil, reduce_nil] at ok
    cases ok
    exact ⟨rfl, by simp [kind], List.forall_mem_nil _⟩
  | append_singleton documents v ih =>
    obtain ⟨s, before, merged⟩ := reduce_seeds_concat.1 ok
    obtain ⟨inFront, last⟩ := List.forall_mem_append.1 seen
    have plainLast := isOptional_ofJson_of_ne name (last v (List.mem_singleton_self v))
    obtain ⟨plain, nothing, kinds⟩ := ih inFront before
    have unites := unites_of_merge plain plainLast merged
    have ofLast : t.kind = v.kind := by
      rw [unites.kind_eq.2 (by simpa using kind_ne_empty v), kind_ofJson]
    have some : t.kind ≠ .empty := ofLast ▸ kind_ne_empty v
    refine ⟨unites.plain plain plainLast, by simp [some], fun other member => ?_⟩
    rcases List.mem_append.1 member with inside | inside
    · have before : s.kind ≠ .empty := fun none => by
        rw [nothing.1 none] at inside
        cases inside
      rw [unites.kind_eq.1 before, kinds other inside]
    · rw [List.mem_singleton.1 inside]
      exact ofLast

theorem reduced_eq_empty_iff (ok : reduce (seeds name documents) = .ok t) :
    t.kind = .empty ↔ documents = [] := by
  obtain ⟨reduced, bit⟩ := reduce_present ok
  constructor
  · intro nothing
    -- A null would have made the shape optional.
    have all : ∀ v ∈ documents, v ≠ .null := by
      rintro v inside rfl
      rw [← bit, isOptional, nothing] at inside
      cases inside
    exact (kind_reduced all ok).2.1.1 nothing
  · rintro rfl
    cases ok
    rfl

/-- One document more: it is the first one, or it is merged into a shape of its own kind. -/
theorem reduced_cases {v : Json} (seen : ∀ w ∈ documents ++ [v], w ≠ .null)
    (ok : reduce (seeds name (documents ++ [v])) = .ok t) :
    t.kind = v.kind ∧ (documents = [] ∧ t = ofJson name v ∨
      ∃ s, reduce (seeds name documents) = .ok s ∧ s.kind = v.kind ∧
        Unites s (ofJson name v) t) := by
  obtain ⟨_, _, kinds⟩ := kind_reduced seen ok
  obtain ⟨s, before, merged⟩ := reduce_seeds_concat.1 ok
  obtain ⟨inFront, last⟩ := List.forall_mem_append.1 seen
  have plainLast := isOptional_ofJson_of_ne name (last v (List.mem_singleton_self v))
  obtain ⟨plain, nothing, _⟩ := kind_reduced inFront before
  have ofLast : t.kind = v.kind := kinds v (by simp)
  refine ⟨ofLast, ?_⟩
  by_cases first : s.kind = .empty
  · left
    rw [eq_empty_of_kind first, empty_merge] at merged
    cases merged
    exact ⟨nothing.1 first, rfl⟩
  · right
    have unites := unites_of_merge plain plainLast merged
    exact ⟨s, before, (unites.kind_eq.1 first).symm.trans ofLast, unites⟩

theorem reduced_number {kind : NumberKind} (seen : ∀ v ∈ documents, v ≠ .null)
    (ok : reduce (seeds name documents) = .ok (number kind)) :
    kind = .double ↔ ∃ x, .number (.double x) ∈ documents := by
  induction documents using List.reverseRecOn generalizing kind with
  | nil => cases ok
  | append_singleton documents v ih =>
    obtain ⟨same, first | ⟨s, before, sameBefore, unites⟩⟩ := reduced_cases seen ok
    · obtain ⟨rfl, single⟩ := first
      cases v with
      | number value =>
        rw [ofJson] at single
        cases single
        cases value <;> simp [Json.Number.kind]
      | _ => cases same
    · cases v with
      | number value =>
        rw [ofJson] at unites
        cases unites with
        | emptyLeft => cases sameBefore
        | number x =>
          have inFront := fun v member => seen v (List.mem_append_left _ member)
          simp only [List.mem_append, List.mem_singleton, exists_or, ← ih inFront before]
          cases x <;> cases value <;> simp [Json.Number.kind, NumberKind.widen]
      | _ => cases same

theorem reduced_bool {sample : Bool} (seen : ∀ v ∈ documents, v ≠ .null)
    (ok : reduce (seeds name documents) = .ok (bool sample)) :
    sample = true ↔ .bool false ∉ documents := by
  induction documents using List.reverseRecOn generalizing sample with
  | nil => cases ok
  | append_singleton documents v ih =>
    obtain ⟨same, first | ⟨s, before, sameBefore, unites⟩⟩ := reduced_cases seen ok
    · obtain ⟨rfl, single⟩ := first
      cases v with
      | bool value =>
        rw [ofJson] at single
        cases single
        cases sample <;> simp
      | _ => cases same
    · cases v with
      | bool value =>
        rw [ofJson] at unites
        cases unites with
        | emptyLeft => cases sameBefore
        | bool x =>
          have inFront := fun v member => seen v (List.mem_append_left _ member)
          rw [Bool.and_eq_true, ih inFront before]
          cases value <;> simp
      | _ => cases same

theorem reduced_text {sample : String} (seen : ∀ v ∈ documents, v ≠ .null)
    (ok : reduce (seeds name documents) = .ok (text sample)) : sample = firstText documents := by
  induction documents using List.reverseRecOn generalizing sample with
  | nil => cases ok
  | append_singleton documents v ih =>
    obtain ⟨same, first | ⟨s, before, sameBefore, unites⟩⟩ := reduced_cases seen ok
    · obtain ⟨rfl, single⟩ := first
      cases v with
      | string value =>
        rw [ofJson] at single
        cases single
        rw [firstText_concat_string]
        rfl
      | _ => cases same
    · cases v with
      | string value =>
        rw [ofJson] at unites
        cases unites with
        | emptyLeft => cases sameBefore
        | text x =>
          have inFront := fun v member => seen v (List.mem_append_left _ member)
          rw [firstText_concat_string, ← ih inFront before]
      | _ => cases same

theorem reduced_object {n : String} {fields : Fields} (seen : ∀ v ∈ documents, v ≠ .null)
    (ok : reduce (seeds name documents) = .ok (object n fields)) (key : String) :
    (key ∈ Members.keys fields ↔ ∃ v ∈ documents, (v.member key).isSome = true) ∧
      reduce (seeds key (documents.map fun v => (v.member key).getD .null)) =
        .ok (entry fields key) := by
  induction documents using List.reverseRecOn generalizing n fields with
  | nil => cases ok
  | append_singleton documents v ih =>
    have known (members : Members Json) : key ∈ Members.keys (members.map fun member =>
        (member.1, ofJson member.1 member.2)) ↔ (members.lookup key).isSome = true := by
      rw [← Members.isSome_lookup, Members.lookup_map, Option.isSome_map]
    obtain ⟨same, first | ⟨s, before, sameBefore, unites⟩⟩ := reduced_cases seen ok
    · obtain ⟨rfl, single⟩ := first
      cases v with
      | object members =>
        rw [ofJson_object] at single
        cases single
        refine ⟨by simpa [Json.member] using known members, ?_⟩
        simp only [List.nil_append, List.map_singleton, seeds, reduce_singleton, entry_ofJson,
          Json.member]
      | _ => cases same
    · cases v with
      | object members =>
        have ws := wellFormed_reduce (wellFormed_seeds name documents) before
        have wv := wellFormed_ofJson name (.object members)
        rw [ofJson_object] at unites wv
        cases unites with
        | emptyLeft => cases sameBefore
        | object _ shared =>
          have inFront := fun v member => seen v (List.mem_append_left _ member)
          obtain ⟨keys, reduced⟩ := ih inFront before
          -- Two objects merge key by key, so one more document is one more merge at each key.
          refine ⟨?_, ?_⟩
          · rw [mem_keys_merged shared, keys, known members]
            simp [Json.member, or_and_right, exists_or]
          · rw [List.map_append, List.map_singleton, reduce_seeds_concat]
            refine ⟨_, reduced, ?_⟩
            rw [Json.member, ← entry_ofJson]
            exact entry_merged (wellFormed_object.1 ws) (wellFormed_object.1 wv) shared key
      | _ => cases same

/-- One array keeps the shapes of its elements. Of several arrays all elements reduce together. -/
theorem reduced_array {n : String} {values : List Shape} (seen : ∀ v ∈ documents, v ≠ .null)
    (ok : reduce (seeds name documents) = .ok (array n values)) :
    n = name ∧ ((∃ es, documents = [.array es] ∧ values = es.map (ofJson name)) ∨
      2 ≤ documents.length ∧ ∃ element,
        reduce (seeds name (documents.flatMap elements)) = .ok element ∧
          values = element.asValues) := by
  induction documents using List.reverseRecOn generalizing n values with
  | nil => cases ok
  | append_singleton documents v ih =>
    obtain ⟨same, first | ⟨s, before, sameBefore, unites⟩⟩ := reduced_cases seen ok
    · obtain ⟨rfl, single⟩ := first
      cases v with
      | array es =>
        rw [ofJson_array] at single
        cases single
        exact ⟨rfl, .inl ⟨es, rfl, rfl⟩⟩
      | _ => cases same
    · cases v with
      | array es =>
        rw [ofJson_array] at unites
        cases unites with
        | emptyLeft => cases sameBefore
        | @array _ left _ element folded =>
          have inFront := fun v member => seen v (List.mem_append_left _ member)
          obtain ⟨_, before⟩ := ih inFront before
          have pool : (documents ++ [Json.array es]).flatMap elements =
              documents.flatMap elements ++ es := by
            simp [elements]
          refine ⟨rfl, .inr ?_⟩
          rw [pool, seeds, List.map_append]
          -- The elements before are merged already, unless they are those of a single array.
          rcases before with ⟨front, rfl, rfl⟩ | ⟨several, u, reduced, rfl⟩
          · refine ⟨Nat.le_refl 2, element, ?_, rfl⟩
            simpa [reduce_eq_ok, elements] using folded
          · rw [mergeOnto_asValues] at folded
            refine ⟨?_, element, reduce_append_eq_ok.2 ⟨u, reduced, folded⟩, rfl⟩
            rw [List.length_append]
            exact Nat.le_add_right_of_le several
      | _ => cases same

end

end Shape

end ShapeInference
