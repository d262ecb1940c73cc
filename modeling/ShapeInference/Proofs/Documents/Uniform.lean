import ShapeInference.Proofs.Documents.Literals
import ShapeInference.Proofs.Documents.Pooled

/-! Documents that may be merged before they are refined.

Refining turns texts into other leaves, and it leaves alone what stands below an optional. Arrays
that have no second one beside them are refined before their elements meet, and a merge begins with
its optional side if there is only one. So the rows of `[["a"], [null, "b"]]` keep `b` if they are
refined first, and `a` if all their elements are merged. Values are uniform if none of this matters.
-/

set_option autoImplicit false

namespace ShapeInference

namespace Json

open Literal (promoted)

inductive Descent where
  | member (key : String)
  | element

def Descent.below : Descent → List Json → List Json
  | .member key, vs => column key vs
  | .element, vs => vs.flatMap elements

def along : List Descent → List Json → List Json
  | [], vs => vs
  | step :: path, vs => along path (step.below vs)

def keyOrder (vs : List Json) : List String := (vs.flatMap keys).eraseDups

/-- A value that stays what it is when it is refined. -/
def Still : Json → Prop
  | .string s => promoted s = .text s
  | v => v.isScalar = true

/-- At every path the first text becomes the same leaf, and keys first come in the same order. -/
def SameFirst (vs ws : List Json) : Prop :=
  ∀ path, promoted (firstText (along path vs)) = promoted (firstText (along path ws)) ∧
    keyOrder (along path vs) = keyOrder (along path ws)

def Interchangeable (front back : List Json) : Prop := SameFirst (front ++ back) (back ++ front)

/-- What is null or missing behind but not in front would come first there, so nothing may depend
on the order. -/
def Steady (front back : List Json) : Prop :=
  ∀ path, .null ∈ along path back → .null ∈ along path front ∨
    Interchangeable (along path front) (along path back)

inductive Orderly : Json → Prop where
  | scalar {v : Json} : v.isScalar = true → Orderly v
  | array {es : List Json} : (∀ front e back, es = front ++ e :: back → Steady front [e]) →
      (∀ e ∈ es, Orderly e) → Orderly (.array es)
  | object {members : Members Json} : (∀ key v, members.lookup key = some v → Orderly v) →
      Orderly (.object members)

/-- Values of which it does not matter whether they are merged or refined first. -/
structure Uniform (r : Refinement) (vs : List Json) : Prop where
  -- Two URLs merge, two dates of one format, and two texts that are neither.
  alike : ∀ path s s', .string s ∈ along path vs → .string s' ∈ along path vs →
    ∃ t, (promoted s).merge (promoted s') = .ok t
  -- Nothing below an optional would be refined.
  still : r.throughOptionals = true ∨
    ∀ path, .null ∈ along path vs → ∀ v ∈ along path vs, v.Still
  orderly : ∀ v ∈ vs, v.Orderly

section
variable {vs ws front back : List Json}

/-! What stands below values. -/

theorem present_subset (inside : vs ⊆ ws) : present vs ⊆ present ws :=
  List.filter_subset _ inside

theorem Descent.below_subset (step : Descent) (inside : vs ⊆ ws) :
    step.below vs ⊆ step.below ws := by
  cases step with
  | member key => exact List.map_subset _ (present_subset inside)
  | element =>
    intro v member
    obtain ⟨w, known, below⟩ := List.mem_flatMap.1 member
    exact List.mem_flatMap.2 ⟨w, inside known, below⟩

theorem Descent.below_append (step : Descent) (vs ws : List Json) :
    step.below (vs ++ ws) = step.below vs ++ step.below ws := by
  cases step with
  | member key => exact column_append
  | element => exact List.flatMap_append

theorem present_present : present (present vs) = present vs := by
  simp [present]

theorem Descent.below_present (step : Descent) (vs : List Json) :
    step.below (present vs) = step.below vs := by
  cases step with
  | member key => rw [below, column, present_present, below, column]
  | element => exact flatMap_elements_present

theorem along_subset (inside : vs ⊆ ws) (path : List Descent) : along path vs ⊆ along path ws := by
  induction path generalizing vs ws with
  | nil => exact inside
  | cons step path ih => exact ih (step.below_subset inside)

theorem along_append (path : List Descent) (vs ws : List Json) :
    along path (vs ++ ws) = along path vs ++ along path ws := by
  induction path generalizing vs ws with
  | nil => rfl
  | cons step path ih => rw [along, along, along, step.below_append, ih]

theorem along_path_append (path rest : List Descent) (vs : List Json) :
    along (path ++ rest) vs = along rest (along path vs) := by
  induction path generalizing vs with
  | nil => rfl
  | cons step path ih => exact ih _

theorem along_cons_present (step : Descent) (path : List Descent) (vs : List Json) :
    along (step :: path) (present vs) = along (step :: path) vs := by
  rw [along, step.below_present, ← along]

/-! First literals and the order of keys. -/

theorem firstText_append (front back : List Json) : firstText (front ++ back) =
    if firstText front = "" then firstText back else firstText front := by
  induction front with
  | nil => simp [firstText]
  | cons v rest ih =>
    cases v with
    | string s =>
      simp only [List.cons_append, firstText, ih]
      by_cases nothing : s = "" <;> simp [nothing]
    | _ => exact ih

theorem firstText_append_of_subset (inside : back ⊆ front) :
    firstText (front ++ back) = firstText front := by
  rw [firstText_append]
  split
  · next nothing =>
    -- All texts in front are empty, and so are those behind.
    by_cases none : firstText back = ""
    · rw [none, nothing]
    · exact absurd (eq_empty_of_firstText nothing (inside (string_firstText_mem none))) none
  · rfl

theorem keyOrder_present (vs : List Json) : keyOrder (present vs) = keyOrder vs := by
  rw [keyOrder, flatMap_present rfl, ← keyOrder]

theorem keyOrder_append_of_subset (inside : back ⊆ front) :
    keyOrder (front ++ back) = keyOrder front := by
  have old : (back.flatMap keys).removeAll (front.flatMap keys) = [] := by
    rw [List.removeAll, List.filter_eq_nil_iff]
    intro key member
    obtain ⟨v, known, own⟩ := List.mem_flatMap.1 member
    simpa using List.mem_flatMap.2 ⟨v, inside known, own⟩
  rw [keyOrder, List.flatMap_append, List.eraseDups_append, old, List.eraseDups_nil,
    List.append_nil, ← keyOrder]

theorem SameFirst.below (h : SameFirst vs ws) (step : Descent) :
    SameFirst (step.below vs) (step.below ws) := fun path => h (step :: path)

theorem SameFirst.present (h : SameFirst vs ws) : SameFirst (present vs) (present ws) := by
  intro path
  cases path with
  | nil =>
    rw [along, along, firstText_present, firstText_present, keyOrder_present, keyOrder_present]
    exact h []
  | cons step path =>
    rw [along_cons_present, along_cons_present]
    exact h (step :: path)

theorem sameFirst_of_subset (inside : back ⊆ front) : SameFirst (front ++ back) front := by
  intro path
  have below := along_subset inside path
  rw [along_append, firstText_append_of_subset below, keyOrder_append_of_subset below]
  exact ⟨rfl, rfl⟩

theorem SameFirst.symm (h : SameFirst vs ws) : SameFirst ws vs :=
  fun path => (h path).imp Eq.symm Eq.symm

theorem Interchangeable.present (h : Interchangeable front back) :
    Interchangeable (present front) (present back) := by
  rw [Interchangeable, ← present_append, ← present_append]
  exact SameFirst.present h

theorem Interchangeable.steady (h : Interchangeable front back) : Steady front back := by
  intro path _
  refine .inr fun rest => ?_
  rw [← along_append, ← along_append, ← along_path_append, ← along_path_append]
  exact h (path ++ rest)

theorem Steady.below (h : Steady front back) (step : Descent) :
    Steady (step.below front) (step.below back) := fun path => h (step :: path)

theorem Steady.present (h : Steady front back) : Steady (present front) (present back) := by
  intro path null
  cases path with
  | nil => exact absurd rfl (mem_present.1 null).2
  | cons step path =>
    rw [along_cons_present] at null ⊢
    rw [along_cons_present]
    exact h (step :: path) null

/-! Uniform values. -/

theorem Orderly.element {v e : Json} (h : v.Orderly) (inside : e ∈ v.elements) : e.Orderly := by
  cases h with
  | scalar scalar =>
    cases v with
    | array => cases scalar
    | _ => cases inside
  | array _ all => exact all e inside
  | object => cases inside

theorem Orderly.member {v : Json} (h : v.Orderly) (key : String) :
    ((v.member key).getD .null).Orderly := by
  cases found : v.member key with
  | none => exact .scalar rfl
  | some w =>
    cases h with
    | scalar scalar =>
      cases v with
      | object => cases scalar
      | _ => cases found
    | array => cases found
    | object all => exact all key w found

theorem Orderly.steady {es : List Json} (h : (Json.array es).Orderly) {front back : List Json}
    {e : Json} (split : es = front ++ e :: back) : Steady front [e] := by
  cases h with
  | scalar scalar => cases scalar
  | array steady _ => exact steady front e back split

variable {r : Refinement}

theorem Uniform.mono (h : Uniform r ws) (inside : vs ⊆ ws) : Uniform r vs where
  alike path s s' known known' :=
    h.alike path s s' (along_subset inside path known) (along_subset inside path known')
  still := h.still.imp_right fun still path null v known =>
    still path (along_subset inside path null) v (along_subset inside path known)
  orderly v known := h.orderly v (inside known)

theorem Uniform.below (h : Uniform r vs) (step : Descent) : Uniform r (step.below vs) where
  alike path := h.alike (step :: path)
  still := h.still.imp_right fun still path => still (step :: path)
  orderly v inside := by
    cases step with
    | member key =>
      obtain ⟨w, known, rfl⟩ := List.mem_map.1 inside
      exact (h.orderly w (mem_present.1 known).1).member key
    | element =>
      obtain ⟨w, known, own⟩ := List.mem_flatMap.1 inside
      exact (h.orderly w known).element own

/-! Rows of dates. -/

def DateOrNull (format : DateFormat) (v : Json) : Prop :=
  v = .null ∨ ∃ s, v = .string s ∧ promoted s = .date format

def RowOfDates (format : DateFormat) (v : Json) : Prop :=
  ∃ row, v = .array row ∧ ∀ w ∈ row, w.DateOrNull format

section
variable {format : DateFormat}

theorem along_of_absent (nothing : present vs = []) (path : List Descent) :
    present (along path vs) = [] := by
  induction path generalizing vs with
  | nil => exact nothing
  | cons step path ih =>
    apply ih
    rw [← step.below_present, nothing]
    cases step <;> rfl

theorem column_of_no_object (none : ∀ v ∈ vs, v.kind ≠ .object) (key : String) :
    present (column key vs) = [] := by
  rw [present_eq_nil]
  intro w inside
  obtain ⟨v, member, rfl⟩ := List.mem_map.1 inside
  have kind := none v (mem_present.1 member).1
  cases v with
  | object => exact absurd rfl kind
  | _ => rfl

theorem DateOrNull.isScalar {v : Json} (h : v.DateOrNull format) : v.isScalar = true := by
  rcases h with rfl | ⟨s, rfl, _⟩ <;> rfl

theorem along_of_scalars (scalars : ∀ v ∈ vs, v.isScalar = true) (step : Descent)
    (path : List Descent) : present (along (step :: path) vs) = [] := by
  refine along_of_absent ?_ path
  cases step with
  | member key =>
    refine column_of_no_object (fun v inside object => ?_) key
    have scalar := scalars v inside
    cases v with
    | object => cases scalar
    | _ => cases object
  | element =>
    have nothing : vs.flatMap elements = [] := by
      rw [List.flatMap_eq_nil_iff]
      intro v inside
      have scalar := scalars v inside
      cases v with
      | array => cases scalar
      | _ => rfl
    rw [Descent.below, nothing]
    rfl

theorem promoted_firstText (dates : ∀ v ∈ vs, v.DateOrNull format) (some : present vs ≠ []) :
    promoted (firstText vs) = .date format := by
  induction vs with
  | nil => exact absurd rfl some
  | cons v rest ih =>
    obtain ⟨first, later⟩ := List.forall_mem_cons.1 dates
    rcases first with rfl | ⟨s, rfl, date⟩
    · exact ih later some
    · have text : s ≠ "" := by
        rintro rfl
        rw [Literal.promoted_empty] at date
        cases date
      rw [firstText, if_neg text, date]

theorem keyOrder_of_no_object (none : ∀ v ∈ vs, v.kind ≠ .object) : keyOrder vs = [] := by
  have nothing : vs.flatMap keys = [] := by
    rw [List.flatMap_eq_nil_iff]
    intro v inside
    have kind := none v inside
    cases v with
    | object => exact absurd rfl kind
    | _ => rfl
  rw [keyOrder, nothing]
  rfl

theorem DateOrNull.kind_ne {v : Json} (h : v.DateOrNull format) : v.kind ≠ .object := by
  rcases h with rfl | ⟨s, rfl, _⟩ <;> simp [kind]

theorem RowOfDates.kind_eq {v : Json} (h : v.RowOfDates format) : v.kind = .array := by
  obtain ⟨row, rfl, _⟩ := h
  rfl

theorem RowOfDates.elements (rows : ∀ v ∈ vs, v.RowOfDates format) :
    ∀ w ∈ vs.flatMap Json.elements, w.DateOrNull format := by
  intro w inside
  obtain ⟨v, known, own⟩ := List.mem_flatMap.1 inside
  obtain ⟨row, rfl, dates⟩ := rows v known
  exact dates w own

theorem first_of_absent (nothing : present vs = []) : firstText vs = "" ∧ keyOrder vs = [] := by
  rw [← firstText_present, ← keyOrder_present, nothing]
  exact ⟨rfl, rfl⟩

theorem interchangeable_dates (inFront : ∀ v ∈ front, v.DateOrNull format)
    (inBack : ∀ v ∈ back, v.DateOrNull format) : Interchangeable front back := by
  have forward := List.forall_mem_append.2 ⟨inFront, inBack⟩
  have backward := List.forall_mem_append.2 ⟨inBack, inFront⟩
  intro path
  cases path with
  | nil =>
    rw [along, along, keyOrder_of_no_object fun v inside => (forward v inside).kind_ne,
      keyOrder_of_no_object fun v inside => (backward v inside).kind_ne]
    refine ⟨?_, rfl⟩
    have turned : Json.present (back ++ front) = [] ↔ Json.present (front ++ back) = [] := by
      rw [present_append, present_append, List.append_eq_nil_iff, List.append_eq_nil_iff, and_comm]
    by_cases nothing : Json.present (front ++ back) = []
    · rw [(first_of_absent nothing).1, (first_of_absent (turned.2 nothing)).1]
    · rw [promoted_firstText forward nothing,
        promoted_firstText backward fun none => nothing (turned.1 none)]
  | cons step path =>
    have first := first_of_absent
      (along_of_scalars (fun v inside => (forward v inside).isScalar) step path)
    have first' := first_of_absent
      (along_of_scalars (fun v inside => (backward v inside).isScalar) step path)
    rw [first.1, first'.1, first.2, first'.2]
    exact ⟨rfl, rfl⟩

theorem firstText_of_no_text (none : ∀ v ∈ vs, v.kind ≠ .text) : firstText vs = "" := by
  refine Classical.byContradiction fun some => ?_
  exact none _ (string_firstText_mem some) rfl

theorem interchangeable_rows (inFront : ∀ v ∈ front, v.RowOfDates format)
    (inBack : ∀ v ∈ back, v.RowOfDates format) : Interchangeable front back := by
  have forward := List.forall_mem_append.2 ⟨inFront, inBack⟩
  have backward := List.forall_mem_append.2 ⟨inBack, inFront⟩
  have other {v : Json} {kind : Kind} (row : v.RowOfDates format) (different : kind ≠ .array) :
      v.kind ≠ kind := fun same => different (same.symm.trans row.kind_eq)
  intro path
  match path with
  | [] =>
    rw [along, along,
      firstText_of_no_text fun v inside => other (forward v inside) (by decide),
      firstText_of_no_text fun v inside => other (backward v inside) (by decide),
      keyOrder_of_no_object fun v inside => other (forward v inside) (by decide),
      keyOrder_of_no_object fun v inside => other (backward v inside) (by decide)]
    exact ⟨rfl, rfl⟩
  | .member key :: path =>
    have nothing {vs : List Json} (rows : ∀ v ∈ vs, v.RowOfDates format) :=
      first_of_absent (along_of_absent
        (column_of_no_object (fun v inside => other (rows v inside) (by decide)) key) path)
    rw [along, along, Descent.below, Descent.below, (nothing forward).1, (nothing backward).1,
      (nothing forward).2, (nothing backward).2]
    exact ⟨rfl, rfl⟩
  | .element :: path =>
    have inner := interchangeable_dates (RowOfDates.elements inFront)
      (RowOfDates.elements inBack) path
    rw [along, along, Descent.below, Descent.below, List.flatMap_append, List.flatMap_append]
    exact inner

theorem date_of_along_rows (rows : ∀ v ∈ vs, v.RowOfDates format) {path : List Descent} {s : String}
    (inside : .string s ∈ along path vs) : promoted s = .date format := by
  have seen {ws : List Json} (nothing : present ws = []) : .string s ∉ ws := fun known => by
    cases present_eq_nil.1 nothing _ known
  match path with
  | [] =>
    obtain ⟨row, same, _⟩ := rows _ inside
    cases same
  | .member key :: path =>
    have nothing : present (column key vs) = [] := column_of_no_object (fun v known object =>
      absurd (object.symm.trans (rows v known).kind_eq) (by decide)) key
    exact absurd inside (seen (along_of_absent nothing path))
  | [.element] =>
    rcases RowOfDates.elements rows _ inside with same | ⟨_, same, date⟩
    · cases same
    · cases same
      exact date
  | .element :: step :: path =>
    have scalars := fun v known => (RowOfDates.elements rows v known).isScalar
    exact absurd inside (seen (along_of_scalars scalars step path))

theorem RowOfDates.orderly {v : Json} (h : v.RowOfDates format) : v.Orderly := by
  obtain ⟨row, rfl, dates⟩ := h
  refine .array (fun front e back split => ?_) fun w inside => .scalar (dates w inside).isScalar
  rw [split, List.forall_mem_append, List.forall_mem_cons] at dates
  exact (interchangeable_dates dates.1 (List.forall_mem_singleton.2 dates.2.1)).steady

theorem uniform_rows (rows : ∀ v ∈ vs, v.RowOfDates format)
    (through : r.throughOptionals = true) : Uniform r [.array vs] where
  alike path s s' inside inside' := by
    have date {s : String} (inside : .string s ∈ along path [.array vs]) :
        promoted s = .date format := by
      match path with
      | [] => cases List.mem_singleton.1 inside
      | .member key :: path =>
        have nothing : present (column key [.array vs]) = [] :=
          column_of_no_object (by simp [kind]) key
        cases present_eq_nil.1 (along_of_absent nothing path) _ inside
      | .element :: path =>
        rw [along, Descent.below, List.flatMap_singleton] at inside
        exact date_of_along_rows rows inside
    refine ⟨.date format, ?_⟩
    rw [date inside, date inside', Shape.date_merge_date, if_pos rfl]
  still := .inl through
  orderly := by
    rw [List.forall_mem_singleton]
    refine .array (fun front e back split => ?_) fun v inside => (rows v inside).orderly
    rw [split, List.forall_mem_append, List.forall_mem_cons] at rows
    exact (interchangeable_rows rows.1 (List.forall_mem_singleton.2 rows.2.1)).steady

end

end

end Json

end ShapeInference
