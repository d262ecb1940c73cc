import ShapeInference.Proofs.Json.Strings

/-! Values are told by the text that they start.

The first character of a compact text tells the kind of its value, and the text also tells where the
value ends. Only a number does not, as more digits may follow it.
-/

set_option autoImplicit false

namespace ShapeInference.Json

inductive Numberless : Json → Prop where
  | null : Numberless .null
  | bool (value : Bool) : Numberless (.bool value)
  | string (value : String) : Numberless (.string value)
  | array {elements : List Json} : (∀ element ∈ elements, Numberless element) →
      Numberless (.array elements)
  | object {members : Members Json} : (∀ member ∈ members, Numberless member.2) →
      Numberless (.object members)

def Determined (x : Json) : Prop :=
  ∀ y left right, y.Numberless → compactChars x ++ left = compactChars y ++ right →
    x = y ∧ left = right

def mark : Json → Char
  | .null => 'n'
  | .bool true => 't'
  | .bool false => 'f'
  | .number _ => '0'
  | .string _ => '"'
  | .array _ => '['
  | .object _ => '{'

section
variable {x y : Json} {left right : List Char}

theorem Numberless.exists_mark (h : x.Numberless) :
    ∃ rest, compactChars x = x.mark :: rest := by
  cases h with
  | null => exact ⟨_, rfl⟩
  | bool value => cases value <;> exact ⟨_, rfl⟩
  | string value => exact ⟨_, rfl⟩
  | @array elements _ =>
    cases elements with
    | nil => exact ⟨_, rfl⟩
    | cons element rest => exact ⟨_, by rw [compactChars, mark]⟩
  | @object members _ =>
    cases members with
    | nil => exact ⟨_, rfl⟩
    | cons member rest => exact ⟨_, by rw [compactChars, mark]⟩

theorem Numberless.mark_eq (first : x.Numberless) (second : y.Numberless)
    (same : compactChars x ++ left = compactChars y ++ right) : x.mark = y.mark := by
  obtain ⟨rest, whole⟩ := first.exists_mark
  obtain ⟨rest', whole'⟩ := second.exists_mark
  rw [whole, whole'] at same
  exact (List.cons.inj same).1

theorem Numberless.ne_bracket (h : x.Numberless) : compactChars x ++ left ≠ ']' :: right := by
  intro same
  obtain ⟨rest, whole⟩ := h.exists_mark
  rw [whole] at same
  have start := (List.cons.inj same).1
  cases h with
  | bool value => cases value <;> simp [mark] at start
  | _ => simp [mark] at start

theorem compactElements_append_inj {xs ys : List Json} (each : ∀ x ∈ xs, Determined x)
    (numberless : ∀ y ∈ ys, y.Numberless)
    (same : compactElements xs ++ left = compactElements ys ++ right) :
    xs = ys ∧ left = right := by
  induction xs generalizing ys with
  | nil =>
    cases ys with
    | nil => exact ⟨rfl, (List.cons.inj same).2⟩
    | cons y ys => exact absurd (List.cons.inj same).1 (by decide)
  | cons x xs ih =>
    cases ys with
    | nil => exact absurd (List.cons.inj same).1 (by decide)
    | cons y ys =>
      rw [List.forall_mem_cons] at each numberless
      have behind := (List.cons.inj same).2
      simp only [List.append_eq, List.append_assoc] at behind
      obtain ⟨rfl, others⟩ := each.1 y _ _ numberless.1 behind
      obtain ⟨rfl, rest⟩ := ih each.2 numberless.2 others
      exact ⟨rfl, rest⟩

theorem compactMembers_append_inj {xs ys : Members Json}
    (each : ∀ member ∈ xs, Determined member.2) (numberless : ∀ member ∈ ys, member.2.Numberless)
    (same : compactMembers xs ++ left = compactMembers ys ++ right) : xs = ys ∧ left = right := by
  induction xs generalizing ys with
  | nil =>
    cases ys with
    | nil => exact ⟨rfl, (List.cons.inj same).2⟩
    | cons member ys => exact absurd (List.cons.inj same).1 (by decide)
  | cons member xs ih =>
    obtain ⟨key, x⟩ := member
    cases ys with
    | nil => exact absurd (List.cons.inj same).1 (by decide)
    | cons member ys =>
      obtain ⟨key', y⟩ := member
      rw [List.forall_mem_cons] at each numberless
      have behind := (List.cons.inj same).2
      simp only [List.append_eq, List.append_assoc, List.cons_append] at behind
      obtain ⟨rfl, value⟩ := stringChars_append_inj behind
      obtain ⟨rfl, others⟩ := each.1 y _ _ numberless.1 (List.cons.inj value).2
      obtain ⟨rfl, rest⟩ := ih each.2 numberless.2 others
      exact ⟨rfl, rest⟩

theorem Determined.array {elements : List Json} (inside : ∀ x ∈ elements, x.Numberless)
    (each : ∀ x ∈ elements, Determined x) : Determined (.array elements) := by
  intro y left right numberless same
  have marks := (Numberless.array inside).mark_eq numberless same
  cases numberless with
  | @array others inside' =>
    cases elements with
    | nil =>
      cases others with
      | nil => exact ⟨rfl, List.append_cancel_left same⟩
      | cons y others =>
        rw [List.forall_mem_cons] at inside'
        simp only [compactChars, List.cons_append, List.nil_append, List.append_assoc] at same
        exact absurd (List.cons.inj same).2.symm inside'.1.ne_bracket
    | cons x elements =>
      rw [List.forall_mem_cons] at inside each
      cases others with
      | nil =>
        simp only [compactChars, List.cons_append, List.nil_append, List.append_assoc] at same
        exact absurd (List.cons.inj same).2 inside.1.ne_bracket
      | cons y others =>
        rw [List.forall_mem_cons] at inside'
        simp only [compactChars, List.cons_append, List.append_assoc] at same
        obtain ⟨rfl, later⟩ := each.1 y _ _ inside'.1 (List.cons.inj same).2
        obtain ⟨rfl, rest⟩ := compactElements_append_inj each.2 inside'.2 later
        exact ⟨rfl, rest⟩
  | bool other => cases other <;> simp [mark] at marks
  | _ => simp [mark] at marks

theorem Determined.object {members : Members Json}
    (inside : ∀ member ∈ members, member.2.Numberless)
    (each : ∀ member ∈ members, Determined member.2) : Determined (.object members) := by
  intro y left right numberless same
  have marks := (Numberless.object inside).mark_eq numberless same
  cases numberless with
  | @object others inside' =>
    cases members with
    | nil =>
      cases others with
      | nil => exact ⟨rfl, List.append_cancel_left same⟩
      | cons other others =>
        rw [compactChars, compactChars] at same
        exact absurd (List.cons.inj (List.cons.inj same).2).1 (by decide)
    | cons member members =>
      obtain ⟨key, x⟩ := member
      rw [List.forall_mem_cons] at each
      cases others with
      | nil =>
        rw [compactChars, compactChars] at same
        exact absurd (List.cons.inj (List.cons.inj same).2).1 (by decide)
      | cons other others =>
        obtain ⟨key', y⟩ := other
        rw [List.forall_mem_cons] at inside'
        simp only [compactChars, List.cons_append, List.append_assoc] at same
        obtain ⟨rfl, value⟩ := stringChars_append_inj (List.cons.inj same).2
        obtain ⟨rfl, later⟩ := each.1 y _ _ inside'.1 (List.cons.inj value).2
        obtain ⟨rfl, rest⟩ := compactMembers_append_inj each.2 inside'.2 later
        exact ⟨rfl, rest⟩
  | bool other => cases other <;> simp [mark] at marks
  | _ => simp [mark] at marks

theorem Numberless.determined (h : x.Numberless) : Determined x := by
  induction h with
  | null =>
    intro y left right numberless same
    have marks := Numberless.null.mark_eq numberless same
    cases numberless with
    | null => exact ⟨rfl, List.append_cancel_left same⟩
    | bool value => cases value <;> simp [mark] at marks
    | _ => simp [mark] at marks
  | bool value =>
    intro y left right numberless same
    have marks := (Numberless.bool value).mark_eq numberless same
    cases numberless with
    | bool other =>
      have values : value = other := by cases value <;> cases other <;> simp [mark] at marks ⊢
      cases values
      exact ⟨rfl, List.append_cancel_left same⟩
    | _ => cases value <;> simp [mark] at marks
  | string value =>
    intro y left right numberless same
    have marks := (Numberless.string value).mark_eq numberless same
    cases numberless with
    | string other =>
      obtain ⟨rfl, rest⟩ := stringChars_append_inj same
      exact ⟨rfl, rest⟩
    | bool other => cases other <;> simp [mark] at marks
    | _ => simp [mark] at marks
  | array inside each => exact .array inside each
  | object inside each => exact .object inside each

end

end ShapeInference.Json
