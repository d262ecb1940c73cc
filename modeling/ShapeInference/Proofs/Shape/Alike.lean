import Mathlib.Data.List.Forall2
import ShapeInference.Proofs.Shape.WellFormed

/-! Shapes that differ in no more than the literals of texts and URLs and the order of fields.

Alike shapes have the same type in the generated code. Two well-formed shapes are alike if their
bare shapes are and both or neither are optional, and two objects are if their entries are.
-/

set_option autoImplicit false

namespace ShapeInference.Shape

inductive Alike : Shape → Shape → Prop where
  | empty : Alike empty empty
  | absent : Alike absent absent
  | optional {a b : Shape} : Alike a b → Alike (optional a) (optional b)
  | bool (sample : Bool) : Alike (bool sample) (bool sample)
  | number (kind : NumberKind) : Alike (number kind) (number kind)
  | text (x y : String) : Alike (text x) (text y)
  | object (name : String) {left right : Fields} :
      (∀ key, key ∈ Members.keys left ↔ key ∈ Members.keys right) →
      (∀ key a b, left.lookup key = some a → right.lookup key = some b → Alike a b) →
      Alike (object name left) (object name right)
  | array (name : String) {left right : List Shape} : left.length = right.length →
      (∀ (i : Nat) (inLeft : i < left.length) (inRight : i < right.length),
        Alike left[i] right[i]) →
      Alike (array name left) (array name right)
  | url (x y : String) : Alike (url x) (url y)
  | date (format : DateFormat) : Alike (date format) (date format)

theorem alike_array {n m : String} {left right : List Shape} :
    Alike (array n left) (array m right) ↔ n = m ∧ List.Forall₂ Alike left right := by
  rw [List.forall₂_iff_get]
  constructor
  · intro h
    cases h with
    | array _ lengths elements => exact ⟨rfl, lengths, elements⟩
  · rintro ⟨rfl, lengths, elements⟩
    exact .array n lengths elements

@[refl] theorem Alike.refl (t : Shape) : Alike t t := by
  induction t with
  | empty => exact .empty
  | absent => exact .absent
  | optional inner ih => exact .optional ih
  | bool sample => exact .bool sample
  | number kind => exact .number kind
  | text sample => exact .text sample sample
  | object name fields ih =>
    refine .object name (fun _ => Iff.rfl) fun key a b left right => ?_
    cases left.symm.trans right
    exact ih _ (Members.mem_of_lookup left)
  | array name values ih => exact .array name rfl fun i inside _ => ih _ (List.getElem_mem inside)
  | url literal => exact .url literal literal
  | date format => exact .date format

theorem Alike.symm {a b : Shape} (h : Alike a b) : Alike b a := by
  induction h with
  | empty => exact .empty
  | absent => exact .absent
  | optional _ ih => exact .optional ih
  | bool sample => exact .bool sample
  | number kind => exact .number kind
  | text x y => exact .text y x
  | object name keys _ ih =>
    exact .object name (fun key => (keys key).symm) fun key b a right left => ih key a b left right
  | array name lengths _ ih =>
    exact .array name lengths.symm fun i inRight inLeft => ih i inLeft inRight
  | url x y => exact .url y x
  | date format => exact .date format

theorem Alike.trans {a b c : Shape} (h : Alike a b) (next : Alike b c) : Alike a c := by
  induction h generalizing c with
  | empty | absent | bool | number | date => exact next
  | optional _ ih =>
    cases next with
    | optional inner => exact .optional (ih inner)
  | text x _ =>
    cases next with
    | text _ z => exact .text x z
  | @object name left middle keys _ ih =>
    cases next with
    | object _ keysNext fields =>
      refine .object name (fun key => (keys key).trans (keysNext key)) fun key a c first last => ?_
      -- The object in the middle has the key as well.
      have known : key ∈ Members.keys middle := by
        rw [← keys key, ← Members.isSome_lookup, first, Option.isSome_some]
      obtain ⟨b, found⟩ := Option.isSome_iff_exists.1 (Members.isSome_lookup.2 known)
      exact ih key a b first found (fields key b c found last)
  | array name lengths _ ih =>
    cases next with
    | array _ lengthsNext elements =>
      refine .array name (lengths.trans lengthsNext) fun i first last => ?_
      have middle := lengths ▸ first
      exact ih i first middle (elements i middle last)
  | url x _ =>
    cases next with
    | url _ z => exact .url x z

theorem Alike.kind_eq {a b : Shape} (h : Alike a b) : a.kind = b.kind := by
  cases h <;> rfl

theorem Alike.isOptional_eq {a b : Shape} (h : Alike a b) : a.isOptional = b.isOptional := by
  rw [isOptional, isOptional, h.kind_eq]

theorem Alike.descriptor_eq {a b : Shape} (h : Alike a b) : a.descriptor = b.descriptor := by
  induction h with
  | empty | absent | bool | text | object | url | date => rfl
  | number kind => rfl
  | optional _ ih => simp only [descriptor, ih]
  | @array name left right lengths _ ih =>
    cases left with
    | nil =>
      rw [List.eq_nil_of_length_eq_zero lengths.symm]
    | cons a left =>
      cases right with
      | nil => cases lengths
      | cons b right =>
        have head := ih 0 (Nat.zero_lt_succ _) (Nat.zero_lt_succ _)
        simp only [List.getElem_cons_zero] at head
        simp only [descriptor, head]

section
variable {a b : Shape}

theorem Alike.bare (h : Alike a b) : Alike a.bare b.bare := by
  induction h with
  | optional _ ih => exact ih
  | absent => exact .empty
  | empty => exact .empty
  | bool sample => exact .bool sample
  | number kind => exact .number kind
  | text x y => exact .text x y
  | object name keys fields => exact .object name keys fields
  | array name lengths elements => exact .array name lengths elements
  | url x y => exact .url x y
  | date format => exact .date format

theorem Alike.orAbsent (h : Alike a b) : Alike a.orAbsent b.orAbsent := by
  cases h with
  | empty => exact .absent
  | absent => exact .absent
  | optional inner => exact .optional inner
  | bool sample => exact .optional (.bool sample)
  | number kind => exact .optional (.number kind)
  | text x y => exact .optional (.text x y)
  | object name keys fields => exact .optional (.object name keys fields)
  | array name lengths elements => exact .optional (.array name lengths elements)
  | url x y => exact .optional (.url x y)
  | date format => exact .optional (.date format)

theorem Alike.orAbsentIf (h : Alike a b) (flag : Bool) :
    Alike (a.orAbsentIf flag) (b.orAbsentIf flag) := by
  cases flag with
  | false => exact h
  | true => exact h.orAbsent

theorem Alike.of_bare (wa : a.WellFormed) (wb : b.WellFormed)
    (bit : a.isOptional = b.isOptional) (h : Alike a.bare b.bare) : Alike a b := by
  rw [← wa.orAbsentIf_bare, ← wb.orAbsentIf_bare, bit]
  exact h.orAbsentIf _

theorem alike_entry {n m : String} {left right : Fields}
    (h : Alike (object n left) (object m right)) (key : String) :
    Alike (entry left key) (entry right key) := by
  cases h with
  | object _ keys fields =>
    cases first : left.lookup key with
    | none =>
      have missing : right.lookup key = none := by
        rw [Members.lookup_eq_none, ← keys key, ← Members.lookup_eq_none]
        exact first
      rw [entry_of_missing first, entry_of_missing missing]
    | some a =>
      have known : key ∈ Members.keys right := by
        rw [← keys key, ← Members.isSome_lookup, first, Option.isSome_some]
      obtain ⟨b, second⟩ := Option.isSome_iff_exists.1 (Members.isSome_lookup.2 known)
      rw [entry_of_lookup first, entry_of_lookup second]
      exact fields key a b first second

theorem alike_object {name : String} {left right : Fields}
    (keys : ∀ key, key ∈ Members.keys left ↔ key ∈ Members.keys right)
    (entries : ∀ key, Alike (entry left key) (entry right key)) :
    Alike (object name left) (object name right) := by
  refine .object name keys fun key a b first second => ?_
  have alike := entries key
  rwa [entry_of_lookup first, entry_of_lookup second] at alike

end

end ShapeInference.Shape
