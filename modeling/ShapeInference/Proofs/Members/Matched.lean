import ShapeInference.Proofs.Members
import ShapeInference.Proofs.Outcome

/-! Members in another order.

Matched members have the same keys, every key once, and related values under each key. They stay
matched when something is done to them one by one. That may fail at different keys first, but it
fails for both or for neither.
-/

set_option autoImplicit false

namespace ShapeInference.Members

variable {α β α' β' ε : Type}

structure Matched (R : α → β → Prop) (left : Members α) (right : Members β) : Prop where
  nodup : left.keys.Nodup
  keys : left.keys.Perm right.keys
  values : ∀ key a b, left.lookup key = some a → right.lookup key = some b → R a b

theorem Matched.of_perm {R : α → α → Prop} {left right : Members α} (nodup : left.keys.Nodup)
    (perm : left.Perm right) (refl : ∀ member ∈ left, R member.2 member.2) :
    Matched R left right := by
  have keys : left.keys.Perm right.keys := perm.map _
  refine ⟨nodup, keys, fun key a b first second => ?_⟩
  have member := perm.mem_iff.1 (mem_of_lookup first)
  cases second.symm.trans (lookup_of_mem (keys.nodup_iff.1 nodup) member)
  exact refl _ (mem_of_lookup first)

namespace Matched

variable {R : α → β → Prop} {R' : α' → β' → Prop} {left : Members α} {right : Members β}

theorem nodup_right (h : Matched R left right) : right.keys.Nodup := h.keys.nodup_iff.1 h.nodup

theorem lookup (h : Matched R left right) (key : String) :
    left.lookup key = none ∧ right.lookup key = none ∨
      ∃ a b, left.lookup key = some a ∧ right.lookup key = some b ∧ R a b := by
  cases first : left.lookup key with
  | none =>
    have missing : right.lookup key = none := by
      rw [lookup_eq_none, ← h.keys.mem_iff, ← lookup_eq_none]
      exact first
    exact .inl ⟨rfl, missing⟩
  | some a =>
    have known : key ∈ right.keys := by
      rw [← h.keys.mem_iff, ← isSome_lookup, first, Option.isSome_some]
    obtain ⟨b, second⟩ := Option.isSome_iff_exists.1 (isSome_lookup.2 known)
    exact .inr ⟨a, b, rfl, second, h.values key a b first second⟩

theorem map {f : String → α → α'} {g : String → β → β'} (h : Matched R left right)
    (step : ∀ key a b, left.lookup key = some a → R a b → R' (f key a) (g key b)) :
    Matched R' (left.map fun member => (member.1, f member.1 member.2))
      (right.map fun member => (member.1, g member.1 member.2)) := by
  refine ⟨?_, ?_, fun key a' b' first second => ?_⟩
  · rw [keys_map]
    exact h.nodup
  · rw [keys_map, keys_map]
    exact h.keys
  · rw [lookup_map, Option.map_eq_some_iff] at first second
    obtain ⟨a, inLeft, rfl⟩ := first
    obtain ⟨b, inRight, rfl⟩ := second
    exact step key a b inLeft (h.values key a b inLeft inRight)

theorem append {left' : Members α} {right' : Members β} (h : Matched R left right)
    (h' : Matched R left' right') (nodup : (left ++ left').keys.Nodup) :
    Matched R (left ++ left') (right ++ right') := by
  refine ⟨nodup, ?_, fun key a b first second => ?_⟩
  · rw [keys_append, keys_append]
    exact h.keys.append h'.keys
  · rw [lookup_append] at first second
    rcases h.lookup key with ⟨missing, missing'⟩ | ⟨c, d, found, found', related⟩
    · rw [missing, Option.none_or] at first
      rw [missing', Option.none_or] at second
      exact h'.values key a b first second
    · rw [found, Option.some_or] at first
      rw [found', Option.some_or] at second
      cases first
      cases second
      exact related

end Matched

theorem Matched.traverse {R : α → β → Prop} {R' : α' → β' → Prop} {left : Members α}
    {right : Members β} (h : Matched R left right) {f : String → α → Except ε α'}
    {g : String → β → Except ε β'} (each : ∀ key a b, left.lookup key = some a →
      right.lookup key = some b → R a b → Both R' (f key a) (g key b)) :
    Both (Matched R') (Members.traverse f left) (Members.traverse g right) := by
  apply Both.of_exists_ok_iff
  · rw [exists_traverse_iff, exists_traverse_iff]
    constructor
    · rintro all ⟨key, b⟩ member
      have second := lookup_of_mem h.nodup_right member
      rcases h.lookup key with ⟨_, missing⟩ | ⟨a, _, first, found, related⟩
      · cases second.symm.trans missing
      · cases second.symm.trans found
        exact (each key a b first second related).exists_ok_iff.1 (all _ (mem_of_lookup first))
    · rintro all ⟨key, a⟩ member
      have first := lookup_of_mem h.nodup member
      rcases h.lookup key with ⟨missing, _⟩ | ⟨_, b, found, second, related⟩
      · cases first.symm.trans missing
      · cases first.symm.trans found
        exact (each key a b first second related).exists_ok_iff.2 (all _ (mem_of_lookup second))
  · intro out out' ok ok'
    refine ⟨?_, ?_, fun key a' b' found found' => ?_⟩
    · rw [keys_traverse ok]
      exact h.nodup
    · rw [keys_traverse ok, keys_traverse ok']
      exact h.keys
    · obtain ⟨a, first, step⟩ := (lookup_traverse ok).1 found
      obtain ⟨b, second, step'⟩ := (lookup_traverse ok').1 found'
      exact (each key a b first second (h.values key a b first second)).of_ok step step'

end ShapeInference.Members
