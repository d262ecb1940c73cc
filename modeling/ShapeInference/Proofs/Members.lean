import Mathlib.Data.List.Induction
import ShapeInference.Members
import ShapeInference.Proofs.Outcome

/-! Members of an object, for proofs.

Which keys are found and what a look-up finds, also after a step with each member that may fail.
-/

set_option autoImplicit false

namespace ShapeInference.Members

variable {α β ε : Type}

@[simp] theorem keys_append (left right : Members α) :
    keys (left ++ right) = left.keys ++ right.keys := by
  simp [keys]

theorem mem_of_lookup {members : Members α} {key : String} {value : α}
    (found : members.lookup key = some value) : (key, value) ∈ members := by
  obtain ⟨before, after, same, _⟩ := List.lookup_eq_some_iff.1 found
  simp [same]

theorem isSome_lookup {members : Members α} {key : String} :
    (members.lookup key).isSome = true ↔ key ∈ members.keys := by
  simp [keys]

theorem lookup_eq_none {members : Members α} {key : String} :
    members.lookup key = none ↔ key ∉ members.keys := by
  rw [← isSome_lookup]
  cases members.lookup key <;> simp

theorem lookup_of_mem {members : Members α} (distinct : members.keys.Nodup) {key : String}
    {value : α} (member : (key, value) ∈ members) : members.lookup key = some value := by
  induction members with
  | nil => cases member
  | cons first rest ih =>
    obtain ⟨k, v⟩ := first
    simp only [keys, List.map_cons, List.nodup_cons] at distinct
    rw [lookup_cons]
    rcases List.mem_cons.1 member with same | later
    · cases same; simp
    · have different : key ≠ k := by
        rintro rfl
        exact distinct.1 (List.mem_map.2 ⟨_, later, rfl⟩)
      simpa [different] using ih distinct.2 later

theorem lookup_append (left right : Members α) (key : String) :
    (left ++ right).lookup key = (left.lookup key).or (right.lookup key) :=
  List.lookup_append

theorem keys_insert (members : Members α) (key : String) (value : α) :
    (members.insert key value).keys =
      if key ∈ members.keys then members.keys else members.keys ++ [key] := by
  induction members with
  | nil => rfl
  | cons member rest ih =>
    obtain ⟨k, v⟩ := member
    simp only [keys, List.map_cons, List.mem_cons] at ih ⊢
    by_cases same : k = key
    · simp [insert, same]
    · rw [insert, if_neg same, List.map_cons, ih]
      by_cases known : key ∈ rest.map (·.1) <;> simp [known, Ne.symm same]

theorem insert_of_not_mem {members : Members α} {key : String} (fresh : key ∉ members.keys)
    (value : α) : members.insert key value = members ++ [(key, value)] := by
  induction members with
  | nil => rfl
  | cons member rest ih =>
    obtain ⟨k, v⟩ := member
    simp only [keys, List.map_cons, List.mem_cons, not_or] at fresh ih
    rw [insert, if_neg (Ne.symm fresh.1), ih fresh.2]
    rfl

theorem mem_of_mem_insert {members : Members α} {key : String} {value : α} {member : String × α}
    (inside : member ∈ members.insert key value) : member ∈ members ∨ member = (key, value) := by
  induction members with
  | nil => exact .inr (List.mem_singleton.1 inside)
  | cons first rest ih =>
    obtain ⟨k, v⟩ := first
    rw [insert] at inside
    split at inside
    · exact (List.mem_cons.1 inside).elim .inr fun later => .inl (List.mem_cons_of_mem _ later)
    · rcases List.mem_cons.1 inside with same | later
      · exact .inl (same ▸ List.mem_cons_self)
      · exact (ih later).imp_left (List.mem_cons_of_mem _)

theorem mem_of_mem_ofList {entries : List (String × α)} {member : String × α}
    (inside : member ∈ ofList entries) : member ∈ entries := by
  induction entries using List.reverseRecOn with
  | nil => exact inside
  | append_singleton entries entry ih =>
    rw [ofList, List.foldl_append] at inside
    rcases mem_of_mem_insert inside with old | same
    · exact List.mem_append_left _ (ih old)
    · exact List.mem_append_right _ (List.mem_singleton.2 same)

theorem ofList_of_nodup {entries : List (String × α)} (distinct : (keys entries).Nodup) :
    ofList entries = entries := by
  induction entries using List.reverseRecOn with
  | nil => rfl
  | append_singleton entries entry ih =>
    rw [keys_append, List.nodup_append] at distinct
    have fresh : entry.1 ∉ keys entries := fun old => distinct.2.2 _ old _ List.mem_cons_self rfl
    have front := ih distinct.1
    rw [ofList] at front ⊢
    rw [List.foldl_append, front]
    exact insert_of_not_mem fresh entry.2

theorem keys_map (f : String → α → β) (members : Members α) :
    keys (members.map fun member => (member.1, f member.1 member.2)) = members.keys := by
  simp [keys]

theorem lookup_map (f : String → α → β) (members : Members α) (key : String) :
    (members.map fun member => (member.1, f member.1 member.2)).lookup key =
      (members.lookup key).map (f key) := by
  induction members with
  | nil => rfl
  | cons member rest ih =>
    obtain ⟨k, v⟩ := member
    rw [List.map_cons, lookup_cons, lookup_cons, ih]
    split
    · next same => simp [same]
    · rfl

/-! A step with each member. -/

def traverse (step : String → α → Except ε β) : Members α → Except ε (Members β)
  | [] => .ok []
  | (key, a) :: rest => (step key a).bind fun b => (traverse step rest).map ((key, b) :: ·)

section
variable {step : String → α → Except ε β} {members : Members α} {out : Members β} {key : String}

theorem traverse_cons_eq_ok {a : α} : traverse step ((key, a) :: members) = .ok out ↔
    ∃ b others, step key a = .ok b ∧ traverse step members = .ok others ∧
      (key, b) :: others = out := by
  rw [traverse, bind_eq_ok]
  simp only [map_eq_ok, exists_and_left]

theorem exists_traverse_iff : (∃ out, traverse step members = .ok out) ↔
    ∀ member ∈ members, ∃ b, step member.1 member.2 = .ok b := by
  induction members with
  | nil => exact iff_of_true ⟨[], rfl⟩ (List.forall_mem_nil _)
  | cons member rest ih =>
    obtain ⟨key, a⟩ := member
    simp only [List.forall_mem_cons, ← ih, traverse_cons_eq_ok]
    constructor
    · rintro ⟨_, b, others, first, later, _⟩
      exact ⟨⟨b, first⟩, others, later⟩
    · rintro ⟨⟨b, first⟩, others, later⟩
      exact ⟨_, b, others, first, later, rfl⟩

theorem traverse_eq_map (image : String → α → β)
    (all : ∀ member ∈ members, step member.1 member.2 = .ok (image member.1 member.2)) :
    traverse step members = .ok (members.map fun member => (member.1, image member.1 member.2)) := by
  induction members with
  | nil => rfl
  | cons member rest ih =>
    obtain ⟨first, later⟩ := List.forall_mem_cons.1 all
    rw [traverse, first, ih later]
    rfl

theorem yields_traverse {E : ε → Prop} {Q : String → β → Prop}
    (all : ∀ member ∈ members, Yields E (Q member.1) (step member.1 member.2)) :
    Yields E (fun out => ∀ member ∈ out, Q member.1 member.2) (traverse step members) := by
  induction members with
  | nil =>
    intro member inside
    cases inside
  | cons member rest ih =>
    obtain ⟨first, later⟩ := List.forall_mem_cons.1 all
    rw [traverse]
    refine first.bind fun b _ holds => (ih later).map fun others rest => ?_
    exact List.forall_mem_cons.2 ⟨holds, rest⟩

theorem keys_traverse (ok : traverse step members = .ok out) : out.keys = members.keys := by
  induction members generalizing out with
  | nil =>
    cases ok
    rfl
  | cons member rest ih =>
    obtain ⟨b, others, _, later, rfl⟩ := traverse_cons_eq_ok.1 ok
    have same := ih later
    simp only [keys] at same
    simp only [keys, List.map_cons, same]

theorem mem_traverse (ok : traverse step members = .ok out) {member : String × β}
    (inside : member ∈ out) : ∃ a, (member.1, a) ∈ members ∧ step member.1 a = .ok member.2 := by
  induction members generalizing out with
  | nil =>
    cases ok
    cases inside
  | cons first rest ih =>
    obtain ⟨b, others, head, later, rfl⟩ := traverse_cons_eq_ok.1 ok
    rcases List.mem_cons.1 inside with same | behind
    · subst same
      exact ⟨first.2, List.mem_cons_self, head⟩
    · obtain ⟨a, old, made⟩ := ih later behind
      exact ⟨a, List.mem_cons_of_mem _ old, made⟩

theorem exists_mem_traverse (ok : traverse step members = .ok out) {a : α}
    (inside : (key, a) ∈ members) : ∃ b, (key, b) ∈ out ∧ step key a = .ok b := by
  induction members generalizing out with
  | nil => cases inside
  | cons first rest ih =>
    obtain ⟨b, others, head, later, rfl⟩ := traverse_cons_eq_ok.1 ok
    rcases List.mem_cons.1 inside with same | behind
    · subst same
      exact ⟨b, List.mem_cons_self, head⟩
    · obtain ⟨c, kept, made⟩ := ih later behind
      exact ⟨c, List.mem_cons_of_mem _ kept, made⟩

theorem lookup_traverse (ok : traverse step members = .ok out) {b : β} :
    out.lookup key = some b ↔ ∃ a, members.lookup key = some a ∧ step key a = .ok b := by
  induction members generalizing out with
  | nil =>
    cases ok
    simp
  | cons member rest ih =>
    obtain ⟨k, a⟩ := member
    obtain ⟨c, others, first, later, rfl⟩ := traverse_cons_eq_ok.1 ok
    rw [lookup_cons, lookup_cons]
    by_cases same : key = k
    · subst same
      rw [if_pos rfl, if_pos rfl]
      constructor
      · intro found
        cases found
        exact ⟨a, rfl, first⟩
      · rintro ⟨_, found, step⟩
        cases found
        cases first.symm.trans step
        rfl
    · rw [if_neg same, if_neg same]
      exact ih later

end

end ShapeInference.Members

namespace ShapeInference

/-! Names, each once. -/

theorem eraseDups_of_nodup {names : List String} (distinct : names.Nodup) :
    names.eraseDups = names := by
  induction names with
  | nil => rfl
  | cons name rest ih =>
    obtain ⟨new, distinct⟩ := List.nodup_cons.1 distinct
    have kept : rest.filter (fun other => !other == name) = rest := by
      rw [List.filter_eq_self]
      intro other inside
      have different : other ≠ name := fun same => new (same ▸ inside)
      simpa using different
    rw [List.eraseDups_cons, kept, ih distinct]

theorem eraseDups_concat (names : List String) (name : String) :
    (names ++ [name]).eraseDups =
      if name ∈ names then names.eraseDups else names.eraseDups ++ [name] := by
  rw [List.eraseDups_append]
  by_cases known : name ∈ names
  · simp [List.cons_removeAll, known]
  · simp [List.cons_removeAll, List.eraseDups_cons, known]

theorem nodup_eraseDups (names : List String) : names.eraseDups.Nodup := by
  induction names using List.reverseRecOn with
  | nil => exact List.nodup_nil
  | append_singleton names name ih =>
    rw [eraseDups_concat]
    split
    · exact ih
    · next new =>
      refine List.nodup_append.2 ⟨ih, List.pairwise_singleton _ _, fun other old last => ?_⟩
      rintro inside rfl
      cases List.mem_singleton.1 inside
      exact new (List.mem_eraseDups.1 old)

theorem eraseDups_filter (names : List String) (keep : String → Bool) :
    (names.filter keep).eraseDups = names.eraseDups.filter keep := by
  induction names using List.reverseRecOn with
  | nil => rfl
  | append_singleton names name ih =>
    have known : name ∈ names.filter keep ↔ name ∈ names ∧ keep name = true := List.mem_filter
    rw [eraseDups_concat, List.filter_append]
    cases kept : keep name with
    | false =>
      rw [List.filter_cons_of_neg (by simp [kept]), List.filter_nil, List.append_nil, ih]
      split
      · rfl
      · rw [List.filter_append, List.filter_cons_of_neg (by simp [kept]), List.filter_nil,
          List.append_nil]
    | true =>
      rw [List.filter_cons_of_pos kept, List.filter_nil, eraseDups_concat, ih]
      simp only [known, kept, and_true]
      split
      · rfl
      · rw [List.filter_append, List.filter_cons_of_pos kept, List.filter_nil]

/-- Of names at the end, only the new ones count. -/
theorem eraseDups_append_filter {front front' back back' : List String} {new : String → Bool}
    (same : front.eraseDups = front'.eraseDups) (rest : back.eraseDups = back'.eraseDups)
    (known : ∀ name, new name = true ↔ name ∉ front) :
    (front ++ back.filter new).eraseDups = (front' ++ back').eraseDups := by
  have inFront (name : String) : name ∈ front ↔ name ∈ front' := by
    rw [← List.mem_eraseDups, same, List.mem_eraseDups]
  have removed : (back.filter new).removeAll front = back.removeAll front' := by
    rw [List.removeAll, List.removeAll, List.filter_filter]
    refine List.filter_congr fun name _ => ?_
    rw [Bool.eq_iff_iff]
    simp [known name, inFront name]
  rw [List.eraseDups_append, List.eraseDups_append, same, removed, List.removeAll, List.removeAll,
    eraseDups_filter, eraseDups_filter, rest]

end ShapeInference
