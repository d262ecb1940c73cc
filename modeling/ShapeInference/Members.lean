/-! Members of an object: keys with values, in the order in which the keys first came.

A look-up takes the first member of a key. Inserting keeps a key in its place and replaces its
value, so members that are built by inserting have every key once.
-/

set_option autoImplicit false

namespace ShapeInference

abbrev Members (α : Type) := List (String × α)

namespace Members

variable {α : Type}

def keys (members : Members α) : List String := members.map (·.1)

def insert (members : Members α) (key : String) (value : α) : Members α :=
  match members with
  | [] => [(key, value)]
  | (k, v) :: rest => if k = key then (key, value) :: rest else (k, v) :: insert rest key value

def ofList (entries : List (String × α)) : Members α :=
  entries.foldl (fun members entry => members.insert entry.1 entry.2) []

theorem lookup_cons (key name : String) (value : α) (rest : Members α) :
    ((key, value) :: rest).lookup name = if name = key then some value else rest.lookup name := by
  by_cases h : name = key
  · simp [h]
  · have : (name == key) = false := by simpa using h
    simp [List.lookup_cons, h, this]

theorem lookup_insert (members : Members α) (key name : String) (value : α) :
    (members.insert key value).lookup name =
      if name = key then some value else members.lookup name := by
  induction members with
  | nil => simp [insert, lookup_cons]
  | cons member rest ih =>
    obtain ⟨k, v⟩ := member
    simp only [insert]
    split
    · next same => subst same; simp only [lookup_cons]; split <;> rfl
    · next different =>
      simp only [lookup_cons, ih]
      split
      · next same => subst same; simp [different]
      · rfl

theorem mem_keys_insert (members : Members α) (key name : String) (value : α) :
    name ∈ (members.insert key value).keys ↔ name = key ∨ name ∈ members.keys := by
  induction members with
  | nil => simp [insert, keys]
  | cons member rest ih =>
    obtain ⟨k, v⟩ := member
    simp only [keys] at ih
    simp only [insert]
    split
    · next same => subst same; simp [keys]
    · simp only [keys, List.map_cons, List.mem_cons, ih]
      constructor
      · rintro (h | h | h) <;> simp [h]
      · rintro (h | h | h) <;> simp [h]

theorem nodup_keys_insert (members : Members α) (key : String) (value : α)
    (distinct : members.keys.Nodup) : (members.insert key value).keys.Nodup := by
  induction members with
  | nil => simp [insert, keys]
  | cons member rest ih =>
    obtain ⟨k, v⟩ := member
    simp only [keys, List.map_cons, List.nodup_cons] at distinct
    simp only [insert]
    split
    · next same => subst same; simpa [keys] using distinct
    · next different =>
      simp only [keys, List.map_cons, List.nodup_cons]
      refine ⟨fun member => ?_, ih distinct.2⟩
      rcases (mem_keys_insert rest key k value).1 member with same | old
      · exact different same
      · exact distinct.1 old

theorem nodup_keys_ofList (entries : List (String × α)) : (ofList entries).keys.Nodup := by
  have step : ∀ members : Members α, members.keys.Nodup →
      (entries.foldl (fun members entry => members.insert entry.1 entry.2) members).keys.Nodup := by
    induction entries with
    | nil => exact fun _ distinct => distinct
    | cons entry rest ih =>
      exact fun members distinct => ih _ (nodup_keys_insert members _ _ distinct)
  exact step [] List.nodup_nil

end Members

end ShapeInference
