import ShapeInference.Shape.Clash

/-! Merging shapes into the one shape that describes them all.

`merge` unites two shapes. What one side lacks becomes optional, an integer beside a double becomes
a double, and the elements of two arrays are pooled and merged into one. Merging the pool applies
`merge` to its own results, so the recursion carries a bound: no result is deeper than the deeper
of its arguments, where optionals do not count. `merge`, `mergeFields` and `mergeOnto` forget the
bound, and the equations after them are all that a proof needs.
-/

set_option autoImplicit false

namespace ShapeInference

def NumberKind.widen : NumberKind → NumberKind → NumberKind
  | .int, .int => .int
  | _, _ => .double

namespace Shape

mutual

/-- Levels of objects and arrays. -/
def depth : Shape → Nat
  | .optional t => t.depth
  | .object _ fields => fieldsDepth fields + 1
  | .array _ values => valuesDepth values + 1
  | _ => 0

def fieldsDepth : List (String × Shape) → Nat
  | [] => 0
  | (_, t) :: rest => max t.depth (fieldsDepth rest)

def valuesDepth : List Shape → Nat
  | [] => 0
  | t :: rest => max t.depth (valuesDepth rest)

end

/-- Optionals around a node. -/
def layers : Shape → Nat
  | .optional t => t.layers + 1
  | _ => 0

@[simp] theorem depth_orAbsent (t : Shape) : t.orAbsent.depth = t.depth := by
  cases t <;> simp [orAbsent, depth]

theorem fieldsDepth_append (left right : Fields) :
    fieldsDepth (left ++ right) = max (fieldsDepth left) (fieldsDepth right) := by
  induction left with
  | nil => simp [fieldsDepth]
  | cons field rest ih => simp [fieldsDepth, ih, Nat.max_assoc]

theorem valuesDepth_append (left right : List Shape) :
    valuesDepth (left ++ right) = max (valuesDepth left) (valuesDepth right) := by
  induction left with
  | nil => simp [valuesDepth]
  | cons t rest ih => simp [valuesDepth, ih, Nat.max_assoc]

theorem depth_le_of_lookup {fields : Fields} {key : String} {t : Shape}
    (found : fields.lookup key = some t) : t.depth ≤ fieldsDepth fields := by
  induction fields with
  | nil => simp at found
  | cons field rest ih =>
    obtain ⟨k, s⟩ := field
    rw [Members.lookup_cons] at found
    simp only [fieldsDepth]
    split at found
    · cases found; omega
    · have := ih found; omega

/-- The fields of `right` whose keys `left` lacks, each of them optional. -/
def fieldsOnlyIn (left right : Fields) : Fields :=
  (right.filter fun field => (left.lookup field.1).isNone).map fun field =>
    (field.1, field.2.orAbsent)

theorem fieldsDepth_fieldsOnlyIn_le (left right : Fields) :
    fieldsDepth (fieldsOnlyIn left right) ≤ fieldsDepth right := by
  induction right with
  | nil => simp [fieldsOnlyIn, fieldsDepth]
  | cons field rest ih =>
    simp only [fieldsOnlyIn, List.filter_cons] at ih ⊢
    split
    · simp only [List.map_cons, fieldsDepth, depth_orAbsent]; omega
    · simp only [fieldsDepth]; omega

theorem depth_array_nil_le (n m : String) (left right : List Shape) :
    (array n []).depth ≤ max (array n left).depth (array m right).depth := by
  simp only [depth, valuesDepth]; omega

theorem depth_array_singleton_le (n m : String) {left right : List Shape} {t : Shape}
    (bound : t.depth ≤ max empty.depth (valuesDepth (left ++ right))) :
    (array n [t]).depth ≤ max (array n left).depth (array m right).depth := by
  rw [valuesDepth_append] at bound
  simp only [depth, valuesDepth] at bound ⊢; omega

abbrev Within (bound : Nat) := { t : Shape // t.depth ≤ bound }

mutual

/-- The rules of `merge`. Where one side alone is optional its literal goes first. -/
def mergeWithin (a b : Shape) : Except MergeError (Within (max a.depth b.depth)) :=
  match a, b with
  | .empty, b => .ok ⟨b, Nat.le_max_right _ _⟩
  | a, .empty => .ok ⟨a, Nat.le_max_left _ _⟩
  | .absent, .optional b => .ok ⟨b.orAbsent, by simp only [depth_orAbsent, depth]; omega⟩
  | .optional a, .absent => .ok ⟨a.orAbsent, by simp only [depth_orAbsent, depth]; omega⟩
  | .absent, b => .ok ⟨b.orAbsent, by simp only [depth_orAbsent]; omega⟩
  | a, .absent => .ok ⟨a.orAbsent, by simp only [depth_orAbsent]; omega⟩
  | .optional a, .optional b => do
    let t ← mergeWithin a b
    .ok ⟨t.1.orAbsent, by have := t.2; simp only [depth_orAbsent, depth]; omega⟩
  | .optional a, b => do
    let t ← mergeWithin a b
    .ok ⟨t.1.orAbsent, by have := t.2; simp only [depth_orAbsent, depth]; omega⟩
  | a, .optional b => do
    let t ← mergeWithin b a
    .ok ⟨t.1.orAbsent, by have := t.2; simp only [depth_orAbsent, depth]; omega⟩
  | .bool a, .bool b => .ok ⟨.bool (a && b), Nat.le_max_left _ _⟩
  | .number a, .number b => .ok ⟨.number (a.widen b), Nat.le_max_left _ _⟩
  | .text a, .text b => .ok ⟨.text (if a = "" then b else a), Nat.le_max_left _ _⟩
  | .object n left, .object m right =>
    if n = m then do
      let shared ← mergeFieldsWithin left right
      .ok ⟨.object n (shared.1 ++ fieldsOnlyIn left right), by
        have := shared.2
        have := fieldsDepth_fieldsOnlyIn_le left right
        simp only [depth, fieldsDepth_append]; omega⟩
    else .error { clash := .names .object n m }
  | .array n left, .array m right =>
    if n = m then do
      match ← mergeOntoWithin .empty (left ++ right) with
      | ⟨.empty, _⟩ => .ok ⟨.array n [], depth_array_nil_le n m left right⟩
      | ⟨t, bound⟩ => .ok ⟨.array n [t], depth_array_singleton_le n m bound⟩
    else .error { clash := .names .array n m }
  | .url a, .url _ => .ok ⟨.url a, Nat.le_max_left _ _⟩
  | .date a, .date b =>
    if a = b then .ok ⟨.date a, Nat.le_max_left _ _⟩
    else .error { clash := .kinds .date .date }
  | a, b => .error { clash := .kinds a.kind b.kind }
termination_by (max a.depth b.depth, a.layers + b.layers + 1, 0)
decreasing_by
  · exact .right' _ (by simp [depth]) (.left _ _ (by simp only [layers]; omega))
  · exact .right' _ (by simp [depth]) (.left _ _ (by simp only [layers]; omega))
  · exact .right' _ (by simp only [depth]; omega) (.left _ _ (by simp only [layers]; omega))
  · exact .right' _ (by simp only [depth]; omega) (.left _ _ (by simp only [layers]; omega))
  · exact .right' _ (by simp only [depth, valuesDepth_append]; omega)
      (.left _ _ (by simp only [layers]; omega))

def mergeFieldsWithin (left right : Fields) :
    Except MergeError
      { fields : Fields // fieldsDepth fields ≤ max (fieldsDepth left) (fieldsDepth right) } :=
  match left with
  | [] => .ok ⟨[], by simp [fieldsDepth]⟩
  | (key, a) :: rest =>
    match found : right.lookup key with
    | some b => do
      let t ← mergeWithin a b
      let merged ← mergeFieldsWithin rest right
      .ok ⟨(key, t.1) :: merged.1, by
        have := t.2; have := merged.2; have := depth_le_of_lookup found
        simp only [fieldsDepth]; omega⟩
    | none => do
      let merged ← mergeFieldsWithin rest right
      .ok ⟨(key, a.orAbsent) :: merged.1, by
        have := merged.2; simp only [fieldsDepth, depth_orAbsent]; omega⟩
termination_by (max (fieldsDepth left) (fieldsDepth right) + 1, 0, left.length)
decreasing_by
  · have := depth_le_of_lookup found
    exact .left _ _ (by simp only [fieldsDepth]; omega)
  · exact .right' _ (by simp only [fieldsDepth]; omega) (.right _ (by simp))
  · exact .right' _ (by simp only [fieldsDepth]; omega) (.right _ (by simp))

def mergeOntoWithin (acc : Shape) (values : List Shape) :
    Except MergeError (Within (max acc.depth (valuesDepth values))) :=
  match values with
  | [] => .ok ⟨acc, Nat.le_max_left _ _⟩
  | value :: rest => do
    let t ← mergeWithin acc value
    let u ← mergeOntoWithin t.1 rest
    .ok ⟨u.1, by have := t.2; have := u.2; simp only [valuesDepth]; omega⟩
termination_by (max acc.depth (valuesDepth values) + 1, 0, values.length)
decreasing_by
  · exact .left _ _ (by simp only [valuesDepth]; omega)
  · have := t.2
    exact .right' _ (by simp only [valuesDepth]; omega) (.right _ (by simp))

end

def merge (a b : Shape) : Except MergeError Shape :=
  (mergeWithin a b).map (·.1)

/-- The fields of `left`, in its order, each merged with the field of that key in `right`. -/
def mergeFields (left right : Fields) : Except MergeError Fields :=
  (mergeFieldsWithin left right).map (·.1)

/-- Merges values into `acc` from left to right. -/
def mergeOnto (acc : Shape) (values : List Shape) : Except MergeError Shape :=
  (mergeOntoWithin acc values).map (·.1)

/-- The shape that describes all elements of an array: none if no element was seen, else one. -/
def representative (values : List Shape) : Except MergeError (List Shape) :=
  (mergeOnto .empty values).map fun t => if t.kind = .empty then [] else [t]

/-- Merges samples from left to right. A failure tells which sample did not fit. -/
def reduceFrom (acc : Shape) (index : Nat) : List Shape → Except MergeError Shape
  | [] => .ok acc
  | sample :: rest =>
    match acc.merge sample with
    | .ok t => reduceFrom t (index + 1) rest
    | .error error => .error (error.atSample index)

def reduce (samples : List Shape) : Except MergeError Shape :=
  reduceFrom .empty 0 samples

/-! The equations of `merge`. -/

@[simp] theorem mergeOnto_nil (acc : Shape) : mergeOnto acc [] = .ok acc := by
  simp only [mergeOnto, mergeOntoWithin]; rfl

theorem mergeOnto_cons (acc value : Shape) (rest : List Shape) :
    mergeOnto acc (value :: rest) = (acc.merge value).bind fun t => mergeOnto t rest := by
  simp only [mergeOnto, mergeOntoWithin, merge]
  cases mergeWithin acc value with
  | error error => rfl
  | ok t =>
    simp only [bind, Except.bind, Except.map]
    cases mergeOntoWithin t.1 rest <;> rfl

@[simp] theorem mergeFields_nil (right : Fields) : mergeFields [] right = .ok [] := by
  simp only [mergeFields, mergeFieldsWithin]; rfl

theorem mergeFields_cons (key : String) (a : Shape) (rest right : Fields) :
    mergeFields ((key, a) :: rest) right =
      match right.lookup key with
      | some b => (a.merge b).bind fun t => (mergeFields rest right).map ((key, t) :: ·)
      | none => (mergeFields rest right).map ((key, a.orAbsent) :: ·) := by
  simp only [mergeFields, mergeFieldsWithin, merge]
  split
  · next b found =>
    simp only [found]
    cases mergeWithin a b with
    | error error => rfl
    | ok t => simp only [bind, Except.bind, Except.map]; cases mergeFieldsWithin rest right <;> rfl
  · next found =>
    simp only [found, bind, Except.bind, Except.map]
    cases mergeFieldsWithin rest right <;> rfl

@[simp] theorem empty_merge (t : Shape) : empty.merge t = .ok t := by
  cases t <;> (simp only [merge, mergeWithin]; rfl)

@[simp] theorem merge_empty (t : Shape) : t.merge empty = .ok t := by
  cases t <;> (simp only [merge, mergeWithin]; rfl)

theorem object_merge_object (n m : String) (left right : Fields) :
    (object n left).merge (object m right) =
      if n = m then
        (mergeFields left right).map fun shared => object n (shared ++ fieldsOnlyIn left right)
      else .error { clash := .names .object n m } := by
  simp only [merge, mergeWithin]
  split
  · simp only [mergeFields]; cases mergeFieldsWithin left right <;> rfl
  · rfl

theorem array_merge_array (n m : String) (left right : List Shape) :
    (array n left).merge (array m right) =
      if n = m then (representative (left ++ right)).map (array n)
      else .error { clash := .names .array n m } := by
  simp only [merge, mergeWithin]
  split
  · simp only [representative, mergeOnto]
    cases mergeOntoWithin .empty (left ++ right) with
    | error error => rfl
    | ok t => obtain ⟨t, bound⟩ := t; cases t <;> rfl
  · rfl

@[simp] theorem reduce_nil : reduce [] = .ok .empty := rfl

@[simp] theorem reduce_singleton (t : Shape) : reduce [t] = .ok t := by
  simp [reduce, reduceFrom]

end Shape

end ShapeInference
