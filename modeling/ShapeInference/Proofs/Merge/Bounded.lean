import Mathlib.Algebra.Order.BigOperators.Group.List
import Mathlib.Algebra.Order.Ring.Nat
import Mathlib.Logic.Function.Iterate
import ShapeInference.Proofs.Merge.Kept

/-! Merging ends, and its results do not grow.

`mergeWith` is one level of merging, which leaves the merges of contents to another function. Below
enough levels nothing is left to merge, so that this function does not matter. How many are enough
is found along the calls of `merge`, as an array merges what its first elements have become.

Merged nodes come from one node of either side. What is put around them are optionals, which do not
count.
-/

set_option autoImplicit false

namespace ShapeInference.Shape

/-! Levels of merging. -/

def joinedWith (f : Shape → Shape → Except MergeError Shape) (right : Fields) (key : String)
    (a : Shape) : Except MergeError Shape :=
  match right.lookup key with
  | some b => f a b
  | none => .ok a.orAbsent

/-- The rules of `merge`, where `f` makes the merges of contents. -/
def mergeWith (f : Shape → Shape → Except MergeError Shape) (a b : Shape) :
    Except MergeError Shape :=
  match a, b with
  | .empty, b => .ok b
  | a, .empty => .ok a
  | .absent, b => .ok b.unwrapped.orAbsent
  | a, .absent => .ok a.unwrapped.orAbsent
  | .optional a, .optional b => (f a b).map orAbsent
  | .optional a, b => (f a b).map orAbsent
  | a, .optional b => (f b a).map orAbsent
  | .bool a, .bool b => .ok (.bool (a && b))
  | .number a, .number b => .ok (.number (a.widen b))
  | .text a, .text b => .ok (.text (if a = "" then b else a))
  | .object n left, .object m right =>
    if n = m then
      (Members.traverse (joinedWith f right) left).map fun shared =>
        .object n (shared ++ fieldsOnlyIn left right)
    else .error { clash := .names .object n m }
  | .array n left, .array m right =>
    if n = m then ((left ++ right).foldlM f .empty).map fun t => .array n t.asValues
    else .error { clash := .names .array n m }
  | .url a, .url _ => .ok (.url a)
  | .date a, .date b => if a = b then .ok (.date a) else .error { clash := .kinds .date .date }
  | a, b => .error { clash := .kinds a.kind b.kind }

/-- From this number of levels on, what stands below them does not matter. -/
def EndsWithin (levels : Nat) (a b : Shape) : Prop :=
  ∀ n, levels ≤ n → ∀ below, (mergeWith^[n] below) a b = a.merge b

section
variable {a b : Shape} {levels : Nat}

theorem endsWithin_succ (step : ∀ n, levels ≤ n → ∀ below,
    mergeWith (mergeWith^[n] below) a b = a.merge b) : EndsWithin (levels + 1) a b := by
  intro n enough below
  cases n with
  | zero => omega
  | succ n =>
    rw [Function.iterate_succ_apply']
    exact step n (Nat.le_of_succ_le_succ enough) below

theorem ends_of_step (step : ∀ f, mergeWith f a b = a.merge b) : ∃ levels, EndsWithin levels a b :=
  ⟨1, endsWithin_succ fun _ _ _ => step _⟩

theorem mergeWith_of_kind_ne (f : Shape → Shape → Except MergeError Shape)
    (plainLeft : a.isOptional = false) (plainRight : b.isOptional = false)
    (seenLeft : a.kind ≠ .empty) (seenRight : b.kind ≠ .empty) (different : a.kind ≠ b.kind) :
    mergeWith f a b = .error { clash := .kinds a.kind b.kind } := by
  cases a <;> cases b <;>
    first
    | exact absurd rfl seenLeft
    | exact absurd rfl seenRight
    | exact absurd rfl different
    | rfl
    | simp [isOptional, kind] at plainLeft plainRight

theorem mergeWith_of_leaves (f : Shape → Shape → Except MergeError Shape)
    (left : a.isLeaf = true) (right : b.isLeaf = true) (same : a.kind = b.kind) :
    mergeWith f a b = a.merge b := by
  cases a <;> cases b <;>
    first
    | cases left; done
    | cases right; done
    | cases same; done
    | (simp only [merge, mergeWithin]; rfl)
    | (simp only [merge, mergeWithin, mergeWith]; split <;> rfl)

theorem ends_fields {left right : Fields} (both : ∀ key a b, (key, a) ∈ left →
      right.lookup key = some b → ∃ levels, EndsWithin levels a b) :
    ∃ levels, ∀ n, levels ≤ n → ∀ below,
      Members.traverse (joinedWith (mergeWith^[n] below) right) left = mergeFields left right := by
  simp only [mergeFields_eq_traverse]
  induction left with
  | nil => exact ⟨0, fun _ _ _ => rfl⟩
  | cons field rest ih =>
    obtain ⟨key, a⟩ := field
    obtain ⟨later, ends⟩ := ih fun k x b inside => both k x b (List.mem_cons_of_mem _ inside)
    cases found : right.lookup key with
    | none =>
      exists later
      intro n enough below
      simp only [Members.traverse, joinedWith, joined, found, ends n enough below]
    | some b =>
      obtain ⟨first, endsFirst⟩ := both key a b List.mem_cons_self found
      exists max first later
      intro n enough below
      have enoughFirst : first ≤ n := Nat.le_trans (Nat.le_max_left _ _) enough
      have enoughLater : later ≤ n := Nat.le_trans (Nat.le_max_right _ _) enough
      simp only [Members.traverse, joinedWith, joined, found, endsFirst n enoughFirst below,
        ends n enoughLater below]

theorem ends_values {acc : Shape} {values : List Shape} (pooled : ∀ front value back t,
      values = front ++ value :: back → mergeOnto acc front = .ok t →
      ∃ levels, EndsWithin levels t value) :
    ∃ levels, ∀ n, levels ≤ n → ∀ below,
      values.foldlM (mergeWith^[n] below) acc = mergeOnto acc values := by
  induction values generalizing acc with
  | nil => exact ⟨0, fun _ _ _ => (mergeOnto_nil acc).symm⟩
  | cons value rest ih =>
    obtain ⟨first, endsFirst⟩ := pooled [] value rest acc rfl (mergeOnto_nil acc)
    cases step : acc.merge value with
    | error e =>
      exists first
      intro n enough below
      rw [List.foldlM_cons, endsFirst n enough below, mergeOnto_cons, step]
      rfl
    | ok t =>
      obtain ⟨later, ends⟩ := ih fun front next back u split ok =>
        pooled (value :: front) next back u (by rw [split, List.cons_append])
          (mergeOnto_cons_eq_ok.2 ⟨t, step, ok⟩)
      exists max first later
      intro n enough below
      have enoughFirst : first ≤ n := Nat.le_trans (Nat.le_max_left _ _) enough
      have enoughLater : later ≤ n := Nat.le_trans (Nat.le_max_right _ _) enough
      rw [List.foldlM_cons, endsFirst n enoughFirst below, mergeOnto_cons, step]
      exact ends n enoughLater below

end

theorem merges_end : MergeCalls fun a b => ∃ levels, EndsWithin levels a b where
  emptyLeft b := ends_of_step fun f => (empty_merge b).symm
  emptyRight a := ends_of_step fun f => by
    rw [merge_empty]
    cases a <;> rfl
  absentLeft b := ends_of_step fun f => by
    rw [absent_merge_eq]
    cases b <;> rfl
  absentRight a := ends_of_step fun f => by
    rw [merge_absent_eq]
    cases a <;> rfl
  optionals a b inner := by
    obtain ⟨levels, ends⟩ := inner
    exists levels + 1
    apply endsWithin_succ
    intro n enough below
    rw [mergeWith, ends n enough below, optional_merge_optional]
  optionalLeft a b plain seen inner := by
    obtain ⟨levels, ends⟩ := inner
    exists levels + 1
    apply endsWithin_succ
    intro n enough below
    rw [optional_merge_of_seen plain seen, ← ends n enough below]
    cases b with
    | empty => exact absurd rfl seen
    | absent | optional => cases plain
    | _ => rfl
  optionalRight a b plain seen inner := by
    obtain ⟨levels, ends⟩ := inner
    exists levels + 1
    apply endsWithin_succ
    intro n enough below
    rw [merge_optional_of_seen plain seen, ← ends n enough below]
    cases a with
    | empty => exact absurd rfl seen
    | absent | optional => cases plain
    | _ => rfl
  different a b plainLeft plainRight seenLeft seenRight different := ends_of_step fun f => by
    rw [merge_of_kind_ne plainLeft plainRight seenLeft seenRight different,
      mergeWith_of_kind_ne f plainLeft plainRight seenLeft seenRight different]
  leaves a b left right same := ends_of_step fun f => mergeWith_of_leaves f left right same
  object n m left right both := by
    obtain ⟨levels, ends⟩ := ends_fields both
    exists levels + 1
    apply endsWithin_succ
    intro k enough below
    rw [object_merge_object, mergeWith, ends k enough below]
  array n m left right pooled := by
    obtain ⟨levels, ends⟩ := ends_values pooled
    exists levels + 1
    apply endsWithin_succ
    intro k enough below
    rw [array_merge_array, representative_eq, mergeWith, ends k enough below]
    cases mergeOnto empty (left ++ right) <;> rfl

/-! Height. -/

mutual

/-- The most nodes on a way down from the root, where optionals do not count. -/
def height : Shape → Nat
  | .absent => 0
  | .optional t => t.height
  | .object _ fields => fieldsHeight fields + 1
  | .array _ values => valuesHeight values + 1
  | _ => 1

def fieldsHeight : List (String × Shape) → Nat
  | [] => 0
  | (_, t) :: rest => max t.height (fieldsHeight rest)

def valuesHeight : List Shape → Nat
  | [] => 0
  | t :: rest => max t.height (valuesHeight rest)

end

section
variable {t : Shape} {bound : Nat}

theorem fieldsHeight_le_iff {fields : Fields} :
    fieldsHeight fields ≤ bound ↔ ∀ field ∈ fields, field.2.height ≤ bound := by
  induction fields with
  | nil => simp [fieldsHeight]
  | cons field rest ih => simp [fieldsHeight, ih]

theorem valuesHeight_le_iff {values : List Shape} :
    valuesHeight values ≤ bound ↔ ∀ value ∈ values, value.height ≤ bound := by
  induction values with
  | nil => simp [valuesHeight]
  | cons value rest ih => simp [valuesHeight, ih]

theorem height_of_leaf (leaf : t.isLeaf = true) :
    t.height = if t.kind = .optional then 0 else 1 := by
  cases t with
  | optional | object | array => cases leaf
  | _ => rfl

theorem height_orAbsent_le (t : Shape) : t.orAbsent.height ≤ t.height := by
  cases t <;> simp [orAbsent, height]

theorem height_unwrapped (t : Shape) : t.unwrapped.height = t.height := by
  cases t <;> simp [unwrapped, height]

end

theorem merges_height :
    MergeCalls fun a b => Yields (fun _ => True) (fun t => t.height ≤ max a.height b.height)
      (a.merge b) where
  emptyLeft b := by
    rw [empty_merge]
    exact Nat.le_max_right _ _
  emptyRight a := by
    rw [merge_empty]
    exact Nat.le_max_left _ _
  absentLeft b := by
    rw [absent_merge_eq]
    have alone := height_orAbsent_le b.unwrapped
    rw [height_unwrapped] at alone
    exact Nat.le_trans alone (Nat.le_max_right _ _)
  absentRight a := by
    rw [merge_absent_eq]
    have alone := height_orAbsent_le a.unwrapped
    rw [height_unwrapped] at alone
    exact Nat.le_trans alone (Nat.le_max_left _ _)
  optionals a b inner := by
    rw [optional_merge_optional]
    exact inner.map fun t bounded => Nat.le_trans (height_orAbsent_le t) bounded
  optionalLeft a b plain seen inner := by
    rw [optional_merge_of_seen plain seen]
    exact inner.map fun t bounded => Nat.le_trans (height_orAbsent_le t) bounded
  optionalRight a b plain seen inner := by
    rw [merge_optional_of_seen plain seen, Nat.max_comm]
    exact inner.map fun t bounded => Nat.le_trans (height_orAbsent_le t) bounded
  different a b plainLeft plainRight seenLeft seenRight different := by
    rw [merge_of_kind_ne plainLeft plainRight seenLeft seenRight different]
    trivial
  leaves a b left right same := by
    have merged := merge_leaves left right same
    cases outcome : a.merge b with
    | error e => trivial
    | ok t =>
      obtain ⟨leaf, kind⟩ := merged.of_ok outcome
      have equal : t.height = a.height := by
        rw [height_of_leaf leaf, height_of_leaf left, kind]
      exact Nat.le_trans (Nat.le_of_eq equal) (Nat.le_max_left _ _)
  object n m left right both := by
    have inLeft := fieldsHeight_le_iff.1 (Nat.le_max_left (fieldsHeight left) (fieldsHeight right))
    have inRight :=
      fieldsHeight_le_iff.1 (Nat.le_max_right (fieldsHeight left) (fieldsHeight right))
    have fields := yields_merged (E := fun _ => True)
      (Q := fun _ t => t.height ≤ max (fieldsHeight left) (fieldsHeight right))
      (fun key a old => Nat.le_trans (height_orAbsent_le a) (inLeft _ old))
      (fun key b new => Nat.le_trans (height_orAbsent_le b) (inRight _ new))
      fun key a b old found => (both key a b old found).imp fun t bounded =>
        Nat.le_trans bounded
          (Nat.max_le.2 ⟨inLeft _ old, inRight _ (Members.mem_of_lookup found)⟩)
    rw [object_merge_object]
    split
    · refine fields.map fun shared all => ?_
      simp only [height, Nat.add_max_add_right]
      exact Nat.succ_le_succ (fieldsHeight_le_iff.2 all)
    · trivial
  array n m left right pooled := by
    have inPool : ∀ value ∈ left ++ right,
        value.height ≤ max (valuesHeight left) (valuesHeight right) :=
      List.forall_mem_append.2
        ⟨valuesHeight_le_iff.1 (Nat.le_max_left _ _), valuesHeight_le_iff.1 (Nat.le_max_right _ _)⟩
    -- Before the first value there is the empty shape, which does not become a value.
    have last : Yields (fun _ => True)
        (fun t => valuesHeight t.asValues ≤ max (valuesHeight left) (valuesHeight right))
        (mergeOnto empty (left ++ right)) := by
      apply yields_mergeOnto (Nat.zero_le _)
      intro front value back acc split reached bounded
      have next := inPool value (by simp [split])
      by_cases nothing : acc.kind = .empty
      · rw [eq_empty_of_kind nothing, empty_merge]
        exact valuesHeight_le_iff.2 fun v member => mem_asValues member ▸ next
      · rw [asValues, if_neg nothing] at bounded
        simp only [valuesHeight, Nat.max_zero] at bounded
        refine (pooled front value back acc split reached).imp fun t merged => ?_
        have small := Nat.le_trans merged (Nat.max_le.2 ⟨bounded, next⟩)
        exact valuesHeight_le_iff.2 fun v member => mem_asValues member ▸ small
    rw [array_merge_array, representative_eq]
    split
    · cases merged : mergeOnto empty (left ++ right) with
      | error e => trivial
      | ok t =>
        have bounded := last.of_ok merged
        show height _ ≤ _
        simp only [height, Nat.add_max_add_right]
        exact Nat.succ_le_succ bounded
    · trivial

/-! Size. -/

def size (t : Shape) : Nat := t.nodes.countP fun node => !node.isOptional

def fieldsSize (fields : Fields) : Nat := (fields.map fun field => field.2.size).sum

def valuesSize (values : List Shape) : Nat := (values.map size).sum

section
variable {t : Shape} {name : String}

theorem size_of_leaf (leaf : t.isLeaf = true) : t.size = if t.kind = .optional then 0 else 1 := by
  cases t with
  | optional | object | array => cases leaf
  | _ => rfl

@[simp] theorem size_optional (t : Shape) : (optional t).size = t.size := by
  rw [size, nodes, List.countP_cons_of_neg (by simp [isOptional, kind])]
  rfl

@[simp] theorem size_object (fields : Fields) :
    (object name fields).size = fieldsSize fields + 1 := by
  have below : (fieldNodes fields).countP (fun node => !node.isOptional) = fieldsSize fields := by
    induction fields with
    | nil => rfl
    | cons field rest ih => rw [fieldNodes, List.countP_append, ih]; rfl
  rw [size, nodes, List.countP_cons_of_pos rfl, below]

@[simp] theorem size_array (values : List Shape) :
    (array name values).size = valuesSize values + 1 := by
  have below : (valueNodes values).countP (fun node => !node.isOptional) = valuesSize values := by
    induction values with
    | nil => rfl
    | cons value rest ih => rw [valueNodes, List.countP_append, ih]; rfl
  rw [size, nodes, List.countP_cons_of_pos rfl, below]

theorem size_orAbsent_le (t : Shape) : t.orAbsent.size ≤ t.size := by
  cases t with
  | empty => exact Nat.zero_le _
  | absent | optional => exact Nat.le_refl _
  | _ => exact Nat.le_of_eq (size_optional _)

theorem size_unwrapped (t : Shape) : t.unwrapped.size = t.size := by
  cases t <;> simp [unwrapped]

theorem valuesSize_append (left right : List Shape) :
    valuesSize (left ++ right) = valuesSize left + valuesSize right := by
  simp [valuesSize]

theorem valuesSize_asValues_le (t : Shape) : valuesSize t.asValues ≤ t.size := by
  unfold asValues
  split
  · exact Nat.zero_le _
  · simp [valuesSize]

end

section
variable {fields left right shared : Fields} {key : String}

theorem fieldsSize_append (left right : Fields) :
    fieldsSize (left ++ right) = fieldsSize left + fieldsSize right := by
  simp [fieldsSize]

theorem fieldsSize_filter_le (p : String × Shape → Bool) (fields : Fields) :
    fieldsSize (fields.filter p) ≤ fieldsSize fields :=
  (List.filter_sublist.map _).sum_le_sum fun _ _ => Nat.zero_le _

theorem size_add_fieldsSize_le {b : Shape} (inside : (key, b) ∈ fields) :
    b.size + fieldsSize (fields.filter fun field => field.1 ≠ key) ≤ fieldsSize fields := by
  obtain ⟨front, back, rfl⟩ := List.append_of_mem inside
  have inFront := fieldsSize_filter_le (fun field => field.1 ≠ key) front
  have inBack := fieldsSize_filter_le (fun field => field.1 ≠ key) back
  have last : fieldsSize ((key, b) :: back) = b.size + fieldsSize back := by simp [fieldsSize]
  rw [List.filter_append, List.filter_cons_of_neg (by simp), fieldsSize_append, fieldsSize_append,
    last]
  omega

theorem fieldsSize_fieldsOnlyIn_le (left right : Fields) : fieldsSize (fieldsOnlyIn left right) ≤
    fieldsSize (right.filter fun field => (left.lookup field.1).isNone) := by
  unfold fieldsOnlyIn fieldsSize
  rw [List.map_map]
  exact List.sum_le_sum fun field _ => size_orAbsent_le field.2

/-- A field on the left uses up the field of its key on the right, which no other one does. -/
theorem fieldsSize_merged_le (once : (Members.keys left).Nodup)
    (both : ∀ key a b, (key, a) ∈ left → right.lookup key = some b → ∀ t, a.merge b = .ok t →
      t.size ≤ a.size + b.size) (ok : mergeFields left right = .ok shared) :
    fieldsSize (shared ++ fieldsOnlyIn left right) ≤ fieldsSize left + fieldsSize right := by
  have unused : fieldsSize shared +
      fieldsSize (right.filter fun field => (left.lookup field.1).isNone) ≤
        fieldsSize left + fieldsSize right := by
    induction left generalizing shared with
    | nil =>
      rw [mergeFields_nil] at ok
      cases ok
      exact Nat.add_le_add_left (fieldsSize_filter_le _ right) _
    | cons field rest ih =>
      obtain ⟨key, a⟩ := field
      obtain ⟨t, others, joins, later, rfl⟩ := mergeFields_cons_eq_ok.1 ok
      simp only [Members.keys, List.map_cons, List.nodup_cons] at once
      have bounded := ih once.2 (fun k x b inside => both k x b (List.mem_cons_of_mem _ inside))
        later
      have head (s : Shape) (tail : Fields) :
          fieldsSize ((key, s) :: tail) = s.size + fieldsSize tail := by simp [fieldsSize]
      have fewer : right.filter (fun field => (((key, a) :: rest).lookup field.1).isNone) =
          (right.filter fun field => (rest.lookup field.1).isNone).filter
            fun field => field.1 ≠ key := by
        rw [List.filter_filter]
        apply List.filter_congr
        intro field _
        rw [Members.lookup_cons]
        by_cases same : field.1 = key <;> simp [same]
      rw [head, head, fewer]
      cases joins with
      | alone missing =>
        have alone := size_orAbsent_le a
        have less := fieldsSize_filter_le (fun field => field.1 ≠ key)
          (right.filter fun field => (rest.lookup field.1).isNone)
        omega
      | @both b _ found merged =>
        have small := both key a b List.mem_cons_self found t merged
        have new : rest.lookup key = none := Members.lookup_eq_none.2 once.1
        have inside : (key, b) ∈ right.filter fun field => (rest.lookup field.1).isNone :=
          List.mem_filter.2 ⟨Members.mem_of_lookup found, by simp [new]⟩
        have less := size_add_fieldsSize_le inside
        omega
  rw [fieldsSize_append]
  have only := fieldsSize_fieldsOnlyIn_le left right
  omega

end

theorem merges_size : MergeCalls fun a b => a.Distinct → b.Distinct →
    Yields (fun _ => True) (fun t => t.size ≤ a.size + b.size) (a.merge b) where
  emptyLeft b _ _ := by
    rw [empty_merge]
    exact Nat.le_add_left _ _
  emptyRight a _ _ := by
    rw [merge_empty]
    exact Nat.le_add_right _ _
  absentLeft b _ _ := by
    rw [absent_merge_eq]
    have alone := size_orAbsent_le b.unwrapped
    rw [size_unwrapped] at alone
    exact Nat.le_trans alone (Nat.le_add_left _ _)
  absentRight a _ _ := by
    rw [merge_absent_eq]
    have alone := size_orAbsent_le a.unwrapped
    rw [size_unwrapped] at alone
    exact Nat.le_trans alone (Nat.le_add_right _ _)
  optionals a b inner da db := by
    rw [optional_merge_optional, size_optional, size_optional]
    exact (inner (distinct_optional.1 da) (distinct_optional.1 db)).map fun t bounded =>
      Nat.le_trans (size_orAbsent_le t) bounded
  optionalLeft a b plain seen inner da db := by
    rw [optional_merge_of_seen plain seen, size_optional]
    exact (inner (distinct_optional.1 da) db).map fun t bounded =>
      Nat.le_trans (size_orAbsent_le t) bounded
  optionalRight a b plain seen inner da db := by
    rw [merge_optional_of_seen plain seen, size_optional, Nat.add_comm]
    exact (inner (distinct_optional.1 db) da).map fun t bounded =>
      Nat.le_trans (size_orAbsent_le t) bounded
  different a b plainLeft plainRight seenLeft seenRight different _ _ := by
    rw [merge_of_kind_ne plainLeft plainRight seenLeft seenRight different]
    trivial
  leaves a b left right same _ _ := by
    have merged := merge_leaves left right same
    cases outcome : a.merge b with
    | error e => trivial
    | ok t =>
      obtain ⟨leaf, kind⟩ := merged.of_ok outcome
      have equal : t.size = a.size := by rw [size_of_leaf leaf, size_of_leaf left, kind]
      exact Nat.le_trans (Nat.le_of_eq equal) (Nat.le_add_right _ _)
  object n m left right both da db := by
    obtain ⟨once, belowLeft⟩ := distinct_object.1 da
    have belowRight := (distinct_object.1 db).2
    have fields (key : String) (a b : Shape) (old : (key, a) ∈ left)
        (found : right.lookup key = some b) (t : Shape) (merged : a.merge b = .ok t) :
        t.size ≤ a.size + b.size :=
      (both key a b old found (belowLeft _ old)
        (belowRight _ (Members.mem_of_lookup found))).of_ok merged
    rw [object_merge_object]
    split
    · cases merged : mergeFields left right with
      | error e => trivial
      | ok shared =>
        have bounded := fieldsSize_merged_le once fields merged
        show size _ ≤ _
        rw [size_object, size_object, size_object]
        omega
    · trivial
  array n m left right pooled da db := by
    have inPool : ∀ value ∈ left ++ right, value.Distinct :=
      List.forall_mem_append.2 ⟨distinct_array.1 da, distinct_array.1 db⟩
    have last : Yields (fun _ => True) (fun t => valuesSize t.asValues ≤ valuesSize (left ++ right))
        (mergeOnto empty (left ++ right)) := by
      apply yields_mergeOnto_front (Q := fun front t => valuesSize t.asValues ≤ valuesSize front)
      · exact Nat.le_refl _
      intro front value back acc split reached bounded
      have single : valuesSize [value] = value.size := by simp [valuesSize]
      rw [valuesSize_append, single]
      by_cases nothing : acc.kind = .empty
      · rw [eq_empty_of_kind nothing, empty_merge]
        exact Nat.le_trans (valuesSize_asValues_le value) (Nat.le_add_left _ _)
      · have whole : valuesSize acc.asValues = acc.size := by simp [asValues, nothing, valuesSize]
        rw [whole] at bounded
        obtain ⟨dAcc, dValue⟩ := distinct_split inPool split reached
        refine (pooled front value back acc split reached dAcc dValue).imp fun t small => ?_
        have all := valuesSize_asValues_le t
        omega
    rw [array_merge_array, representative_eq]
    split
    · cases merged : mergeOnto empty (left ++ right) with
      | error e => trivial
      | ok t =>
        have bounded := last.of_ok merged
        rw [valuesSize_append] at bounded
        show size _ ≤ _
        rw [size_array, size_array, size_array]
        omega
    · trivial

/-- Merging comes to an end for every two shapes. What comes out is no deeper than the deeper of
them, in nodes and in containers, and has no more nodes than both together, optionals aside. Fields
are a map, so keys are distinct. -/
theorem merge_ends_and_never_grows (a b : Shape) :
    (∃ levels, EndsWithin levels a b) ∧
    ∀ t, a.merge b = .ok t →
      t.height ≤ max a.height b.height ∧ t.depth ≤ max a.depth b.depth ∧
      (a.Distinct → b.Distinct → t.size ≤ a.size + b.size) := by
  refine ⟨merges_end.all a b, fun t ok => ⟨?_, depth_merge_le ok, fun da db => ?_⟩⟩
  · exact (merges_height.all a b).of_ok ok
  · exact (merges_size.all a b da db).of_ok ok

/-- Tags under two optionals and beside a null, and a list of tags that may be missing. -/
theorem merge_ends_and_never_grows_tags :
    let a := array "tags" [optional (optional (text "x")), absent]
    let b := optional (array "tags" [text "y"])
    let t := optional (array "tags" [optional (text "x")])
    a.Distinct ∧ b.Distinct ∧ a.merge b = .ok t ∧ (∃ levels, EndsWithin levels a b) ∧
      t.height ≤ max a.height b.height ∧ t.depth ≤ max a.depth b.depth ∧
      t.size ≤ a.size + b.size := by
  intro a b t
  have distinct : a.Distinct ∧ b.Distinct := by decide
  have merged : a.merge b = .ok t := by
    simp (disch := decide) [a, b, t, merge_optional_of_seen, optional_merge_of_seen,
      array_merge_array, representative_eq, mergeOnto_cons, merge_absent, text_merge_text, orAbsent,
      asValues, kind, Except.bind, Except.map]
  obtain ⟨ends, grows⟩ := merge_ends_and_never_grows a b
  obtain ⟨height, depth, size⟩ := grows t merged
  exact ⟨distinct.1, distinct.2, merged, ends, height, depth, size distinct.1 distinct.2⟩

end ShapeInference.Shape
