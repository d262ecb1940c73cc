import Mathlib.Data.List.Forall2
import Mathlib.Data.List.Induction
import ShapeInference.Proofs.Merge.Induction
import ShapeInference.Proofs.Outcome

/-! What comes out of a merge, be it a shape or an error.

`MergeCalls` follows the calls of `merge` for all pairs of shapes, well formed or not. With it a
property of shapes at their places is shown to be kept by merging, together with the errors that
can occur, from one rule for each kind of node. The first such result is that errors of merges name
no sample, so that a failed reduction names the one at which it failed.
-/

set_option autoImplicit false

namespace ShapeInference

namespace Shape

/-! The calls of `merge`. -/

def unwrapped : Shape → Shape
  | .optional t => t
  | t => t

theorem absent_merge_eq (b : Shape) : absent.merge b = .ok b.unwrapped.orAbsent := by
  cases b with
  | _ => simp only [merge, mergeWithin]; rfl

theorem merge_absent_eq (a : Shape) : a.merge absent = .ok a.unwrapped.orAbsent := by
  cases a with
  | _ => simp only [merge, mergeWithin]; rfl

def isLeaf : Shape → Bool
  | .optional _ => false
  | .object _ _ => false
  | .array _ _ => false
  | _ => true

/-- What the calls of `merge` make of a property of pairs. An array calls it on what the elements in
front of an element have become, and this element. -/
structure MergeCalls (P : Shape → Shape → Prop) : Prop where
  emptyLeft : ∀ b, P empty b
  emptyRight : ∀ a, P a empty
  absentLeft : ∀ b, P absent b
  absentRight : ∀ a, P a absent
  optionals : ∀ a b, P a b → P (optional a) (optional b)
  optionalLeft : ∀ a b, b.isOptional = false → b.kind ≠ .empty → P a b → P (optional a) b
  optionalRight : ∀ a b, a.isOptional = false → a.kind ≠ .empty → P b a → P a (optional b)
  different : ∀ a b, a.isOptional = false → b.isOptional = false → a.kind ≠ .empty →
    b.kind ≠ .empty → a.kind ≠ b.kind → P a b
  leaves : ∀ a b, a.isLeaf = true → b.isLeaf = true → a.kind = b.kind → P a b
  object : ∀ n m left right,
    (∀ key a b, (key, a) ∈ left → right.lookup key = some b → P a b) →
    P (object n left) (object m right)
  array : ∀ n m left right, (∀ front value back acc, left ++ right = front ++ value :: back →
      mergeOnto empty front = .ok acc → P acc value) →
    P (array n left) (array m right)

section
variable {P : Shape → Shape → Prop} {n : Nat}

theorem depth_mergeOnto_lt {acc last : Shape} {values : List Shape}
    (start : acc.depth < n) (all : ∀ value ∈ values, value.depth < n)
    (ok : mergeOnto acc values = .ok last) : last.depth < n := by
  refine mergeOnto_invariant (Q := fun t => t.depth < n) ?_ all start ok
  intro a b t da db merged
  have := depth_merge_le merged
  omega

theorem MergeCalls.containers (calls : MergeCalls P)
    (below : ∀ a b, depth a < n → depth b < n → P a b) {a b : Shape} (da : a.depth < n + 1)
    (db : b.depth < n + 1) (plain : a.isOptional = false) (same : a.kind = b.kind) : P a b := by
  cases a with
  | absent | optional => cases plain
  | object name left =>
    cases b with
    | object other right =>
      simp only [depth] at da db
      apply calls.object
      intro key x y inLeft inRight
      have dx : x.depth ≤ fieldsDepth left := depth_le_of_mem_fields inLeft
      have dy : y.depth ≤ fieldsDepth right := depth_le_of_lookup inRight
      exact below x y (by omega) (by omega)
    | _ => cases same
  | array name left =>
    cases b with
    | array other right =>
      simp only [depth] at da db
      have small : ∀ value ∈ left ++ right, value.depth < n := by
        intro value member
        rcases List.mem_append.1 member with inside | inside <;>
          have := depth_le_of_mem_values inside <;> omega
      apply calls.array
      intro front value back acc split ok
      rw [split, List.forall_mem_append, List.forall_mem_cons] at small
      have shallow := depth_mergeOnto_lt (by simp only [depth]; omega) small.1 ok
      exact below acc value shallow small.2.1
    | _ => cases same
  | _ =>
    cases b with
    | absent | optional | object | array => cases same
    | _ => exact calls.leaves _ _ rfl rfl same

theorem MergeCalls.all (calls : MergeCalls P) (a b : Shape) : P a b := by
  -- Contents of objects and arrays are less deep; optionals are as deep, but have fewer layers.
  have below : ∀ n m a b, depth a < n → depth b < n → layers a + layers b < m → P a b := by
    intro n
    induction n with
    | zero => intro m a b da; omega
    | succ n less =>
      intro m
      induction m with
      | zero => intro a b _ _ few; omega
      | succ m fewer =>
        intro a b da db few
        by_cases noLeft : a.kind = .empty
        · rw [eq_empty_of_kind noLeft]
          exact calls.emptyLeft b
        by_cases noRight : b.kind = .empty
        · rw [eq_empty_of_kind noRight]
          exact calls.emptyRight a
        cases left : a.isOptional with
        | true =>
          cases a with
          | absent => exact calls.absentLeft b
          | optional x =>
            simp only [depth, layers] at da few
            cases right : b.isOptional with
            | true =>
              cases b with
              | absent => exact calls.absentRight (.optional x)
              | optional y =>
                simp only [depth, layers] at db few
                exact calls.optionals x y (fewer x y da db (by omega))
              | _ => cases right
            | false => exact calls.optionalLeft x b right noRight (fewer x b da db (by omega))
          | _ => cases left
        | false =>
          cases right : b.isOptional with
          | true =>
            cases b with
            | absent => exact calls.absentRight a
            | optional y =>
              simp only [depth, layers] at db few
              exact calls.optionalRight a y left noLeft (fewer y a db da (by omega))
            | _ => cases right
          | false =>
            by_cases same : a.kind = b.kind
            · exact calls.containers (fun x y dx dy => less _ x y dx dy (Nat.lt_succ_self _)) da db
                left same
            · exact calls.different a b left right noLeft noRight same
  exact below _ _ a b (Nat.lt_succ_of_le (Nat.le_max_left a.depth b.depth))
    (Nat.lt_succ_of_le (Nat.le_max_right a.depth b.depth)) (Nat.lt_succ_self _)

end

/-! Properties that merging keeps. -/

section
variable {ι : Type} {E : MergeError → Prop}

theorem yields_mergeFields {Q : String → Shape → Prop} {left right : Fields}
    (alone : ∀ key a, (key, a) ∈ left → Q key a.orAbsent)
    (both : ∀ key a b, (key, a) ∈ left → right.lookup key = some b → Yields E (Q key) (a.merge b)) :
    Yields E (fun shared => ∀ field ∈ shared, Q field.1 field.2) (mergeFields left right) := by
  rw [mergeFields_eq_traverse]
  refine Members.yields_traverse fun field member => ?_
  unfold joined
  split
  · next b found => exact both field.1 field.2 b member found
  · exact alone field.1 field.2 member

theorem yields_merged {Q : String → Shape → Prop} {left right : Fields}
    (onlyLeft : ∀ key a, (key, a) ∈ left → Q key a.orAbsent)
    (onlyRight : ∀ key b, (key, b) ∈ right → Q key b.orAbsent)
    (both : ∀ key a b, (key, a) ∈ left → right.lookup key = some b → Yields E (Q key) (a.merge b)) :
    Yields E (fun shared => ∀ field ∈ shared ++ fieldsOnlyIn left right, Q field.1 field.2)
      (mergeFields left right) := by
  refine (yields_mergeFields onlyLeft both).imp fun shared all => ?_
  refine List.forall_mem_append.2 ⟨all, fun field only => ?_⟩
  obtain ⟨other, inside, rfl⟩ := List.mem_map.1 only
  exact onlyRight _ _ (List.mem_filter.1 inside).1

theorem mergeOnto_concat (acc value : Shape) (values : List Shape) :
    mergeOnto acc (values ++ [value]) = (mergeOnto acc values).bind (·.merge value) := by
  induction values generalizing acc with
  | nil =>
    rw [List.nil_append, mergeOnto_cons, mergeOnto_nil, Except.bind]
    cases acc.merge value with
    | error e => rfl
    | ok t => exact mergeOnto_nil t
  | cons first rest ih =>
    rw [List.cons_append, mergeOnto_cons, mergeOnto_cons]
    cases acc.merge first with
    | error e => rfl
    | ok t => exact ih t

theorem yields_mergeOnto_front {Q : List Shape → Shape → Prop} {values : List Shape}
    (start : Q [] empty) (step : ∀ front value back acc, values = front ++ value :: back →
      mergeOnto empty front = .ok acc → Q front acc →
      Yields E (Q (front ++ [value])) (acc.merge value)) :
    Yields E (Q values) (mergeOnto empty values) := by
  induction values using List.reverseRecOn with
  | nil =>
    rw [mergeOnto_nil]
    exact start
  | append_singleton values last ih =>
    rw [mergeOnto_concat]
    refine (ih fun front value back acc split => ?_).bind fun acc reached holds => ?_
    · apply step front value (back ++ [last])
      rw [split, List.append_assoc, List.cons_append]
    · exact step values last [] acc rfl reached holds

theorem yields_mergeOnto {Q : Shape → Prop} {values : List Shape} (start : Q empty)
    (step : ∀ front value back acc, values = front ++ value :: back →
      mergeOnto empty front = .ok acc → Q acc → Yields E Q (acc.merge value)) :
    Yields E Q (mergeOnto empty values) :=
  yields_mergeOnto_front (Q := fun _ => Q) start step

theorem both_mergeOnto {R : Shape → Shape → Prop} {values values' : List Shape} {acc acc' : Shape}
    (paired : List.Forall₂ R values values') (start : R acc acc')
    (step : ∀ front value back t, values = front ++ value :: back → mergeOnto acc front = .ok t →
      ∀ t' value', R t t' → R value value' → Both R (t.merge value) (t'.merge value')) :
    Both R (mergeOnto acc values) (mergeOnto acc' values') := by
  induction paired generalizing acc acc' with
  | nil =>
    rw [mergeOnto_nil, mergeOnto_nil]
    exact .ok start
  | @cons value value' rest _ first _ ih =>
    have merged := step [] value rest acc rfl (mergeOnto_nil acc) acc' value' start first
    rw [mergeOnto_cons, mergeOnto_cons]
    refine merged.reached.bind fun t t' ⟨reached, related⟩ => ih related ?_
    intro front next back u split ok
    apply step (value :: front) next back u (by rw [split, List.cons_append])
    exact mergeOnto_cons_eq_ok.2 ⟨t, reached, ok⟩

theorem merge_leaves {a b : Shape} (left : a.isLeaf = true) (right : b.isLeaf = true)
    (same : a.kind = b.kind) : Yields (fun e => ∃ x y, e = { clash := .kinds x y })
      (fun t => t.isLeaf = true ∧ t.kind = a.kind) (a.merge b) := by
  cases a with
  | optional | object | array => cases left
  | empty =>
    rw [empty_merge]
    exact ⟨right, same.symm⟩
  | absent =>
    cases b with
    | absent => rw [absent_merge_eq]; exact ⟨rfl, rfl⟩
    | optional => cases right
    | _ => cases same
  | bool x =>
    cases b with
    | bool y => rw [bool_merge_bool]; exact ⟨rfl, rfl⟩
    | _ => cases same
  | number x =>
    cases b with
    | number y => rw [number_merge_number]; exact ⟨rfl, rfl⟩
    | _ => cases same
  | text x =>
    cases b with
    | text y => rw [text_merge_text]; exact ⟨rfl, rfl⟩
    | _ => cases same
  | url x =>
    cases b with
    | url y => rw [url_merge_url]; exact ⟨rfl, rfl⟩
    | _ => cases same
  | date x =>
    cases b with
    | date y =>
      rw [date_merge_date]
      split
      · exact ⟨rfl, rfl⟩
      · exact ⟨_, _, rfl⟩
    | _ => cases same

def joinedKind (a b : Kind) : Kind :=
  if a = .empty then b else if b = .optional then .optional else a

theorem joinedKind_eq_optional {a b : Kind} :
    joinedKind a b = .optional ↔ a = .optional ∨ b = .optional := by
  cases a <;> cases b <;> decide

theorem joinedKind_eq_empty {a b : Kind} : joinedKind a b = .empty ↔ a = .empty ∧ b = .empty := by
  cases a <;> cases b <;> decide

theorem kind_orAbsent (t : Shape) : t.orAbsent.kind = .optional := by
  cases t <;> rfl

theorem kind_of_orAbsent {x : Except MergeError Shape} {t : Shape}
    (ok : x.map orAbsent = .ok t) : t.kind = .optional := by
  obtain ⟨s, _, rfl⟩ := map_eq_ok.1 ok
  exact kind_orAbsent s

theorem merges_kind : MergeCalls fun a b => ∀ t, a.merge b = .ok t →
    t.kind = joinedKind a.kind b.kind where
  emptyLeft b t ok := by
    rw [empty_merge] at ok
    cases ok
    rfl
  emptyRight a t ok := by
    rw [merge_empty] at ok
    cases ok
    cases a <;> rfl
  absentLeft b t ok := by
    rw [absent_merge_eq] at ok
    cases ok
    exact (kind_orAbsent _).trans (joinedKind_eq_optional.2 (.inl rfl)).symm
  absentRight a t ok := by
    rw [merge_absent_eq] at ok
    cases ok
    exact (kind_orAbsent _).trans (joinedKind_eq_optional.2 (.inr rfl)).symm
  optionals a b _ t ok := by
    rw [optional_merge_optional] at ok
    exact (kind_of_orAbsent ok).trans (joinedKind_eq_optional.2 (.inl rfl)).symm
  optionalLeft a b plain seen _ t ok := by
    rw [optional_merge_of_seen plain seen] at ok
    exact (kind_of_orAbsent ok).trans (joinedKind_eq_optional.2 (.inl rfl)).symm
  optionalRight a b plain seen _ t ok := by
    rw [merge_optional_of_seen plain seen] at ok
    exact (kind_of_orAbsent ok).trans (joinedKind_eq_optional.2 (.inr rfl)).symm
  different a b plainLeft plainRight seenLeft seenRight different t ok := by
    rw [merge_of_kind_ne plainLeft plainRight seenLeft seenRight different] at ok
    cases ok
  leaves a b left right same t ok := by
    rw [((merge_leaves left right same).of_ok ok).2, ← same]
    cases a <;> rfl
  object n m left right _ t ok := (unites_of_merge rfl rfl ok).kind_eq.1 (by simp [kind])
  array n m left right _ t ok := (unites_of_merge rfl rfl ok).kind_eq.1 (by simp [kind])

theorem kind_merge {a b t : Shape} (ok : a.merge b = .ok t) :
    t.kind = joinedKind a.kind b.kind :=
  merges_kind.all a b t ok

theorem isOptional_merge {a b t : Shape} (ok : a.merge b = .ok t) :
    t.isOptional = (a.isOptional || b.isOptional) := by
  unfold isOptional
  rw [kind_merge ok, ← Bool.decide_or]
  exact decide_eq_decide.2 joinedKind_eq_optional

/-- A property of shapes at their places: if two shapes have it at one place, what they merge to has
it there, or they fail with an error that is allowed. The place of a field comes from its key and
the place of its object, and all elements of an array stand at one place. -/
structure Kept (field : ι → String → ι) (element : ι → ι) (E : MergeError → Prop)
    (Q : ι → Shape → Prop) : Prop where
  kinds : ∀ left right, E { clash := .kinds left right }
  leaf : ∀ i t, t.isLeaf = true → Q i t
  inner : ∀ i t, Q i (optional t) → Q i t
  orAbsent : ∀ i t, Q i t → Q i t.orAbsent
  objectNames : ∀ i n m left right, Q i (object n left) → Q i (object m right) → n ≠ m →
    E { clash := .names .object n m }
  member : ∀ i n fields key t, Q i (object n fields) → (key, t) ∈ fields → Q (field i key) t
  object : ∀ i n left fields, Q i (object n left) →
    (∀ member ∈ fields, Q (field i member.1) member.2) → Q i (object n fields)
  arrayNames : ∀ i n m left right, Q i (array n left) → Q i (array m right) → n ≠ m →
    E { clash := .names .array n m }
  value : ∀ i n values t, Q i (array n values) → t ∈ values → Q (element i) t
  array : ∀ i n values t, Q i (array n values) → Q (element i) t → Q i (array n t.asValues)

namespace Kept

variable {field : ι → String → ι} {element : ι → ι} {Q : ι → Shape → Prop}

theorem unwrapped (kept : Kept field element E Q) {i : ι} {t : Shape} (h : Q i t) :
    Q i t.unwrapped := by
  cases t with
  | optional inner => exact kept.inner i inner h
  | _ => exact h

theorem calls (kept : Kept field element E Q) :
    MergeCalls fun a b => ∀ i, Q i a → Q i b → Yields E (Q i) (a.merge b) where
  emptyLeft b i _ hb := by
    rw [empty_merge]
    exact hb
  emptyRight a i ha _ := by
    rw [merge_empty]
    exact ha
  absentLeft b i _ hb := by
    rw [absent_merge_eq]
    exact kept.orAbsent i _ (kept.unwrapped hb)
  absentRight a i ha _ := by
    rw [merge_absent_eq]
    exact kept.orAbsent i _ (kept.unwrapped ha)
  optionals a b inner i ha hb := by
    rw [optional_merge_optional]
    exact (inner i (kept.inner i a ha) (kept.inner i b hb)).map (kept.orAbsent i)
  optionalLeft a b plain seen inner i ha hb := by
    rw [optional_merge_of_seen plain seen]
    exact (inner i (kept.inner i a ha) hb).map (kept.orAbsent i)
  optionalRight a b plain seen inner i ha hb := by
    rw [merge_optional_of_seen plain seen]
    exact (inner i (kept.inner i b hb) ha).map (kept.orAbsent i)
  different a b plainLeft plainRight seenLeft seenRight different i _ _ := by
    rw [merge_of_kind_ne plainLeft plainRight seenLeft seenRight different]
    exact kept.kinds a.kind b.kind
  leaves a b left right same i _ _ := by
    have merged := merge_leaves left right same
    cases outcome : a.merge b with
    | ok t => exact kept.leaf i t (merged.of_ok outcome).1
    | error e =>
      obtain ⟨x, y, rfl⟩ := merged.of_error outcome
      exact kept.kinds x y
  object n m left right both i ha hb := by
    rw [object_merge_object]
    split
    · have fields := yields_merged (E := E) (Q := fun key => Q (field i key))
        (fun key a inLeft => kept.orAbsent _ a (kept.member i n left key a ha inLeft))
        (fun key b inRight => kept.orAbsent _ b (kept.member i m right key b hb inRight))
        fun key a b inLeft inRight => both key a b inLeft inRight _
          (kept.member i n left key a ha inLeft)
          (kept.member i m right key b hb (Members.mem_of_lookup inRight))
      exact fields.map fun shared all => kept.object i n left _ ha all
    · next different => exact kept.objectNames i n m left right ha hb different
  array n m left right pooled i ha hb := by
    rw [array_merge_array]
    split
    · have inPool : ∀ value ∈ left ++ right, Q (element i) value :=
        List.forall_mem_append.2 ⟨fun value => kept.value i n left value ha,
          fun value => kept.value i m right value hb⟩
      have last : Yields E (Q (element i)) (mergeOnto .empty (left ++ right)) := by
        apply yields_mergeOnto (kept.leaf _ _ rfl)
        intro front value back acc split reached holds
        exact pooled front value back acc split reached _ holds (inPool value (by simp [split]))
      rw [representative_eq]
      -- The element itself is mapped twice: to the values of the array, and to the array.
      cases merged : Shape.mergeOnto .empty (left ++ right) with
      | error e => exact last.of_error merged
      | ok t => exact kept.array i n left t ha (last.of_ok merged)
    · next different => exact kept.arrayNames i n m left right ha hb different

theorem merge (kept : Kept field element E Q) {i : ι} {a b : Shape} (ha : Q i a) (hb : Q i b) :
    Yields E (Q i) (a.merge b) :=
  kept.calls.all a b i ha hb

theorem mergeOnto (kept : Kept field element E Q) {i : ι} {values : List Shape}
    (all : ∀ value ∈ values, Q i value) : Yields E (Q i) (mergeOnto empty values) := by
  apply yields_mergeOnto (kept.leaf i _ rfl)
  intro front value back acc split _ holds
  exact kept.merge holds (all value (by simp [split]))

theorem representative (kept : Kept field element E Q) {i : ι} {values : List Shape}
    (all : ∀ value ∈ values, Q i value) :
    Yields E (fun values => ∀ value ∈ values, Q i value) (representative values) := by
  rw [representative_eq]
  refine (kept.mergeOnto all).map fun t holds value member => ?_
  rw [mem_asValues member]
  exact holds

end Kept

end

theorem everywhere_leaf {p : Shape → Prop} {t : Shape} (leaf : t.isLeaf = true) :
    t.Everywhere p ↔ p t := by
  cases t with
  | optional | object | array => cases leaf
  | _ => simp [Everywhere, nodes]

theorem kept_everywhere {p : Shape → Prop} (leaf : ∀ t, t.isLeaf = true → p t)
    (optional : ∀ t, p (optional t))
    (object : ∀ n left right, p (object n left) → p (object n right))
    (array : ∀ n values (t : Shape), p (array n values) → p (array n t.asValues)) :
    Kept (fun _ _ => ()) id (fun _ => True) fun _ t => t.Everywhere p where
  kinds _ _ := trivial
  leaf _ t isLeaf := (everywhere_leaf isLeaf).2 (leaf t isLeaf)
  inner _ t h := (everywhere_optional.1 h).2
  orAbsent _ t h := by
    cases t with
    | empty => exact (everywhere_leaf rfl).2 (leaf absent rfl)
    | absent | optional => exact h
    | _ => exact everywhere_optional.2 ⟨optional _, h⟩
  objectNames _ _ _ _ _ _ _ _ := trivial
  member _ n fields key t h inside := (everywhere_object.1 h).2 (key, t) inside
  object _ n left fields h all :=
    everywhere_object.2 ⟨object n left fields (everywhere_object.1 h).1, all⟩
  arrayNames _ _ _ _ _ _ _ _ := trivial
  value _ n values t h inside := (everywhere_array.1 h).2 t inside
  array _ n values t h ht := by
    refine everywhere_array.2 ⟨array n values t (everywhere_array.1 h).1, fun value member => ?_⟩
    rw [mem_asValues member]
    exact ht

/-! Distinct keys. -/

theorem distinct_of_isLeaf {t : Shape} (leaf : t.isLeaf = true) : t.Distinct := by
  have once : t.KeysOnce := by
    cases t with
    | object => cases leaf
    | _ => trivial
  exact (everywhere_leaf leaf).2 once

theorem Distinct.unwrapped {t : Shape} (h : t.Distinct) : t.unwrapped.Distinct := by
  cases t with
  | optional inner => exact distinct_optional.1 h
  | _ => exact h

theorem merges_distinct : MergeCalls fun a b => a.Distinct → b.Distinct →
    Yields (fun _ => True) Distinct (a.merge b) where
  emptyLeft b _ db := by
    rw [empty_merge]
    exact db
  emptyRight a da _ := by
    rw [merge_empty]
    exact da
  absentLeft b _ db := by
    rw [absent_merge_eq]
    exact db.unwrapped.orAbsent
  absentRight a da _ := by
    rw [merge_absent_eq]
    exact da.unwrapped.orAbsent
  optionals a b inner da db := by
    rw [optional_merge_optional]
    exact (inner (distinct_optional.1 da) (distinct_optional.1 db)).map fun _ => Distinct.orAbsent
  optionalLeft a b plain seen inner da db := by
    rw [optional_merge_of_seen plain seen]
    exact (inner (distinct_optional.1 da) db).map fun _ => Distinct.orAbsent
  optionalRight a b plain seen inner da db := by
    rw [merge_optional_of_seen plain seen]
    exact (inner (distinct_optional.1 db) da).map fun _ => Distinct.orAbsent
  different a b plainLeft plainRight seenLeft seenRight different _ _ := by
    rw [merge_of_kind_ne plainLeft plainRight seenLeft seenRight different]
    trivial
  leaves a b left right same _ _ := by
    have merged := merge_leaves left right same
    cases outcome : a.merge b with
    | error e => trivial
    | ok t =>
      exact distinct_of_isLeaf (merged.of_ok outcome).1
  object n m left right both da db := by
    obtain ⟨onceLeft, belowLeft⟩ := distinct_object.1 da
    obtain ⟨onceRight, belowRight⟩ := distinct_object.1 db
    have fields := yields_merged (E := fun _ => True) (Q := fun _ => Distinct)
      (fun key a inLeft => (belowLeft _ inLeft).orAbsent)
      (fun key b inRight => (belowRight _ inRight).orAbsent)
      fun key a b inLeft inRight => both key a b inLeft inRight (belowLeft _ inLeft)
        (belowRight _ (Members.mem_of_lookup inRight))
    rw [object_merge_object]
    split
    · cases merged : mergeFields left right with
      | error e => trivial
      | ok shared =>
        exact distinct_object.2
          ⟨nodup_keys_merged merged onceLeft onceRight, fields.of_ok merged⟩
    · trivial
  array n m left right pooled da db := by
    have inPool : ∀ value ∈ left ++ right, value.Distinct :=
      List.forall_mem_append.2 ⟨distinct_array.1 da, distinct_array.1 db⟩
    have last : Yields (fun _ => True) Distinct (mergeOnto empty (left ++ right)) := by
      apply yields_mergeOnto distinct_empty
      intro front value back acc split reached holds
      exact pooled front value back acc split reached holds (inPool value (by simp [split]))
    rw [array_merge_array, representative_eq]
    split
    · cases merged : mergeOnto empty (left ++ right) with
      | error e => trivial
      | ok t =>
        apply distinct_array.2
        intro value member
        rw [mem_asValues member]
        exact last.of_ok merged
    · trivial

theorem distinct_mergeOnto {values : List Shape} (all : ∀ value ∈ values, value.Distinct) :
    Yields (fun _ => True) Distinct (mergeOnto empty values) := by
  apply yields_mergeOnto distinct_empty
  intro front value back acc split _ holds
  exact merges_distinct.all acc value holds (all value (by simp [split]))

theorem distinct_split {values front back : List Shape} {value acc : Shape}
    (all : ∀ value ∈ values, value.Distinct) (split : values = front ++ value :: back)
    (reached : mergeOnto empty front = .ok acc) : acc.Distinct ∧ value.Distinct := by
  rw [split, List.forall_mem_append, List.forall_mem_cons] at all
  exact ⟨(distinct_mergeOnto all.1).of_ok reached, all.2.1⟩

theorem Tidy.merge {a b t : Shape} (ta : a.Tidy) (tb : b.Tidy) (ok : a.merge b = .ok t) :
    t.Tidy :=
  ⟨ta.wellFormed.merge tb.wellFormed ok,
    (merges_distinct.all a b ta.distinct tb.distinct).of_ok ok⟩

/-! Errors of merges. -/

theorem kept_unindexed : Kept (fun _ _ => ()) id (fun e => e.sample = none) fun _ _ => True := by
  constructor <;> intros <;> trivial

/-- No position of a field or an element is taken for the index of a sample. -/
theorem sample_of_merge {a b : Shape} {e : MergeError} (failed : a.merge b = .error e) :
    e.sample = none :=
  (kept_unindexed.merge (i := ()) trivial trivial).of_error failed

section
variable {samples : List Shape} {error : MergeError}

theorem same_reduce (samples : List Shape) : Same (reduce samples) (mergeOnto empty samples) :=
  fun _ => reduce_eq_ok

theorem reduceFrom_eq_error {acc : Shape} {index : Nat} :
    reduceFrom acc index samples = .error error ↔
      ∃ front sample back s cause, samples = front ++ sample :: back ∧
        mergeOnto acc front = .ok s ∧ s.merge sample = .error cause ∧
        error = cause.atSample (index + front.length) := by
  induction samples generalizing acc index with
  | nil => simp [reduceFrom]
  | cons first rest ih =>
    rw [reduceFrom]
    constructor
    · intro failed
      cases step : acc.merge first with
      | error cause =>
        rw [step] at failed
        cases failed
        exact ⟨[], first, rest, acc, cause, rfl, mergeOnto_nil acc, step, rfl⟩
      | ok t =>
        rw [step] at failed
        obtain ⟨front, sample, back, s, cause, rfl, reached, clash, rfl⟩ := ih.1 failed
        refine ⟨first :: front, sample, back, s, cause, rfl, ?_, clash, ?_⟩
        · exact mergeOnto_cons_eq_ok.2 ⟨t, step, reached⟩
        · rw [List.length_cons, Nat.add_assoc, Nat.add_comm 1]
    · rintro ⟨front, sample, back, s, cause, split, reached, clash, rfl⟩
      cases front with
      | nil =>
        rw [mergeOnto_nil] at reached
        cases reached
        cases split
        rw [clash]
        rfl
      | cons head front =>
        cases split
        obtain ⟨t, step, later⟩ := mergeOnto_cons_eq_ok.1 reached
        rw [step]
        refine ih.2 ⟨front, sample, back, s, cause, rfl, later, clash, ?_⟩
        rw [List.length_cons, Nat.add_assoc, Nat.add_comm 1]

/-- Reducing fails at the first sample that does not merge with the reduced samples before. -/
theorem reduce_eq_error : reduce samples = .error error ↔
    ∃ front sample back s cause, samples = front ++ sample :: back ∧ reduce front = .ok s ∧
      s.merge sample = .error cause ∧ error = { cause with sample := some front.length } := by
  have index {s sample : Shape} {cause : MergeError} {i : Nat}
      (clash : s.merge sample = .error cause) :
      cause.atSample (0 + i) = { cause with sample := some i } := by
    rw [MergeError.atSample, sample_of_merge clash, Nat.zero_add, Option.none_or]
  rw [reduce, reduceFrom_eq_error]
  simp only [← reduce_eq_ok]
  constructor
  · rintro ⟨front, sample, back, s, cause, split, reached, clash, rfl⟩
    exact ⟨front, sample, back, s, cause, split, reached, clash, index clash⟩
  · rintro ⟨front, sample, back, s, cause, split, reached, clash, rfl⟩
    exact ⟨front, sample, back, s, cause, split, reached, clash, (index clash).symm⟩

theorem Kept.reduce {ι : Type} {field : ι → String → ι} {element : ι → ι} {E : MergeError → Prop}
    {Q : ι → Shape → Prop} (kept : Kept field element E Q)
    (indexed : ∀ e index, E e → E { e with sample := some index }) {i : ι}
    (all : ∀ sample ∈ samples, Q i sample) : Yields E (Q i) (reduce samples) := by
  cases outcome : Shape.reduce samples with
  | ok t => exact (kept.mergeOnto all).of_ok (reduce_eq_ok.1 outcome)
  | error e =>
    obtain ⟨front, sample, back, s, cause, rfl, reached, clash, rfl⟩ := reduce_eq_error.1 outcome
    obtain ⟨inFront, inRest⟩ := List.forall_mem_append.1 all
    have holds : Q i s := (kept.mergeOnto inFront).of_ok (reduce_eq_ok.1 reached)
    exact indexed _ _ ((kept.merge holds (inRest sample List.mem_cons_self)).of_error clash)

end

end Shape

end ShapeInference
