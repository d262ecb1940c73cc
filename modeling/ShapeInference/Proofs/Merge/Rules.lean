import ShapeInference.Proofs.Shape.WellFormed

/-! The rules of merging, for proofs.

Merging well-formed shapes is merging their bare shapes, with one bit put on again at the end. For
bare shapes the relation `Unites` has a rule for every way to succeed, and the entries of two
objects merge key by key.
-/

set_option autoImplicit false

namespace ShapeInference.Shape

/-! Optionals. -/

theorem eq_empty_of_kind {t : Shape} (h : t.kind = .empty) : t = empty := by
  cases t <;> simp [kind] at h ⊢

theorem WellFormed.optional_cases {t : Shape} (h : t.WellFormed) (opt : t.isOptional = true) :
    t = absent ∨ ∃ inner, t = optional inner ∧ inner.isOptional = false ∧
      inner.kind ≠ .empty ∧ t.bare = inner := by
  cases t with
  | absent => exact .inl rfl
  | optional inner =>
    obtain ⟨⟨seen, single⟩, _⟩ := wellFormed_optional.1 h
    have plain : inner.isOptional = false := by simpa [isOptional] using single
    exact .inr ⟨inner, rfl, plain, seen, bare_of_not_isOptional plain⟩
  | _ => simp [isOptional, kind] at opt

theorem orAbsent_of_seen {t : Shape} (plain : t.isOptional = false) (seen : t.kind ≠ .empty) :
    t.orAbsent = optional t := by
  cases t <;> simp_all [isOptional, kind, orAbsent]

theorem absent_merge {b : Shape} (wb : b.WellFormed) : absent.merge b = .ok b.orAbsent := by
  cases b with
  | optional inner =>
    obtain ⟨⟨seen, single⟩, _⟩ := wellFormed_optional.1 wb
    have merged : absent.merge (optional inner) = .ok inner.orAbsent := by
      simp only [merge, mergeWithin]; rfl
    rw [merged, orAbsent_of_seen (by simpa [isOptional] using single) seen, orAbsent]
  | _ => simp only [merge, mergeWithin]; rfl

theorem merge_absent {a : Shape} (wa : a.WellFormed) : a.merge absent = .ok a.orAbsent := by
  cases a with
  | optional inner =>
    obtain ⟨⟨seen, single⟩, _⟩ := wellFormed_optional.1 wa
    have merged : (optional inner).merge absent = .ok inner.orAbsent := by
      simp only [merge, mergeWithin]; rfl
    rw [merged, orAbsent_of_seen (by simpa [isOptional] using single) seen, orAbsent]
  | _ => simp only [merge, mergeWithin]; rfl

theorem optional_merge_optional (a b : Shape) :
    (optional a).merge (optional b) = (a.merge b).map orAbsent := by
  simp only [merge, mergeWithin]
  cases mergeWithin a b <;> rfl

theorem optional_merge_of_seen {a b : Shape} (plain : b.isOptional = false)
    (seen : b.kind ≠ .empty) : (optional a).merge b = (a.merge b).map orAbsent := by
  cases b with
  | empty => exact absurd rfl seen
  | absent | optional => simp [isOptional, kind] at plain
  | _ => simp only [merge, mergeWithin]; cases mergeWithin a _ <;> rfl

theorem merge_optional_of_seen {a b : Shape} (plain : a.isOptional = false)
    (seen : a.kind ≠ .empty) : a.merge (optional b) = (b.merge a).map orAbsent := by
  cases a with
  | empty => exact absurd rfl seen
  | absent | optional => simp [isOptional, kind] at plain
  | _ => simp only [merge, mergeWithin]; cases mergeWithin b _ <;> rfl

theorem merge_of_isOptional_left {a b : Shape} (wa : a.WellFormed) (wb : b.WellFormed)
    (opt : a.isOptional = true) : a.merge b = (a.bare.merge b.bare).map orAbsent := by
  rcases wa.optional_cases opt with rfl | ⟨x, rfl, plain, seen, bareLeft⟩
  -- An absent shape merges like nothing, except that the result is optional.
  · have same : b.bare.orAbsent = b.orAbsent := by
      rw [← wb.orAbsentIf_bare]
      cases b.isOptional <;> simp [orAbsentIf]
    rw [absent_merge wb, bare, empty_merge, Except.map, same]
  · rw [bareLeft]
    cases right : b.isOptional with
    | false =>
      rw [bare_of_not_isOptional right]
      by_cases empty : b.kind = .empty
      · rw [eq_empty_of_kind empty, merge_empty, merge_empty, Except.map,
          orAbsent_of_seen plain seen]
      · exact optional_merge_of_seen right empty
    | true =>
      rcases wb.optional_cases right with rfl | ⟨y, rfl, _, _, bareRight⟩
      · rw [merge_absent wa, bare, merge_empty, Except.map, orAbsent_of_seen plain seen, orAbsent]
      · rw [bareRight, optional_merge_optional]

theorem merge_of_isOptional_right {a b : Shape} (wa : a.WellFormed) (wb : b.WellFormed)
    (plain : a.isOptional = false) (opt : b.isOptional = true) :
    a.merge b = (b.bare.merge a).map orAbsent := by
  rcases wb.optional_cases opt with rfl | ⟨y, rfl, plainRight, seenRight, bareRight⟩
  · rw [merge_absent wa, bare, empty_merge, Except.map]
  · rw [bareRight]
    by_cases empty : a.kind = .empty
    · rw [eq_empty_of_kind empty, empty_merge, merge_empty, Except.map,
        orAbsent_of_seen plainRight seenRight]
    · exact merge_optional_of_seen plain empty

/-! Bare shapes. -/

def asValues (t : Shape) : List Shape := if t.kind = .empty then [] else [t]

theorem mem_asValues {t value : Shape} (member : value ∈ t.asValues) : value = t := by
  unfold asValues at member
  split at member
  · cases member
  · exact List.mem_singleton.1 member

theorem asValues_eq_nil {t : Shape} : t.asValues = [] ↔ t.kind = .empty := by
  unfold asValues
  split
  · next nothing => exact iff_of_true rfl nothing
  · next some => exact iff_of_false (List.cons_ne_nil t []) some

theorem length_asValues_le (t : Shape) : t.asValues.length ≤ 1 := by
  unfold asValues
  split
  · exact Nat.zero_le 1
  · exact Nat.le_refl 1

theorem asValues_injective {u v : Shape} (same : u.asValues = v.asValues) : u = v := by
  have first (t : Shape) : t.asValues.headD empty = t := by
    unfold asValues
    split
    · next nothing => exact (eq_empty_of_kind nothing).symm
    · rfl
  rw [← first u, same, first v]

theorem nil_or_singleton {values : List Shape} (few : values.length ≤ 1) :
    values = [] ∨ ∃ value, values = [value] := by
  cases values with
  | nil => exact .inl rfl
  | cons value rest =>
    have last : rest = [] := List.length_eq_zero_iff.1 (Nat.le_zero.1 (Nat.le_of_succ_le_succ few))
    exact .inr ⟨value, last ▸ rfl⟩

theorem singleValue_iff {name : String} {values : List Shape} :
    (array name values).SingleValue ↔ ∃ t : Shape, values = t.asValues := by
  constructor
  · rintro ⟨few, seen⟩
    rcases nil_or_singleton few with rfl | ⟨value, rfl⟩
    · exact ⟨empty, rfl⟩
    · exact ⟨value, (if_neg (seen value List.mem_cons_self)).symm⟩
  · rintro ⟨t, rfl⟩
    refine ⟨length_asValues_le t, fun value member nothing => ?_⟩
    cases mem_asValues member
    rw [asValues_eq_nil.2 nothing] at member
    cases member

theorem forall_asValues {p : Shape → Prop} {t : Shape} (nothing : p .empty)
    (all : ∀ value ∈ t.asValues, p value) : p t := by
  by_cases none : t.kind = .empty
  · rwa [eq_empty_of_kind none]
  · apply all
    rw [asValues, if_neg none]
    exact List.mem_singleton_self t

theorem representative_eq (values : List Shape) :
    representative values = (mergeOnto empty values).map asValues := rfl

inductive Unites : Shape → Shape → Shape → Prop where
  | emptyLeft (b : Shape) : Unites empty b b
  | emptyRight (a : Shape) : Unites a empty a
  | bool (x y : Bool) : Unites (bool x) (bool y) (bool (x && y))
  | number (x y : NumberKind) : Unites (number x) (number y) (number (x.widen y))
  | text (x y : String) : Unites (text x) (text y) (text (if x = "" then y else x))
  | object (name : String) {left right shared : Fields} :
      mergeFields left right = .ok shared →
      Unites (object name left) (object name right)
        (object name (shared ++ fieldsOnlyIn left right))
  | array (name : String) {left right : List Shape} {element : Shape} :
      mergeOnto empty (left ++ right) = .ok element →
      Unites (array name left) (array name right) (array name element.asValues)
  | url (x y : String) : Unites (url x) (url y) (url x)
  | date (format : DateFormat) : Unites (date format) (date format) (date format)

theorem bool_merge_bool (x y : Bool) : (bool x).merge (bool y) = .ok (bool (x && y)) := by
  simp only [merge, mergeWithin]; rfl

theorem number_merge_number (x y : NumberKind) :
    (number x).merge (number y) = .ok (number (x.widen y)) := by
  simp only [merge, mergeWithin]; rfl

theorem text_merge_text (x y : String) :
    (text x).merge (text y) = .ok (text (if x = "" then y else x)) := by
  simp only [merge, mergeWithin]; rfl

theorem url_merge_url (x y : String) : (url x).merge (url y) = .ok (url x) := by
  simp only [merge, mergeWithin]; rfl

theorem date_merge_date (x y : DateFormat) : (date x).merge (date y) =
    if x = y then .ok (date x) else .error { clash := .kinds .date .date } := by
  simp only [merge, mergeWithin]
  split <;> rfl

theorem merge_of_kind_ne {a b : Shape} (plainLeft : a.isOptional = false)
    (plainRight : b.isOptional = false) (seenLeft : a.kind ≠ .empty) (seenRight : b.kind ≠ .empty)
    (different : a.kind ≠ b.kind) : a.merge b = .error { clash := .kinds a.kind b.kind } := by
  cases a <;> cases b <;>
    first
    | exact absurd rfl seenLeft
    | exact absurd rfl seenRight
    | exact absurd rfl different
    | (simp only [merge, mergeWithin]; rfl)
    | simp [isOptional, kind] at plainLeft plainRight

theorem unites_of_merge {a b t : Shape} (plainLeft : a.isOptional = false)
    (plainRight : b.isOptional = false) (ok : a.merge b = .ok t) : Unites a b t := by
  -- Nothing on either side is settled first, since it goes with every kind.
  by_cases left : a.kind = .empty
  · rw [eq_empty_of_kind left, empty_merge] at ok
    cases ok
    exact eq_empty_of_kind left ▸ .emptyLeft b
  by_cases right : b.kind = .empty
  · rw [eq_empty_of_kind right, merge_empty] at ok
    cases ok
    exact eq_empty_of_kind right ▸ .emptyRight a
  by_cases same : a.kind = b.kind
  · cases a with
    | empty => exact absurd rfl left
    | absent | optional => simp [isOptional, kind] at plainLeft
    | bool x =>
      cases b with
      | bool y => rw [bool_merge_bool] at ok; cases ok; exact .bool x y
      | _ => simp [kind] at same
    | number x =>
      cases b with
      | number y => rw [number_merge_number] at ok; cases ok; exact .number x y
      | _ => simp [kind] at same
    | text x =>
      cases b with
      | text y => rw [text_merge_text] at ok; cases ok; exact .text x y
      | _ => simp [kind] at same
    | object n fields =>
      cases b with
      | object m others =>
        rw [object_merge_object] at ok
        split at ok
        · next equal =>
          subst equal
          cases shared : mergeFields fields others with
          | error e => rw [shared] at ok; cases ok
          | ok merged => rw [shared] at ok; cases ok; exact .object n shared
        · cases ok
      | _ => simp [kind] at same
    | array n values =>
      cases b with
      | array m others =>
        rw [array_merge_array, representative_eq] at ok
        split at ok
        · next equal =>
          subst equal
          cases folded : mergeOnto empty (values ++ others) with
          | error e => rw [folded] at ok; cases ok
          | ok element => rw [folded] at ok; cases ok; exact .array n folded
        · cases ok
      | _ => simp [kind] at same
    | url x =>
      cases b with
      | url y => rw [url_merge_url] at ok; cases ok; exact .url x y
      | _ => simp [kind] at same
    | date x =>
      cases b with
      | date y =>
        rw [date_merge_date] at ok
        split at ok
        · next equal => subst equal; cases ok; exact .date x
        · cases ok
      | _ => simp [kind] at same
  · rw [merge_of_kind_ne plainLeft plainRight left right same] at ok
    cases ok

theorem merge_of_unites {a b t : Shape} (h : Unites a b t) : a.merge b = .ok t := by
  cases h with
  | emptyLeft => exact empty_merge _
  | emptyRight => exact merge_empty _
  | bool => exact bool_merge_bool _ _
  | number => exact number_merge_number _ _
  | text => exact text_merge_text _ _
  | object _ shared => rw [object_merge_object, if_pos rfl, shared, Except.map]
  | array _ folded =>
    rw [array_merge_array, if_pos rfl, representative_eq, folded, Except.map, Except.map]
  | url => exact url_merge_url _ _
  | date => rw [date_merge_date, if_pos rfl]

theorem Unites.plain {a b t : Shape} (h : Unites a b t) (plainLeft : a.isOptional = false)
    (plainRight : b.isOptional = false) : t.isOptional = false := by
  cases h with
  | emptyLeft => exact plainRight
  | emptyRight => exact plainLeft
  | _ => rfl

/-- A merge is a merge of the bare shapes with one bit put on. The right one may come first only
if it is optional. -/
theorem merge_eq_ok {a b t : Shape} (wa : a.WellFormed) (wb : b.WellFormed)
    (ok : a.merge b = .ok t) : t.isOptional = (a.isOptional || b.isOptional) ∧
      (a.bare.merge b.bare = .ok t.bare ∨
        b.isOptional = true ∧ b.bare.merge a.bare = .ok t.bare) := by
  have bit {x y : Shape} (plainLeft : x.isOptional = false) (plainRight : y.isOptional = false)
      (ok : (x.merge y).map orAbsent = .ok t) :
      t.isOptional = true ∧ x.merge y = .ok t.bare := by
    cases merged : x.merge y with
    | error e => simp [merged, Except.map] at ok
    | ok s =>
      rw [merged, Except.map] at ok
      cases ok
      have plain := (unites_of_merge plainLeft plainRight merged).plain plainLeft plainRight
      exact ⟨isOptional_orAbsent s, by rw [bare_orAbsent, bare_of_not_isOptional plain]⟩
  by_cases left : a.isOptional = true
  · rw [merge_of_isOptional_left wa wb left] at ok
    obtain ⟨opt, merged⟩ := bit (isOptional_bare a) (isOptional_bare b) ok
    exact ⟨by rw [opt, left, Bool.true_or], .inl merged⟩
  rw [Bool.not_eq_true] at left
  rw [bare_of_not_isOptional left, left, Bool.false_or]
  by_cases right : b.isOptional = true
  · rw [merge_of_isOptional_right wa wb left right] at ok
    obtain ⟨opt, merged⟩ := bit (isOptional_bare b) left ok
    exact ⟨by rw [opt, right], .inr ⟨right, merged⟩⟩
  rw [Bool.not_eq_true] at right
  have plain := (unites_of_merge left right ok).plain left right
  rw [bare_of_not_isOptional right, bare_of_not_isOptional plain]
  exact ⟨plain.trans right.symm, .inl ok⟩

theorem bare_merge_of_plain {a b t : Shape} (wa : a.WellFormed) (wb : b.WellFormed)
    (plain : b.isOptional = false) (ok : a.merge b = .ok t) : a.bare.merge b = .ok t.bare := by
  obtain ⟨_, merged | ⟨opt, _⟩⟩ := merge_eq_ok wa wb ok
  · rwa [bare_of_not_isOptional plain] at merged
  · rw [plain] at opt
    cases opt

theorem Unites.kind_eq {a b t : Shape} (h : Unites a b t) :
    (a.kind ≠ .empty → t.kind = a.kind) ∧ (b.kind ≠ .empty → t.kind = b.kind) := by
  cases h with
  | emptyLeft => exact ⟨fun seen => absurd rfl seen, fun _ => rfl⟩
  | emptyRight => exact ⟨fun _ => rfl, fun seen => absurd rfl seen⟩
  | _ => exact ⟨fun _ => rfl, fun _ => rfl⟩

/-! Fields. -/

/-- What becomes of a field on the left: alone it turns optional, else it merges. -/
inductive Joins (right : Fields) (key : String) (a : Shape) : Shape → Prop where
  | alone : right.lookup key = none → Joins right key a a.orAbsent
  | both {b t : Shape} : right.lookup key = some b → a.merge b = .ok t → Joins right key a t

section
variable {left right shared : Fields} {key : String}

theorem joins_of_missing {a t : Shape} (missing : right.lookup key = none) :
    Joins right key a t ↔ t = a.orAbsent := by
  constructor
  · intro h
    cases h with
    | alone => rfl
    | both found _ => rw [missing] at found; cases found
  · rintro rfl
    exact .alone missing

theorem joins_of_lookup {a b t : Shape} (found : right.lookup key = some b) :
    Joins right key a t ↔ a.merge b = .ok t := by
  constructor
  · intro h
    cases h with
    | alone missing => rw [missing] at found; cases found
    | both other ok => cases found.symm.trans other; exact ok
  · exact .both found

def joined (right : Fields) (key : String) (a : Shape) : Except MergeError Shape :=
  match right.lookup key with
  | some b => a.merge b
  | none => .ok a.orAbsent

theorem joined_eq_ok {a t : Shape} : joined right key a = .ok t ↔ Joins right key a t := by
  unfold joined
  split
  · next b found => exact (joins_of_lookup found).symm
  · next missing =>
    rw [joins_of_missing missing, Except.ok.injEq]
    exact eq_comm

theorem mergeFields_eq_traverse :
    mergeFields left right = Members.traverse (joined right) left := by
  induction left with
  | nil => exact mergeFields_nil right
  | cons field rest ih =>
    obtain ⟨k, a⟩ := field
    rw [mergeFields_cons, Members.traverse, joined, ← ih]
    cases right.lookup k <;> rfl

theorem mergeFields_cons_eq_ok {a : Shape} :
    mergeFields ((key, a) :: left) right = .ok shared ↔
      ∃ t rest, Joins right key a t ∧ mergeFields left right = .ok rest ∧
        shared = (key, t) :: rest := by
  simp only [mergeFields_eq_traverse, Members.traverse_cons_eq_ok, joined_eq_ok, @eq_comm _ shared]

theorem keys_mergeFields (ok : mergeFields left right = .ok shared) :
    Members.keys shared = Members.keys left := by
  rw [mergeFields_eq_traverse] at ok
  exact Members.keys_traverse ok

theorem mem_mergeFields (ok : mergeFields left right = .ok shared) {field : String × Shape}
    (member : field ∈ shared) : ∃ a, (field.1, a) ∈ left ∧ Joins right field.1 a field.2 := by
  rw [mergeFields_eq_traverse] at ok
  simpa only [joined_eq_ok] using Members.mem_traverse ok member

theorem exists_mergeFields_iff : (∃ shared, mergeFields left right = .ok shared) ↔
    ∀ field ∈ left, ∃ t, Joins right field.1 field.2 t := by
  simp only [mergeFields_eq_traverse, Members.exists_traverse_iff, joined_eq_ok]

theorem lookup_mergeFields (ok : mergeFields left right = .ok shared) {a : Shape}
    (found : left.lookup key = some a) : ∃ t, shared.lookup key = some t ∧ Joins right key a t := by
  obtain ⟨t, joins⟩ := exists_mergeFields_iff.1 ⟨_, ok⟩ _ (Members.mem_of_lookup found)
  rw [mergeFields_eq_traverse] at ok
  exact ⟨t, (Members.lookup_traverse ok).2 ⟨a, found, joined_eq_ok.2 joins⟩, joins⟩

theorem lookup_fieldsOnlyIn : (fieldsOnlyIn left right).lookup key =
    if left.lookup key = none then (right.lookup key).map orAbsent else none := by
  induction right with
  | nil => simp [fieldsOnlyIn]
  | cons field right ih =>
    obtain ⟨k, b⟩ := field
    simp only [fieldsOnlyIn, List.filter_cons] at ih ⊢
    rw [Members.lookup_cons]
    by_cases known : left.lookup k = none
    · simp only [known, Option.isNone_none, if_true, List.map_cons, Members.lookup_cons, ih]
      by_cases same : key = k
      · simp [same, known]
      · simp [same]
    · simp only [Option.isNone_iff_eq_none, known, if_false, ih]
      by_cases same : key = k
      · simp [same, known]
      · simp [same]

theorem keys_fieldsOnlyIn : Members.keys (fieldsOnlyIn left right) =
    (Members.keys right).filter fun key => (left.lookup key).isNone := by
  simp [fieldsOnlyIn, Members.keys, List.filter_map, Function.comp_def]

theorem mem_keys_merged (ok : mergeFields left right = .ok shared) :
    key ∈ Members.keys (shared ++ fieldsOnlyIn left right) ↔
      key ∈ Members.keys left ∨ key ∈ Members.keys right := by
  rw [Members.keys_append, keys_mergeFields ok, List.mem_append, keys_fieldsOnlyIn,
    List.mem_filter, Option.isNone_iff_eq_none,
    Members.lookup_eq_none]
  by_cases known : key ∈ Members.keys left <;> simp [known]

theorem nodup_keys_merged (ok : mergeFields left right = .ok shared)
    (distinctLeft : (Members.keys left).Nodup) (distinctRight : (Members.keys right).Nodup) :
    (Members.keys (shared ++ fieldsOnlyIn left right)).Nodup := by
  rw [Members.keys_append, keys_mergeFields ok, keys_fieldsOnlyIn, List.nodup_append]
  refine ⟨distinctLeft, distinctRight.filter _, ?_⟩
  rintro key known _ new rfl
  rw [List.mem_filter, Option.isNone_iff_eq_none, Members.lookup_eq_none] at new
  exact new.2 known

theorem entry_merged (wl : ∀ field ∈ left, field.2.WellFormed)
    (wr : ∀ field ∈ right, field.2.WellFormed) (ok : mergeFields left right = .ok shared)
    (key : String) :
    (entry left key).merge (entry right key) =
      .ok (entry (shared ++ fieldsOnlyIn left right) key) := by
  have merged := Members.lookup_append shared (fieldsOnlyIn left right) key
  cases foundLeft : left.lookup key with
  | some a =>
    -- A key on the left is found among the shared fields, before those of the right alone.
    obtain ⟨t, found, joins⟩ := lookup_mergeFields ok foundLeft
    rw [found, Option.some_or] at merged
    rw [entry_of_lookup foundLeft, entry_of_lookup merged]
    cases joins with
    | alone missing =>
      rw [entry_of_missing missing]
      exact merge_absent (wl _ (Members.mem_of_lookup foundLeft))
    | both foundRight joined => rw [entry_of_lookup foundRight, joined]
  | none =>
    have missing : shared.lookup key = none := by
      rwa [Members.lookup_eq_none, keys_mergeFields ok, ← Members.lookup_eq_none]
    rw [missing, Option.none_or, lookup_fieldsOnlyIn, if_pos foundLeft] at merged
    rw [entry_of_missing foundLeft]
    cases foundRight : right.lookup key with
    | some b =>
      rw [foundRight] at merged
      rw [entry_of_lookup foundRight, entry_of_lookup merged]
      exact absent_merge (wr _ (Members.mem_of_lookup foundRight))
    | none =>
      rw [foundRight] at merged
      rw [entry_of_missing foundRight, entry_of_missing merged]
      exact absent_merge wellFormed_absent

end

/-! Values, one after the other. -/

theorem mergeOnto_cons_eq_ok {acc value last : Shape} {rest : List Shape} :
    mergeOnto acc (value :: rest) = .ok last ↔
      ∃ t, acc.merge value = .ok t ∧ mergeOnto t rest = .ok last := by
  rw [mergeOnto_cons]
  cases acc.merge value <;> simp [Except.bind]

theorem mergeOnto_append_eq_ok {acc last : Shape} {left right : List Shape} :
    mergeOnto acc (left ++ right) = .ok last ↔
      ∃ t, mergeOnto acc left = .ok t ∧ mergeOnto t right = .ok last := by
  induction left generalizing acc with
  | nil => simp
  | cons value left ih =>
    simp only [List.cons_append, mergeOnto_cons_eq_ok, ih]
    constructor
    · rintro ⟨s, first, t, middle, end'⟩
      exact ⟨t, ⟨s, first, middle⟩, end'⟩
    · rintro ⟨t, ⟨s, first, middle⟩, end'⟩
      exact ⟨s, first, t, middle, end'⟩

theorem mergeOnto_asValues (t : Shape) (values : List Shape) :
    mergeOnto empty (t.asValues ++ values) = mergeOnto t values := by
  unfold asValues
  split
  · next nothing => rw [eq_empty_of_kind nothing, List.nil_append]
  · rw [List.singleton_append, mergeOnto_cons, empty_merge, Except.bind]

theorem mergeOnto_of_asValues (acc t : Shape) : mergeOnto acc t.asValues = acc.merge t := by
  unfold asValues
  split
  · next nothing => rw [eq_empty_of_kind nothing, mergeOnto_nil, merge_empty]
  · rw [mergeOnto_cons]
    cases acc.merge t with
    | error e => rfl
    | ok merged => exact mergeOnto_nil merged

theorem mergeOnto_invariant {Q : Shape → Prop}
    (step : ∀ {a b t}, Q a → Q b → a.merge b = .ok t → Q t) {values : List Shape}
    (all : ∀ value ∈ values, Q value) {acc last : Shape} (start : Q acc)
    (ok : mergeOnto acc values = .ok last) : Q last := by
  induction values generalizing acc with
  | nil => rw [mergeOnto_nil] at ok; cases ok; exact start
  | cons value rest ih =>
    obtain ⟨t, first, later⟩ := mergeOnto_cons_eq_ok.1 ok
    simp only [List.forall_mem_cons] at all
    exact ih all.2 (step start all.1 first) later

/-- Reducing is merging onto nothing; the indices are only for the error. -/
theorem reduce_eq_ok {samples : List Shape} {t : Shape} :
    reduce samples = .ok t ↔ mergeOnto empty samples = .ok t := by
  -- Samples are counted from any index on, so that the rest can be taken by induction.
  have from_index : ∀ (acc : Shape) (index : Nat),
      reduceFrom acc index samples = .ok t ↔ mergeOnto acc samples = .ok t := by
    induction samples with
    | nil => intro acc index; simp [reduceFrom]
    | cons sample rest ih =>
      intro acc index
      rw [mergeOnto_cons, reduceFrom]
      cases acc.merge sample with
      | error e => simp [Except.bind]
      | ok s => exact ih s (index + 1)
  exact from_index empty 0

end ShapeInference.Shape
