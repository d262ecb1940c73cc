import ShapeInference.Proofs.Json.Tokens

/-! Values, and the text behind them.

The readers of values are given by equations between outcomes, without the bounds they carry, and
what holds of all three is shown by one induction on the length of the text. A list or an object is
read the same whatever text stands behind it, since its last character ends it. Only a number that
ends with its text may go on with what stands behind.
-/

set_option autoImplicit false

namespace ShapeInference.Json

def Step.readout {α : Type} {text : List Char} (step : Step α text) : α × List Char :=
  (step.value, step.rest)

theorem readout_map_ok {α : Type} {text rest : List Char} {value : α}
    {x : Except Fault (Step α text)} : x.map Step.readout = .ok (value, rest) ↔
      ∃ step, x = .ok step ∧ step.value = value ∧ step.rest = rest := by
  rw [map_eq_ok]
  simp [Step.readout]

section
variable {depth index : Nat} {first : Bool} {text rest : List Char}

theorem readValue_nil (found : skipBlanks text = []) :
    readValue depth text = .error { cause := .endInValue, left := 0 } := by
  rw [readValue]
  split
  · rfl
  · next same =>
    rw [found] at same
    cases same

theorem readValue_cons {c : Char} (found : skipBlanks text = c :: rest) :
    (readValue depth text).map Step.readout =
      if c = 'n' then (readName ['u', 'l', 'l'] rest).map fun rest => (.null, rest)
      else if c = 't' then (readName ['r', 'u', 'e'] rest).map fun rest => (.bool true, rest)
      else if c = 'f' then (readName ['a', 'l', 's', 'e'] rest).map fun rest => (.bool false, rest)
      else if c = '-' then (readNumber true rest).map fun read => (.number read.1, read.2)
      else if c.isDigit then
        (readNumber false (c :: rest)).map fun read => (.number read.1, read.2)
      else if c = '"' then (readString rest).map fun read => (.string (.ofList read.1), read.2)
      else if c = '[' then
        if depth ≤ 1 then .error { cause := .tooDeep, left := utf8Size (c :: rest) - 1 }
        else ((readElements (depth - 1) 0 rest).map Step.readout).map fun read =>
          (.array read.1, read.2)
      else if c = '{' then
        if depth ≤ 1 then .error { cause := .tooDeep, left := utf8Size (c :: rest) - 1 }
        else ((readMembers (depth - 1) true rest).map Step.readout).map fun read =>
          (.object (Members.ofList read.1), read.2)
      else .error { cause := .expectedValue, left := utf8Size (c :: rest) - 1 } := by
  rw [readValue]
  split
  · next same =>
    rw [found] at same
    cases same
  · next d left same =>
    rw [found] at same
    cases same
    dsimp only
    -- In each branch a reader is run; its outcome is known on both sides once it is named.
    by_cases null : c = 'n'
    · rw [if_pos null, if_pos null]
      split <;> next read => simp only [read, Except.map, Step.readout]
    rw [if_neg null, if_neg null]
    by_cases yes : c = 't'
    · rw [if_pos yes, if_pos yes]
      split <;> next read => simp only [read, Except.map, Step.readout]
    rw [if_neg yes, if_neg yes]
    by_cases no : c = 'f'
    · rw [if_pos no, if_pos no]
      split <;> next read => simp only [read, Except.map, Step.readout]
    rw [if_neg no, if_neg no]
    by_cases minus : c = '-'
    · rw [if_pos minus, if_pos minus]
      split <;> next read => simp only [read, Except.map, Step.readout]
    rw [if_neg minus, if_neg minus]
    by_cases digit : c.isDigit = true
    · rw [if_pos digit, if_pos digit]
      split <;> next read => simp only [read, Except.map, Step.readout]
    rw [if_neg digit, if_neg digit]
    by_cases quote : c = '"'
    · rw [if_pos quote, if_pos quote]
      split <;> next read => simp only [read, Except.map, Step.readout]
    rw [if_neg quote, if_neg quote]
    split
    · split
      · rfl
      · cases readElements (depth - 1) 0 rest <;> rfl
    split
    · split
      · rfl
      · cases readMembers (depth - 1) true rest <;> rfl
    · rfl

theorem readElements_eq : (readElements depth index text).map Step.readout =
    (nextElement (index = 0) text).bind fun next =>
      if next.1 then
        (((readValue depth next.2).map Step.readout).mapError (.under (.index index))).bind
          fun element =>
            ((readElements depth (index + 1) element.2).map Step.readout).map fun others =>
              (element.1 :: others.1, others.2)
      else .ok ([], next.2) := by
  rw [readElements]
  split
  · next next => simp only [next, Except.map, Except.bind]
  · next next => simp [next, Except.map, Except.bind, Step.readout]
  · next start next =>
    simp only [next, Except.bind, if_true]
    cases readValue depth start with
    | error fault => rfl
    | ok element =>
      show _ = ((readElements depth (index + 1) element.rest).map Step.readout).map _
      dsimp only
      cases readElements depth (index + 1) element.rest <;> rfl

theorem readMembers_eq : (readMembers depth first text).map Step.readout =
    (nextMember first text).bind fun next =>
      match next.1 with
      | none => .ok ([], next.2)
      | some key =>
        (((readValue depth next.2).map Step.readout).mapError (.under (.key key))).bind
          fun value =>
            ((readMembers depth false value.2).map Step.readout).map fun others =>
              ((key, value.1) :: others.1, others.2) := by
  rw [readMembers]
  split
  · next next => simp only [next, Except.map, Except.bind]
  · next next => simp only [next, Except.map, Except.bind, Step.readout]
  · next key start next =>
    simp only [next, Except.bind]
    cases readValue depth start with
    | error fault => rfl
    | ok value =>
      show _ = ((readMembers depth false value.rest).map Step.readout).map _
      dsimp only
      cases readMembers depth false value.rest <;> rfl

end

/-! Induction on the length of the text. -/

structure HoldBelow (V : Nat → List Char → Prop) (E : Nat → Nat → List Char → Prop)
    (M : Nat → Bool → List Char → Prop) (n : Nat) : Prop where
  value : ∀ depth text, text.length < n → V depth text
  elements : ∀ depth index text, text.length < n → E depth index text
  members : ∀ depth first text, text.length < n → M depth first text

theorem HoldBelow.of_steps {V : Nat → List Char → Prop} {E : Nat → Nat → List Char → Prop}
    {M : Nat → Bool → List Char → Prop}
    (value : ∀ n, HoldBelow V E M n → ∀ depth text, text.length < n + 1 → V depth text)
    (elements : ∀ n, HoldBelow V E M n →
      (∀ depth text, text.length < n + 1 → V depth text) →
      ∀ depth index text, text.length < n + 1 → E depth index text)
    (members : ∀ n, HoldBelow V E M n →
      ∀ depth first text, text.length < n + 1 → M depth first text)
    (n : Nat) : HoldBelow V E M n := by
  -- A value leaves a shorter text before its contents are read, and so does a member with its key.
  -- An element does not, so it is read by the step for values of this same length.
  induction n with
  | zero =>
    constructor
    · intro _ text short; omega
    · intro _ _ text short; omega
    · intro _ _ text short; omega
  | succ n below => exact ⟨value n below, elements n below (value n below), members n below⟩

/-! Values with a text behind them. -/

section
variable {tail : List Char} {n : Nat}

theorem readElements_nil (depth index : Nat) : (readElements depth index []).map Step.readout =
    .error { cause := .endInList, left := 0 } := by
  rw [readElements_eq]
  rfl

theorem readMembers_nil (depth : Nat) (first : Bool) :
    (readMembers depth first []).map Step.readout =
      .error (.under .unnamed { cause := .endInObject, left := 0 }) := by
  rw [readMembers_eq]
  rfl

namespace Continued

variable {α β : Type} {x y x' y' : Readout α}

theorem of_followed (h : Followed tail x y) : Continued tail x y :=
  fun _ _ ok _ => h.of_ok ok

theorem map (f : α → β) (h : Continued tail x y) :
    Continued tail (x.map fun read => (f read.1, read.2))
      (y.map fun read => (f read.1, read.2)) := by
  intro value rest ok stops
  obtain ⟨⟨read, left⟩, found, same⟩ := map_eq_ok.1 ok
  cases same
  rw [h read left found stops]
  rfl

theorem mapError (f : Fault → Fault) (h : Continued tail x y) :
    Continued tail (x.mapError f) (y.mapError f) := by
  intro value rest ok stops
  rw [h value rest (mapError_eq_ok.1 ok) stops]
  rfl

theorem ite {c : Prop} [Decidable c] (yes : Continued tail x y) (no : Continued tail x' y') :
    Continued tail (if c then x else x') (if c then y else y') := by
  split
  · exact yes
  · exact no

theorem bind {f g : α × List Char → Readout β} (h : Continued tail x y)
    (fails : ∀ value, ∃ fault, f (value, []) = .error fault)
    (step : ∀ value rest, x = .ok (value, rest) →
      Followed tail (f (value, rest)) (g (value, rest ++ tail))) :
    Followed tail (x.bind f) (y.bind g) := by
  cases x with
  | error fault => exact .error fault _
  | ok read =>
    obtain ⟨value, rest⟩ := read
    cases rest with
    | nil =>
      obtain ⟨fault, failed⟩ := fails value
      rw [Except.bind, failed]
      exact .error fault _
    | cons c more =>
      rw [h value (c :: more) rfl nofun]
      exact step value (c :: more) rfl

end Continued

abbrev FollowedBelow (tail : List Char) (n : Nat) : Prop :=
  HoldBelow
    (fun depth text => Continued tail ((readValue depth text).map Step.readout)
      ((readValue depth (text ++ tail)).map Step.readout))
    (fun depth index text => Followed tail ((readElements depth index text).map Step.readout)
      ((readElements depth index (text ++ tail)).map Step.readout))
    (fun depth first text => Followed tail ((readMembers depth first text).map Step.readout)
      ((readMembers depth first (text ++ tail)).map Step.readout)) n

theorem FollowedBelow.value_next (below : FollowedBelow tail n) (depth : Nat) {text : List Char}
    (short : text.length < n + 1) : Continued tail ((readValue depth text).map Step.readout)
      ((readValue depth (text ++ tail)).map Step.readout) := by
  cases found : skipBlanks text with
  | nil =>
    rw [readValue_nil found]
    exact .of_followed (.error _ _)
  | cons c rest =>
    have shorter : rest.length < n := by
      have bound := length_skipBlanks_le text
      rw [found, List.length_cons] at bound
      omega
    rw [readValue_cons found, readValue_cons (skipBlanks_followed found)]
    apply Continued.ite
    · exact .of_followed (readName_followed Json.null rest)
    apply Continued.ite
    · exact .of_followed (readName_followed (Json.bool true) rest)
    apply Continued.ite
    · exact .of_followed (readName_followed (Json.bool false) rest)
    apply Continued.ite
    · exact (readNumber_followed rest).map Json.number
    apply Continued.ite
    · exact (readNumber_followed (c :: rest)).map Json.number
    apply Continued.ite
    · exact .of_followed ((readString_followed rest).map fun cs => Json.string (.ofList cs))
    apply Continued.ite
    · apply Continued.ite
      · exact .of_followed (.error _ _)
      · exact .of_followed ((below.elements (depth - 1) 0 rest shorter).map Json.array)
    apply Continued.ite
    · apply Continued.ite
      · exact .of_followed (.error _ _)
      · exact .of_followed ((below.members (depth - 1) true rest shorter).map fun members =>
          Json.object (Members.ofList members))
    · exact .of_followed (.error _ _)

theorem FollowedBelow.elements_next (below : FollowedBelow tail n)
    (value : ∀ depth text, text.length < n + 1 →
      Continued tail ((readValue depth text).map Step.readout)
        ((readValue depth (text ++ tail)).map Step.readout))
    (depth index : Nat) {text : List Char} (short : text.length < n + 1) :
    Followed tail ((readElements depth index text).map Step.readout)
      ((readElements depth index (text ++ tail)).map Step.readout) := by
  rw [readElements_eq, readElements_eq]
  refine (nextElement_followed text).bind fun more start next => ?_
  have bound := (nextElement_rest_suffix next).length_le
  dsimp only
  split
  · refine ((value depth start (by omega)).mapError _).bind (fun element => ?_)
      fun element rest read => ?_
    · exact ⟨_, by rw [readElements_nil]; rfl⟩
    · have shorter : rest.length < start.length := by
        obtain ⟨step, _, _, rfl⟩ := readout_map_ok.1 (mapError_eq_ok.1 read)
        exact step.shorter
      exact (below.elements depth (index + 1) rest (by omega)).map (element :: ·)
  · exact .ok _ _

theorem FollowedBelow.members_next (below : FollowedBelow tail n) (depth : Nat) (first : Bool)
    {text : List Char} (short : text.length < n + 1) :
    Followed tail ((readMembers depth first text).map Step.readout)
      ((readMembers depth first (text ++ tail)).map Step.readout) := by
  rw [readMembers_eq, readMembers_eq]
  refine (nextMember_followed text).bind fun key start next => ?_
  have bound := nextMember_shorter next
  cases key with
  | none => exact .ok _ _
  | some key =>
    refine ((below.value depth start (by omega)).mapError _).bind (fun value => ?_)
      fun value rest read => ?_
    · exact ⟨_, by rw [readMembers_nil]; rfl⟩
    · have shorter : rest.length < start.length := by
        obtain ⟨step, _, _, rfl⟩ := readout_map_ok.1 (mapError_eq_ok.1 read)
        exact step.shorter
      exact (below.members depth false rest (by omega)).map ((key, value) :: ·)

theorem followedBelow (tail : List Char) (n : Nat) : FollowedBelow tail n :=
  HoldBelow.of_steps (fun _ below depth _ short => FollowedBelow.value_next below depth short)
    (fun _ below value depth index _ short => FollowedBelow.elements_next below value depth index short)
    (fun _ below depth first _ short => FollowedBelow.members_next below depth first short) n

/-- A value is read the same whatever stands behind it, if no number goes on with it. -/
theorem readValue_followed (depth : Nat) (text : List Char) :
    Continued tail ((readValue depth text).map Step.readout)
      ((readValue depth (text ++ tail)).map Step.readout) :=
  (followedBelow tail (text.length + 1)).value depth text (Nat.lt_succ_self _)

end

end ShapeInference.Json
