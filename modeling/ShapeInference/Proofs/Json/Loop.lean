import ShapeInference.Proofs.Json.Stream

/-! Streams, turn by turn.

A turn skips white space, reads a document and cuts the text at the byte where the document ends. It
is stuck if that byte is beyond the text or inside a character. No turn ever is, since a document
ends in a visible character of ASCII, and as each cut leaves fewer bytes, the turns come to an end.
-/

set_option autoImplicit false

namespace ShapeInference.Json

/-- The text from a byte on. The byte must be in the text or at its end, and a character must start
there. -/
def textFrom? (text : String) (bytes : Nat) : Option String :=
  if valid : (String.Pos.Raw.mk bytes).IsValid text then
    some (text.sliceFrom (text.pos ⟨bytes⟩ valid)).copy
  else none

def readFront (text : String) : Except ReadError (Json × Nat) :=
  (readFirst text.toList).map fun step => (step.value, text.utf8ByteSize - utf8Size step.rest)

structure Loop where
  documents : List Json
  rest : String

inductive Turn where
  | ended (outcome : Except ReadError (List Json))
  | next (loop : Loop)
  | stuck

def skipWhiteSpace (text : String) : String :=
  .ofList (text.toList.dropWhile Unicode.isWhiteSpace)

def Loop.turn (loop : Loop) : Turn :=
  let text := skipWhiteSpace loop.rest
  if text.isEmpty then .ended (.ok loop.documents)
  else
    match readFront text with
    | .error error => .ended (.error error)
    | .ok (value, bytes) =>
      match textFrom? text bytes with
      | some rest => .next ⟨loop.documents ++ [value], rest⟩
      | none => .stuck

/-- The loop ends with the outcome in exactly as many turns. -/
inductive Runs : Nat → Loop → Except ReadError (List Json) → Prop where
  | ended {loop : Loop} {outcome : Except ReadError (List Json)} :
    loop.turn = .ended outcome → Runs 1 loop outcome
  | next {turns : Nat} {loop next : Loop} {outcome : Except ReadError (List Json)} :
    loop.turn = .next next → Runs turns next outcome → Runs (turns + 1) loop outcome

def Loop.outcome (loop : Loop) : Except ReadError (List Json) :=
  (readAll loop.rest).map (loop.documents ++ ·)

/-! One turn. -/

section
variable {text back : String} {value : Json} {bytes : Nat} {loop next : Loop}

theorem utf8ByteSize_ofList (source : List Char) :
    (String.ofList source).utf8ByteSize = utf8Size source := by
  induction source with
  | nil => rfl
  | cons c rest ih =>
    rw [String.ofList_cons, String.utf8ByteSize_append, String.utf8ByteSize_singleton, ih]
    rfl

theorem textFrom?_append (front back : String) :
    textFrom? (front ++ back) front.utf8ByteSize = some back := by
  have valid : (String.Pos.Raw.mk front.utf8ByteSize).IsValid (front ++ back) :=
    String.Pos.Raw.isValid_iff_exists_append.2 ⟨front, back, rfl, rfl⟩
  have splits : ((front ++ back).pos ⟨front.utf8ByteSize⟩ valid).Splits front back := ⟨rfl, rfl⟩
  rw [textFrom?, dif_pos valid, splits.copy_sliceFrom_eq]

theorem readFront_ofList (source : List Char) : readFront (.ofList source) =
    (readFirst source).map fun step => (step.value, utf8Size source - utf8Size step.rest) := by
  rw [readFront, utf8ByteSize_ofList, String.toList_ofList]

/-- The first bytes of the text end with a visible character of ASCII, and `back` is the rest. -/
def CutsBehind (text : String) (bytes : Nat) (back : String) : Prop :=
  ∃ front : String, ∃ c : Char, isVisible c = true ∧ text = front.push c ++ back ∧
    bytes = (front.push c).utf8ByteSize

theorem CutsBehind.textFrom?_eq (h : CutsBehind text bytes back) :
    textFrom? text bytes = some back := by
  obtain ⟨front, c, _, rfl, rfl⟩ := h
  exact textFrom?_append _ _

theorem CutsBehind.isValid (h : CutsBehind text bytes back) :
    (String.Pos.Raw.mk bytes).IsValid text := by
  obtain ⟨front, c, _, rfl, rfl⟩ := h
  exact String.Pos.Raw.isValid_iff_exists_append.2 ⟨_, _, rfl, rfl⟩

theorem CutsBehind.utf8ByteSize_eq (h : CutsBehind text bytes back) :
    text.utf8ByteSize = bytes + back.utf8ByteSize := by
  obtain ⟨front, c, _, rfl, rfl⟩ := h
  exact String.utf8ByteSize_append

theorem CutsBehind.bytes_pos (h : CutsBehind text bytes back) : 0 < bytes := by
  obtain ⟨front, c, _, _, rfl⟩ := h
  have := c.utf8Size_pos
  rw [String.utf8ByteSize_push]
  omega

theorem cutsBehind_of_follows {source rest : List Char} (follows : Follows source rest) :
    CutsBehind (.ofList source) (utf8Size source - utf8Size rest) (.ofList rest) := by
  obtain ⟨c, visible, front, rfl⟩ := follows
  refine ⟨.ofList front, c, visible, ?_, ?_⟩
  · apply String.toList_injective
    simp
  · rw [String.utf8ByteSize_push, utf8ByteSize_ofList, utf8Size_append]
    simp only [utf8Size, List.foldr_cons]
    omega

theorem readFront_cutsBehind (ok : readFront text = .ok (value, bytes)) :
    ∃ back, CutsBehind text bytes back := by
  rw [← String.ofList_toList (s := text), readFront_ofList] at ok
  obtain ⟨step, read, same⟩ := map_eq_ok.1 ok
  cases same
  have cuts := cutsBehind_of_follows (readFirst_follows read)
  rw [String.ofList_toList] at cuts
  exact ⟨_, cuts⟩

inductive Loop.TurnCase (loop : Loop) : Turn → Prop where
  | blank : loop.outcome = .ok loop.documents → TurnCase loop (.ended (.ok loop.documents))
  | failed {error : ReadError} : readFront (skipWhiteSpace loop.rest) = .error error →
    loop.outcome = .error error → TurnCase loop (.ended (.error error))
  | next {value : Json} {bytes : Nat} {rest : String} :
    readFront (skipWhiteSpace loop.rest) = .ok (value, bytes) →
    CutsBehind (skipWhiteSpace loop.rest) bytes rest →
    Loop.outcome ⟨loop.documents ++ [value], rest⟩ = loop.outcome →
    TurnCase loop (.next ⟨loop.documents ++ [value], rest⟩)

theorem Loop.turn_cases (loop : Loop) : loop.TurnCase loop.turn := by
  cases start : loop.rest.toList.dropWhile Unicode.isWhiteSpace with
  | nil =>
    have turn : loop.turn = .ended (.ok loop.documents) := by
      rw [Loop.turn, skipWhiteSpace, start]
      rfl
    rw [turn]
    apply TurnCase.blank
    rw [Loop.outcome, readAll, readValues_blank start, Except.map, List.append_nil]
  | cons c more =>
    have text : skipWhiteSpace loop.rest = .ofList (c :: more) := by rw [skipWhiteSpace, start]
    have nonempty : (String.ofList (c :: more)).isEmpty = false := by
      rw [String.isEmpty_eq_false_iff]
      simp
    -- The turn and the stream both read the first document of the text without its white space.
    have front := readFront_ofList (c :: more)
    have all := readValues_cons start
    cases read : readFirst (c :: more) with
    | error error =>
      rw [read] at front all
      have turn : loop.turn = .ended (.error error) := by
        rw [Loop.turn, text, nonempty, front]
        rfl
      rw [turn]
      apply TurnCase.failed
      · rw [text]
        exact front
      · rw [Loop.outcome, readAll, all]
        rfl
    | ok step =>
      rw [read] at front all
      have cuts := cutsBehind_of_follows (readFirst_follows read)
      have turn : loop.turn = .next ⟨loop.documents ++ [step.value], .ofList step.rest⟩ := by
        rw [Loop.turn, text, nonempty, front]
        dsimp only [Except.map]
        rw [cuts.textFrom?_eq]
        rfl
      rw [turn]
      apply TurnCase.next
      · rw [text]
        exact front
      · rw [text]
        exact cuts
      · rw [Loop.outcome, Loop.outcome, readAll, readAll, all, String.toList_ofList, Except.bind]
        cases readValues step.rest <;> simp [Except.map]

theorem Loop.turn_ne_stuck (loop : Loop) : loop.turn ≠ .stuck := by
  intro stuck
  have step := loop.turn_cases
  rw [stuck] at step
  cases step

theorem utf8ByteSize_skipWhiteSpace_le (text : String) :
    (skipWhiteSpace text).utf8ByteSize ≤ text.utf8ByteSize := by
  have bound := utf8Size_le_of_suffix
    (List.dropWhile_suffix Unicode.isWhiteSpace (l := text.toList))
  rwa [← utf8ByteSize_ofList, ← utf8ByteSize_ofList, String.ofList_toList] at bound

/-- A turn that is not the last one takes bytes off the text and adds a document. -/
theorem Loop.turn_next (more : loop.turn = .next next) :
    next.rest.utf8ByteSize < loop.rest.utf8ByteSize ∧
      next.documents.length = loop.documents.length + 1 ∧ next.outcome = loop.outcome := by
  have step := loop.turn_cases
  rw [more] at step
  cases step with
  | next read cuts outcome =>
    have size := cuts.utf8ByteSize_eq
    have taken := cuts.bytes_pos
    have skipped := utf8ByteSize_skipWhiteSpace_le loop.rest
    refine ⟨by dsimp only; omega, ?_, outcome⟩
    rw [List.length_append, List.length_singleton]

end

/-! All turns. -/

/-- The loop ends with its outcome, after no more turns than it has bytes left and one. -/
theorem Loop.exists_runs (loop : Loop) :
    ∃ turns ≤ loop.rest.utf8ByteSize + 1, Runs turns loop loop.outcome := by
  -- By recursion on the bytes that are left. No turn changes what the loop has to end with.
  cases turn : loop.turn with
  | ended outcome =>
    have step := loop.turn_cases
    rw [turn] at step
    refine ⟨1, by omega, .ended ?_⟩
    cases step with
    | blank same => rw [same]; exact turn
    | failed _ same => rw [same]; exact turn
  | next next =>
    obtain ⟨shorter, _, outcome⟩ := turn_next turn
    obtain ⟨turns, bound, runs⟩ := next.exists_runs
    exact ⟨turns + 1, by omega, outcome ▸ .next turn runs⟩
  | stuck => exact absurd turn loop.turn_ne_stuck
termination_by loop.rest.utf8ByteSize

theorem Runs.length_add_one {turns : Nat} {loop : Loop} {documents : List Json}
    (runs : Runs turns loop (.ok documents)) :
    documents.length + 1 = loop.documents.length + turns := by
  generalize same : Except.ok documents = outcome at runs
  induction runs with
  | @ended loop outcome ended =>
    have step := loop.turn_cases
    rw [ended, ← same] at step
    cases step
    rfl
  | next more _ ih =>
    have added := (Loop.turn_next more).2.1
    have counted := ih same
    omega

/-- The loop ends, and no turn of it is stuck. Where a document has been read, the text is cut at the
end of a character; a turn that is not the last one leaves fewer bytes; and there are no more
documents than bytes. -/
theorem stream_ends (source : String) :
    (∀ text value bytes, readFront text = .ok (value, bytes) →
      0 < bytes ∧ bytes ≤ text.utf8ByteSize ∧ (String.Pos.Raw.mk bytes).IsValid text ∧
        ∃ back, CutsBehind text bytes back ∧ textFrom? text bytes = some back) ∧
    (∀ loop : Loop, loop.turn ≠ .stuck ∧
      ∀ next, loop.turn = .next next → next.rest.utf8ByteSize < loop.rest.utf8ByteSize) ∧
    ∃ turns ≤ source.utf8ByteSize + 1, Runs turns ⟨[], source⟩ (readAll source) ∧
      ∀ documents, readAll source = .ok documents →
        documents.length + 1 = turns ∧ documents.length ≤ source.utf8ByteSize := by
  refine ⟨fun text value bytes ok => ?_, fun loop => ?_, ?_⟩
  · obtain ⟨back, cuts⟩ := readFront_cutsBehind ok
    have size := cuts.utf8ByteSize_eq
    exact ⟨cuts.bytes_pos, by omega, cuts.isValid, back, cuts, cuts.textFrom?_eq⟩
  · exact ⟨loop.turn_ne_stuck, fun next more => (Loop.turn_next more).1⟩
  · obtain ⟨turns, bound, runs⟩ := Loop.exists_runs ⟨[], source⟩
    have outcome : Loop.outcome ⟨[], source⟩ = readAll source := by
      rw [Loop.outcome]
      cases readAll source <;> rfl
    rw [outcome] at runs
    refine ⟨turns, bound, runs, fun documents ok => ?_⟩
    rw [ok] at runs
    have counted := runs.length_add_one
    simp only [List.length_nil, Nat.zero_add] at counted
    dsimp only at bound
    omega

/-- The first number ends at a character of three bytes, which is white space between documents. -/
theorem stream_ends_wide_space :
    readFront "1\u30002" = .ok (.number (.integer 1), 1) ∧
      (String.Pos.Raw.mk 1).IsValid "1\u30002" ∧
      readAll "1\u30002" = .ok [.number (.integer 1), .number (.integer 2)] ∧
      2 ≤ ("1\u30002" : String).utf8ByteSize := by
  have first : (readValue 128 ['1', '\u3000', '2']).map Step.readout =
      .ok (.number (.integer 1), ['\u3000', '2']) := by
    rw [readValue_cons rfl]
    rfl
  have second : (readValue 128 ['2']).map Step.readout = .ok (.number (.integer 2), []) := by
    rw [readValue_cons rfl]
    rfl
  have front : readFront "1\u30002" = .ok (.number (.integer 1), 1) := by
    obtain ⟨step, read, value, rest⟩ := readout_map_ok.1 first
    have found : readFirst ("1\u30002" : String).toList = .ok step := readFirst_eq_ok.2 read
    rw [readFront, found]
    dsimp only [Except.map]
    rw [value, rest]
    rfl
  have all : readAll "1\u30002" = .ok [.number (.integer 1), .number (.integer 2)] := by
    apply readValues_first
    · rfl
    · exact first
    · apply readValues_first
      · rfl
      · exact second
      · exact readValues_blank rfl
  obtain ⟨cuts, _, turns, _, _, counted⟩ := stream_ends "1\u30002"
  exact ⟨front, (cuts _ _ _ front).2.2.1, all, (counted _ all).2⟩

end ShapeInference.Json
