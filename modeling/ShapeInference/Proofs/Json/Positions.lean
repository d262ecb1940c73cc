import Mathlib.Data.List.Induction
import ShapeInference.Proofs.Json.Loop

/-! Where the error of a stream is.

The position of an error counts from the first character of the document that could not be read. In
the whole source, the same place has the lines in front of that document added to its line.
-/

set_option autoImplicit false

namespace ShapeInference.Json

/-! Positions in a longer text. -/

section

def lastLine (text : List Char) : List Char := (text.reverse.takeWhile (· ≠ '\n')).reverse

/-- The position, in a text that has `before` in front, of a place with a position in what follows. -/
def Position.after (position : Position) (before : List Char) : Position where
  line := position.line + before.count '\n'
  column :=
    if position.line = 1 then utf8Size (lastLine before) + position.column else position.column

variable {bytes : Nat} {before text : List Char}

theorem lastLine_concat (text : List Char) (c : Char) :
    lastLine (text ++ [c]) = if c = '\n' then [] else lastLine text ++ [c] := by
  unfold lastLine
  rw [List.reverse_append, List.reverse_singleton, List.singleton_append, List.takeWhile_cons]
  by_cases line : c = '\n' <;> simp [line]

theorem Position.advance_append (position : Position) (before text : List Char) (bytes : Nat) :
    position.advance (utf8Size before + bytes) (before ++ text) =
      (position.advance (utf8Size before) before).advance bytes text := by
  induction before generalizing position with
  | nil => simp [utf8Size, advance]
  | cons c rest ih =>
    have size : utf8Size (c :: rest) = c.utf8Size + utf8Size rest := rfl
    have first : ¬ utf8Size (c :: rest) + bytes < c.utf8Size := by omega
    have only : ¬ utf8Size (c :: rest) < c.utf8Size := by omega
    rw [List.cons_append, advance, if_neg first, advance, if_neg only, size, Nat.add_assoc,
      Nat.add_sub_cancel_left, Nat.add_sub_cancel_left]
    split
    · exact ih _
    · exact ih _

theorem utf8Size_singleton (c : Char) : utf8Size [c] = c.utf8Size := rfl

theorem Position.advance_singleton (position : Position) (c : Char) :
    position.advance (utf8Size [c]) [c] =
      if c = '\n' then ⟨position.line + 1, 0⟩ else ⟨position.line, position.column + c.utf8Size⟩ := by
  rw [utf8Size_singleton, advance, if_neg (Nat.lt_irrefl _)]
  rfl

theorem Position.advance_whole (before : List Char) :
    (Position.mk 1 0).advance (utf8Size before) before = (Position.mk 1 0).after before := by
  induction before using List.reverseRecOn with
  | nil => rfl
  | append_singleton front c ih =>
    rw [utf8Size_append, advance_append, ih, advance_singleton]
    by_cases line : c = '\n'
    · simp [after, lastLine_concat, line, utf8Size, Nat.add_assoc]
    · simp [after, lastLine_concat, line, utf8Size_append, utf8Size_singleton]

theorem Position.after_advance (position : Position) (inside : 1 ≤ position.line)
    (before text : List Char) (bytes : Nat) :
    (position.after before).advance bytes text = (position.advance bytes text).after before := by
  induction text generalizing position bytes with
  | nil => rfl
  | cons c rest ih =>
    rw [advance, advance]
    split
    · simp only [after]
      split <;> simp [Nat.add_assoc]
    · split
      · rw [← ih ⟨position.line + 1, 0⟩ (Nat.le_add_left _ _)]
        have beyond : position.line ≠ 0 := by omega
        simp [after, beyond, Nat.add_right_comm]
      · rw [← ih ⟨position.line, position.column + c.utf8Size⟩ inside]
        simp only [after]
        split <;> simp [Nat.add_assoc]

theorem locate_append {fault : Fault} (inside : InText text fault) (before : List Char) :
    fault.locate (before ++ text) =
      { fault.locate text with position := (fault.locate text).position.after before } := by
  have place : utf8Size (before ++ text) - fault.left =
      utf8Size before + (utf8Size text - fault.left) := by
    have bound : fault.left ≤ utf8Size text := inside
    rw [utf8Size_append]
    omega
  simp only [Fault.locate, place, Position.advance_append, Position.advance_whole]
  rw [Position.after_advance _ (Nat.le_refl 1)]

end

/-! The document that could not be read. -/

inductive Reaches : Loop → Loop → Prop where
  | refl (loop : Loop) : Reaches loop loop
  | next {loop next last : Loop} : loop.turn = .next next → Reaches next last → Reaches loop last

section
variable {loop last : Loop} {error : ReadError}

theorem skipWhiteSpace_suffix (text : String) : ∃ front, text = front ++ skipWhiteSpace text := by
  obtain ⟨front, whole⟩ := List.dropWhile_suffix Unicode.isWhiteSpace (l := text.toList)
  refine ⟨.ofList front, ?_⟩
  rw [skipWhiteSpace, ← String.ofList_append, whole, String.ofList_toList]

theorem Reaches.suffix (reaches : Reaches loop last) : ∃ front, loop.rest = front ++ last.rest := by
  induction reaches with
  | refl loop => exact ⟨"", String.empty_append.symm⟩
  | @next loop _ _ more _ ih =>
    have step := loop.turn_cases
    rw [more] at step
    cases step with
    | next read cuts _ =>
      obtain ⟨behind, rest⟩ := ih
      obtain ⟨blanks, trimmed⟩ := skipWhiteSpace_suffix loop.rest
      obtain ⟨front, c, _, document, _⟩ := cuts
      refine ⟨blanks ++ front.push c ++ behind, ?_⟩
      dsimp only at rest
      rw [trimmed, document, rest]
      simp only [String.append_assoc]

theorem Loop.exists_failed (loop : Loop) (failed : loop.outcome = .error error) :
    ∃ last, Reaches loop last ∧ readFront (skipWhiteSpace last.rest) = .error error := by
  have step := loop.turn_cases
  cases turn : loop.turn with
  | ended outcome =>
    rw [turn] at step
    cases step with
    | blank same => rw [same] at failed; cases failed
    | failed read same =>
      rw [same] at failed
      cases failed
      exact ⟨loop, .refl loop, read⟩
  | next next =>
    obtain ⟨shorter, _, outcome⟩ := turn_next turn
    obtain ⟨last, reaches, read⟩ := next.exists_failed (outcome.trans failed)
    exact ⟨last, .next turn reaches, read⟩
  | stuck => exact absurd turn loop.turn_ne_stuck
termination_by loop.rest.utf8ByteSize

end

/-- The document that starts behind `before` is the first of the source that cannot be read. -/
structure Misread (source before document : String) (fault : Fault) : Prop where
  whole : source = before ++ document
  reached : ∃ last, Reaches ⟨[], source⟩ last ∧ skipWhiteSpace last.rest = document
  failed : readValue 128 document.toList = .error fault

theorem readFront_eq_error {text : String} {error : ReadError}
    (failed : readFront text = .error error) :
    ∃ fault, readValue 128 text.toList = .error fault ∧ fault.locate text.toList = error := by
  rw [readFront, readFirst] at failed
  cases outcome : readValue 128 text.toList with
  | ok step =>
    rw [outcome] at failed
    cases failed
  | error fault =>
    rw [outcome] at failed
    cases failed
    exact ⟨fault, rfl, rfl⟩

section
variable {source before document : String} {fault : Fault} {error : ReadError}

theorem exists_misread (failed : readAll source = .error error) :
    ∃ before document fault, Misread source before document fault ∧
      fault.locate document.toList = error := by
  have outcome : Loop.outcome ⟨[], source⟩ = .error error := by
    rw [Loop.outcome, failed]
    rfl
  obtain ⟨last, reaches, read⟩ := Loop.exists_failed _ outcome
  obtain ⟨fault, unread, located⟩ := readFront_eq_error read
  obtain ⟨taken, source_eq⟩ := reaches.suffix
  obtain ⟨blanks, rest_eq⟩ := skipWhiteSpace_suffix last.rest
  refine ⟨taken ++ blanks, skipWhiteSpace last.rest, fault, ⟨?_, ⟨last, reaches, rfl⟩, unread⟩,
    located⟩
  rw [String.append_assoc, ← rest_eq]
  exact source_eq

/-- In a longer text, the fault is behind all that stands in front of the document. -/
theorem Misread.locate_append (h : Misread source before document fault) (front : String) :
    fault.locate (front ++ source).toList =
      { fault.locate document.toList with
        position := (fault.locate document.toList).position.after (front ++ before).toList } := by
  have reads := readValue_reads 128 document.toList
  rw [h.failed] at reads
  have inside : InText document.toList fault := reads
  rw [h.whole, ← String.append_assoc, String.toList_append]
  exact Json.locate_append inside _

end

theorem readAll_append {first second : String} {documents : List Json}
    (ok : readAll first = .ok documents) (ends : first.toList.getLast? = some '\n') :
    readAll (first ++ second) = (readAll second).map (documents ++ ·) := by
  rw [readAll, String.toList_append]
  refine readValues_append ok (.inl fun c last => ?_)
  rw [ends] at last
  cases last
  decide

/-- Documents in front of a stream do not change its error, not even the line. That line counts from
the document that cannot be read. In the whole source, the line ends in front of the stream and those
in front of the document come on top. -/
theorem stream_error_restarts {front source : String} {documents : List Json} {error : ReadError}
    (ends : front.toList.getLast? = some '\n') (ok : readAll front = .ok documents)
    (failed : readAll source = .error error) :
    readAll (front ++ source) = .error error ∧
    ∃ before document fault, Misread source before document fault ∧
      fault.locate document.toList = error ∧
      fault.locate (front ++ source).toList =
        { error with position := error.position.after (front ++ before).toList } ∧
      (fault.locate (front ++ source).toList).position.line =
        error.position.line + front.toList.count '\n' + before.toList.count '\n' := by
  refine ⟨?_, ?_⟩
  · rw [readAll_append ok ends, failed]
    rfl
  · obtain ⟨before, document, fault, misread, rfl⟩ := exists_misread failed
    have place := misread.locate_append front
    refine ⟨before, document, fault, misread, rfl, place, ?_⟩
    rw [place, String.toList_append]
    simp only [Position.after, List.count_append, Nat.add_assoc]

theorem readAll_x : readAll "x" = .error ⟨[], .expectedValue, ⟨1, 1⟩⟩ := by
  have read : (readValue 128 ['x']).map Step.readout =
      .error { cause := .expectedValue, left := 0 } := by
    rw [readValue_cons rfl]
    rfl
  exact readValues_failed rfl read

theorem readAll_number_line : readAll "1\n" = .ok [.number (.integer 1)] := by
  apply readValues_first
  · rfl
  · rw [readValue_cons rfl]
    rfl
  · exact readValues_blank rfl

/-- The fault is in the third line, and the second document of the stream is in its second line. -/
theorem stream_error_restarts_third_line :
    ("1\n" : String).toList.getLast? = some '\n' ∧ readAll "1\n" = .ok [.number (.integer 1)] ∧
      readAll "1\nx" = .error ⟨[], .expectedValue, ⟨1, 1⟩⟩ ∧
      readAll ("1\n" ++ "1\nx") = .error ⟨[], .expectedValue, ⟨1, 1⟩⟩ := by
  have failed : readAll ("1\n" ++ "x") = .error ⟨[], .expectedValue, ⟨1, 1⟩⟩ := by
    rw [readAll_append readAll_number_line rfl, readAll_x]
    rfl
  exact ⟨rfl, readAll_number_line, failed,
    (stream_error_restarts rfl readAll_number_line failed).1⟩

/-- The line of an error is not that of the whole source, which would be the second one here. -/
theorem not_line_of_source :
    ¬ ∀ (front source : String) (documents : List Json) (error : ReadError),
      front.toList.getLast? = some '\n' → readAll front = .ok documents →
      readAll source = .error error →
      readAll (front ++ source) = .error
        { error with position :=
          { error.position with line := error.position.line + front.toList.count '\n' } } := by
  intro lines
  have line := lines "1\n" "x" _ _ rfl readAll_number_line readAll_x
  rw [readAll_append readAll_number_line rfl, readAll_x, Except.map, Except.error.injEq] at line
  have counted := congrArg (·.position.line) line
  revert counted
  decide

end ShapeInference.Json
