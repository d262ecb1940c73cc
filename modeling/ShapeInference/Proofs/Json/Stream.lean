import ShapeInference.Command.Load
import ShapeInference.Proofs.Json.Extents

/-! Documents one after the other.

A document is read the same if a text stands behind it that no number goes on with. So a stream can
be cut where white space stands between its documents.
-/

set_option autoImplicit false

namespace ShapeInference

namespace Json

/-! Streams. -/

section
variable {tail : List Char}

theorem readFirst_eq_ok {source : List Char} {step : Step Json source} :
    readFirst source = .ok step ↔ readValue 128 source = .ok step := by
  unfold readFirst
  cases readValue 128 source with
  | ok first => constructor <;> · intro ok; cases ok; rfl
  | error fault => constructor <;> · intro ok; cases ok

theorem readFirst_readout {source : List Char} {step : Step Json source}
    (ok : readFirst source = .ok step) :
    (readValue 128 source).map Step.readout = .ok (step.value, step.rest) :=
  readout_map_ok.2 ⟨step, readFirst_eq_ok.1 ok, rfl, rfl⟩

theorem readFirst_followed {text : List Char} {step : Step Json text}
    (ok : readFirst text = .ok step) (stops : step.rest = [] → StopsAt continuesNumber tail) :
    ∃ next : Step Json (text ++ tail), readFirst (text ++ tail) = .ok next ∧
      next.value = step.value ∧ next.rest = step.rest ++ tail := by
  obtain ⟨next, found, value, rest⟩ :=
    readout_map_ok.1 (readValue_followed 128 text step.value step.rest (readFirst_readout ok) stops)
  exact ⟨next, readFirst_eq_ok.2 found, value, rest⟩

theorem readFirst_follows {text : List Char} {step : Step Json text}
    (ok : readFirst text = .ok step) : Follows text step.rest :=
  (readValue_reads 128 text).of_ok (readFirst_readout ok)

theorem readValues_blank {source : List Char} (blank : source.dropWhile Unicode.isWhiteSpace = []) :
    readValues source = .ok [] := by
  rw [readValues]
  split
  · rfl
  · next same =>
    rw [blank] at same
    cases same

theorem readValues_cons {source rest : List Char} {c : Char}
    (start : source.dropWhile Unicode.isWhiteSpace = c :: rest) :
    readValues source = (readFirst (c :: rest)).bind fun step =>
      (readValues step.rest).map (step.value :: ·) := by
  rw [readValues]
  split
  · next same =>
    rw [start] at same
    cases same
  · next same =>
    rw [start] at same
    cases same
    cases readFirst (c :: rest) <;> rfl

theorem readValues_first {source rest left : List Char} {c : Char} {value : Json}
    {others : List Json} (start : source.dropWhile Unicode.isWhiteSpace = c :: rest)
    (read : (readValue 128 (c :: rest)).map Step.readout = .ok (value, left))
    (later : readValues left = .ok others) : readValues source = .ok (value :: others) := by
  obtain ⟨step, found, rfl, rfl⟩ := readout_map_ok.1 read
  rw [readValues_cons start, readFirst_eq_ok.2 found, Except.bind, later, Except.map]

theorem readValues_failed {source rest : List Char} {c : Char} {fault : Fault}
    (start : source.dropWhile Unicode.isWhiteSpace = c :: rest)
    (read : (readValue 128 (c :: rest)).map Step.readout = .error fault) :
    readValues source = .error (fault.locate (c :: rest)) := by
  have failed : readValue 128 (c :: rest) = .error fault := by
    cases outcome : readValue 128 (c :: rest) with
    | error other => rw [outcome] at read; cases read; rfl
    | ok step => rw [outcome] at read; cases read
  rw [readValues_cons start, readFirst, failed]
  rfl

theorem readValues_congr {left right : List Char}
    (same : left.dropWhile Unicode.isWhiteSpace = right.dropWhile Unicode.isWhiteSpace) :
    readValues left = readValues right := by
  cases start : right.dropWhile Unicode.isWhiteSpace with
  | nil => rw [readValues_blank start, readValues_blank (same.trans start)]
  | cons c rest => rw [readValues_cons start, readValues_cons (same.trans start)]

/-- No number goes on from the first text to the second one. -/
def Apart (first second : List Char) : Prop :=
  (∀ c ∈ first.getLast?, isVisible c = false) ∨ StopsAt continuesNumber second

theorem apart_line (first text : List Char) : Apart first ('\n' :: text) := by
  refine .inr fun c start => ?_
  cases start
  decide

theorem Apart.of_suffix {first rest second : List Char} (h : Apart first second)
    (part : rest <:+ first) : Apart rest second := by
  obtain ⟨front, rfl⟩ := part
  refine h.imp_left fun hidden c last => hidden c ?_
  rw [List.getLast?_append, Option.mem_def.1 last]
  rfl

theorem Apart.stops {first second : List Char} (h : Apart first second)
    (follows : Follows first []) : StopsAt continuesNumber second := by
  rcases h with hidden | stops
  · obtain ⟨c, visible, front, rfl⟩ := follows
    rw [hidden c (by simp)] at visible
    cases visible
  · exact stops

/-- A stream is that of its parts, if no number goes on from one to the other. -/
theorem readValues_append {first second : List Char} {documents : List Json}
    (ok : readValues first = .ok documents) (apart : Apart first second) :
    readValues (first ++ second) = (readValues second).map (documents ++ ·) := by
  -- The first document ends where it ended before, and what it leaves is a shorter stream.
  cases start : first.dropWhile Unicode.isWhiteSpace with
  | nil =>
    rw [readValues_blank start] at ok
    cases ok
    have skipped : (first ++ second).dropWhile Unicode.isWhiteSpace =
        second.dropWhile Unicode.isWhiteSpace := by
      rw [List.dropWhile_append, start]
      rfl
    rw [readValues_congr skipped]
    cases readValues second <;> rfl
  | cons c rest =>
    rw [readValues_cons start] at ok
    obtain ⟨step, read, ok⟩ := bind_eq_ok.1 ok
    obtain ⟨others, later, rfl⟩ := map_eq_ok.1 ok
    have part : c :: rest <:+ first := start ▸ List.dropWhile_suffix _
    have follows : Follows first step.rest := (readFirst_follows read).of_suffix part
    obtain ⟨next, read', value, left⟩ :=
      readFirst_followed read fun nothing => apart.stops (nothing ▸ follows)
    rw [readValues_cons (dropWhile_cons_followed start), ← List.cons_append, read', Except.bind,
      value, left, readValues_append later (apart.of_suffix follows.suffix)]
    cases readValues second <;> rfl
termination_by first.length
decreasing_by exact follows.length_lt

/-- A line end cuts a stream between two documents, whatever stands behind it. -/
theorem readValues_line {first : List Char} {documents : List Json}
    (ok : readValues first = .ok documents) (second : List Char) :
    readValues (first ++ '\n' :: second) = (readValues second).map (documents ++ ·) := by
  rw [readValues_append ok (apart_line first second)]
  congr 1
  exact readValues_congr rfl

theorem readAll_line {first : String} {documents : List Json} (ok : readAll first = .ok documents)
    (second : String) :
    readAll (first ++ "\n" ++ second) = (readAll second).map (documents ++ ·) := by
  have cut : (first ++ "\n" ++ second).toList = first.toList ++ '\n' :: second.toList := by
    simp
  rw [readAll, cut]
  exact readValues_line ok second.toList

end

end Json

/-! Samples. -/

namespace Command

open Json (readAll)

variable {options : InputOptions}

theorem same_select (options : InputOptions) (path path' : String) (document : Json) :
    Same (select options path document) (select options path' document) := by
  unfold select
  cases options.pointer with
  | none =>
    cases options.filter with
    | none => exact .refl _
    | some filter => exact .mapError (Filter.transform filter document) _ _
  | some pointer =>
    dsimp only
    cases document.pointer? pointer with
    | none => intro parts; constructor <;> · intro same; cases same
    | some part =>
      cases options.filter with
      | none => exact .refl _
      | some filter => exact .mapError (Filter.transform filter part) _ _

theorem samples_eq_ok (stream : options.stream = true) {path text : String}
    {samples : List Json} : (Source.mk path (.ok text)).samples options = .ok samples ↔
      ∃ documents parts, readAll text = .ok documents ∧
        documents.mapM (select options path) = .ok parts ∧ parts.flatten = samples := by
  unfold Source.samples Json.readDocuments
  simp only [bind_eq, bind_eq_ok, mapError_eq_ok, stream, if_true]
  constructor
  · rintro ⟨_, same, documents, read, parts, selected, flat⟩
    cases same
    cases flat
    exact ⟨documents, parts, read, selected, rfl⟩
  · rintro ⟨documents, parts, read, selected, rfl⟩
    exact ⟨text, rfl, documents, read, parts, selected, rfl⟩

theorem allSamples_append {left right : List Source} {samples : List Json} :
    ((left ++ right).mapM (Source.samples options)).map List.flatten = .ok samples ↔
      ∃ front back, (left.mapM (Source.samples options)).map List.flatten = .ok front ∧
        (right.mapM (Source.samples options)).map List.flatten = .ok back ∧
        front ++ back = samples := by
  simp only [map_eq_ok, mapM_append_eq_ok]
  constructor
  · rintro ⟨_, ⟨front, back, before, after, rfl⟩, rfl⟩
    exact ⟨_, _, ⟨front, before, rfl⟩, ⟨back, after, rfl⟩, List.flatten_append.symm⟩
  · rintro ⟨_, _, ⟨front, before, rfl⟩, ⟨back, after, rfl⟩, rfl⟩
    exact ⟨_, ⟨front, back, before, after, rfl⟩, List.flatten_append⟩

theorem allSamples_cons {source : Source} {rest : List Source} {samples : List Json} :
    ((source :: rest).mapM (Source.samples options)).map List.flatten = .ok samples ↔
      ∃ front back, source.samples options = .ok front ∧
        (rest.mapM (Source.samples options)).map List.flatten = .ok back ∧
        front ++ back = samples := by
  rw [List.mapM_cons]
  simp only [map_eq_ok, bind_eq, bind_eq_ok]
  constructor
  · rintro ⟨_, ⟨front, first, others, later, same⟩, rfl⟩
    cases same
    exact ⟨front, _, first, ⟨others, later, rfl⟩, rfl⟩
  · rintro ⟨front, _, first, ⟨others, later, rfl⟩, rfl⟩
    exact ⟨front :: others, ⟨front, first, others, later, rfl⟩, rfl⟩

end Command

namespace Json

open Command (Source allSamples_append allSamples_cons same_select samples_eq_ok select)

variable {first second : String} {xs : List Json} {options : Command.InputOptions}

theorem samples_line (ok : readAll first = .ok xs) (stream : options.stream = true)
    (path path' joined : String) {samples : List Json} :
    (Source.mk joined (.ok (first ++ "\n" ++ second))).samples options = .ok samples ↔
      ∃ front back, (Source.mk path (.ok first)).samples options = .ok front ∧
        (Source.mk path' (.ok second)).samples options = .ok back ∧ front ++ back = samples := by
  have same (path' : String) (documents : List Json) :
      Same (documents.mapM (select options joined)) (documents.mapM (select options path')) :=
    .mapM (same_select options joined path') documents
  simp only [samples_eq_ok stream, readAll_line ok, map_eq_ok]
  constructor
  · rintro ⟨_, parts, ⟨ys, read, rfl⟩, selected, rfl⟩
    obtain ⟨front, back, left, right, rfl⟩ := mapM_append_eq_ok.1 selected
    exact ⟨_, _, ⟨xs, front, ok, (same path xs front).1 left, rfl⟩,
      ⟨ys, back, read, (same path' ys back).1 right, rfl⟩, List.flatten_append.symm⟩
  · rintro ⟨_, _, ⟨xs', front, ok', left, rfl⟩, ⟨ys, back, read, right, rfl⟩, rfl⟩
    cases ok.symm.trans ok'
    refine ⟨_, front ++ back, ⟨ys, read, rfl⟩, mapM_append_eq_ok.2 ⟨front, back, ?_, ?_, rfl⟩,
      List.flatten_append⟩
    · exact (same path xs front).2 left
    · exact (same path' ys back).2 right

/-- A source of two streams with a line end between them gives the samples of the two sources that
the streams would be, wherever it stands among other sources. -/
theorem same_allSamples_line (ok : readAll first = .ok xs) (second : String)
    (stream : options.stream = true) (path path' joined : String) (before after : List Source) :
    Same (((before ++ Source.mk joined (.ok (first ++ "\n" ++ second)) :: after).mapM
        (Source.samples options)).map List.flatten)
      (((before ++ Source.mk path (.ok first) :: Source.mk path' (.ok second) :: after).mapM
        (Source.samples options)).map List.flatten) := by
  intro samples
  rw [allSamples_append, allSamples_append]
  refine exists_congr fun front => exists_congr fun back => and_congr_right fun _ =>
    and_congr_left fun _ => ?_
  simp only [allSamples_cons, samples_line ok stream path path' joined]
  constructor
  · rintro ⟨_, later, ⟨left, right, inFirst, inSecond, rfl⟩, rest, rfl⟩
    exact ⟨left, _, inFirst, ⟨right, later, inSecond, rest, rfl⟩, (List.append_assoc ..).symm⟩
  · rintro ⟨left, _, inFirst, ⟨right, later, inSecond, rest, rfl⟩, rfl⟩
    exact ⟨_, later, ⟨left, right, inFirst, inSecond, rfl⟩, rest, List.append_assoc ..⟩

/-- A line end between two streams changes nothing. The documents are those of the streams read one
by one, or the fault of the second one, and the samples are those of the streams as two sources. -/
theorem streams_concat (ok : readAll first = .ok xs) (second : String) :
    (∀ ys, readAll second = .ok ys → readAll (first ++ "\n" ++ second) = .ok (xs ++ ys)) ∧
    (∀ e, readAll second = .error e → readAll (first ++ "\n" ++ second) = .error e) ∧
    ∀ (options : Command.InputOptions) (path path' joined : String) (before after : List Source),
      options.stream = true →
        Same (((before ++ Source.mk joined (.ok (first ++ "\n" ++ second)) :: after).mapM
            (Source.samples options)).map List.flatten)
          (((before ++ Source.mk path (.ok first) :: Source.mk path' (.ok second) :: after).mapM
            (Source.samples options)).map List.flatten) := by
  refine ⟨fun ys ok' => ?_, fun e failed => ?_, ?_⟩
  · rw [readAll_line ok, ok', Except.map]
  · rw [readAll_line ok, failed, Except.map]
  · intro options path path' joined before after stream
    exact same_allSamples_line ok second stream path path' joined before after

/-- Without the line end, the last number of the first text would be one with that of the second. -/
theorem streams_concat_numbers : readAll "null 1" = .ok [.null, .number (.integer 1)] ∧
    readAll "2" = .ok [.number (.integer 2)] ∧
    readAll "null 1\n2" = .ok [.null, .number (.integer 1), .number (.integer 2)] := by
  have one : readAll "null 1" = .ok [.null, .number (.integer 1)] := by
    apply readValues_first
    · rfl
    · rw [readValue_cons rfl]; rfl
    · apply readValues_first
      · rfl
      · rw [readValue_cons rfl]; rfl
      · apply readValues_blank rfl
  have two : readAll "2" = .ok [.number (.integer 2)] := by
    apply readValues_first
    · rfl
    · rw [readValue_cons rfl]; rfl
    · apply readValues_blank rfl
  exact ⟨one, two, (streams_concat one "2").1 _ two⟩

end Json

end ShapeInference
