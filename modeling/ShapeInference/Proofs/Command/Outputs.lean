import ShapeInference.Command.Arguments
import ShapeInference.Command.Run
import ShapeInference.Proofs.Files.Changes
import ShapeInference.Proofs.Json.Stream

/-! What a run leaves behind.

Nothing is printed or changed before there is a result. A result goes to the standard output, or
else to a file; then the file changes, and directories above it are made where they are missing.
-/

set_option autoImplicit false

namespace ShapeInference.Command

open Files (Disk View)

/-- Whether the result was there and could not be put out. -/
def CommandError.concernsOutput : CommandError → Bool
  | .createDirectory .. => true
  | .write .. => true
  | _ => false

def Form.textOf : Form → Shape → String
  | .model, t => (Model.ofShape t).toJson.pretty
  | .tree, t => t.toJson.pretty

/-- What reaches the standard output. A run that fails prints nothing there. -/
def standardOutput (ran : Logged CommandError Printed) : String :=
  match ran.outcome with
  | .ok printed => printed.stdout
  | .error _ => ""

def Invocation.gathered (i : Invocation) (disk : Disk) : Gathered :=
  (gather i : ReaderM Disk Gathered).run disk

theorem outcome_resultText (i : Invocation) (gathered : Gathered) :
    (resultText i gathered).outcome = (inferShape i gathered).outcome.map i.form.textOf := by
  rw [resultText, Logged.outcome_bind]
  cases (inferShape i gathered).outcome with
  | error error => rfl
  | ok t => cases i.form <;> rfl

/-! Errors before there is a result. -/

/-- Where it fails, there was no result yet. -/
def FailsEarly {α : Type} (outcome : Except CommandError α) : Prop :=
  Yields (·.concernsOutput = false) (fun _ => True) outcome

namespace FailsEarly

variable {α β : Type}

theorem mapError {ε : Type} {f : ε → CommandError} (early : ∀ error, (f error).concernsOutput = false)
    (x : Except ε α) : FailsEarly (x.mapError f) := by
  cases x with
  | error error => exact early error
  | ok a => trivial

theorem bind {x : Except CommandError α} {f : α → Except CommandError β} (h : FailsEarly x)
    (step : ∀ a, FailsEarly (f a)) : FailsEarly (x >>= f) :=
  Yields.bind h fun a _ _ => step a

theorem logged_bind {x : Logged CommandError α} {f : α → Logged CommandError β}
    (h : FailsEarly x.outcome) (step : ∀ a, FailsEarly (f a).outcome) :
    FailsEarly (x >>= f).outcome := by
  rw [Logged.outcome_bind]
  exact bind h step

theorem mapM {f : α → Except CommandError β} {list : List α} (each : ∀ a ∈ list, FailsEarly (f a)) :
    FailsEarly (list.mapM f) := by
  induction list with
  | nil => trivial
  | cons a rest ih =>
    obtain ⟨first, later⟩ := List.forall_mem_cons.1 each
    rw [List.mapM_cons]
    exact first.bind fun _ => (ih later).bind fun _ => trivial

end FailsEarly

theorem run_mapM {ρ α β : Type} (f : α → ReaderM ρ β) (list : List α) (r : ρ) :
    (list.mapM f).run r = list.map fun a => (f a).run r := by
  induction list with
  | nil => rfl
  | cons a rest ih =>
    rw [List.mapM_cons, List.map_cons, ← ih]
    rfl

theorem run_bind {ρ α β : Type} (x : ReaderM ρ α) (f : α → ReaderM ρ β) (r : ρ) :
    (x >>= f).run r = (f (x.run r)).run r :=
  rfl

theorem failsEarly_expand (input : String) (disk : Disk) :
    FailsEarly ((expand input : ReaderM Disk _).run disk) := by
  unfold expand
  split
  · split
    · rfl
    · rw [run_bind]
      split
      · rfl
      · rfl
      · trivial
  · trivial

theorem failsEarly_sources (i : Invocation) (disk : Disk) :
    FailsEarly (i.gathered disk).sources := by
  have expanded : FailsEarly (List.mapM id
      (i.input.patterns.map fun input => (expand input : ReaderM Disk _).run disk)) := by
    refine .mapM fun outcome member => ?_
    obtain ⟨input, _, rfl⟩ := List.mem_map.1 member
    exact failsEarly_expand input disk
  rw [← run_mapM] at expanded
  rw [Invocation.gathered, gather, run_bind]
  generalize ((i.input.patterns.mapM expand : ReaderM Disk _).run disk).mapM id = outcome
    at expanded ⊢
  cases outcome with
  | error error => cases i.inference.singulars <;> exact expanded
  | ok paths => cases i.inference.singulars <;> trivial

theorem failsEarly_select (options : InputOptions) (path : String) (document : Json) :
    FailsEarly (select options path document) := by
  rw [select]
  cases options.filter with
  | none =>
    split
    · trivial
    · split
      · trivial
      · rfl
  | some source =>
    split
    · exact .mapError (fun _ => rfl) _
    · split
      · exact .mapError (fun _ => rfl) _
      · rfl

theorem failsEarly_samples (options : InputOptions) (source : Source) :
    FailsEarly (source.samples options) := by
  refine (FailsEarly.mapError (fun _ => rfl) _).bind fun text => ?_
  refine (FailsEarly.mapError (fun _ => rfl) _).bind fun documents => ?_
  exact (FailsEarly.mapM fun document _ => failsEarly_select options _ document).bind fun _ => trivial

theorem failsEarly_singularTable (source : Option Source) : FailsEarly (singularTable source) := by
  cases source with
  | none => trivial
  | some source =>
    refine (FailsEarly.mapError (fun _ => rfl) _).bind fun text => ?_
    exact (FailsEarly.mapError (fun _ => rfl) _).bind fun _ => trivial

theorem failsEarly_inferShape (i : Invocation) (disk : Disk) :
    FailsEarly (inferShape i (i.gathered disk)).outcome := by
  rw [inferShape]
  refine .logged_bind ?_ fun sources => .logged_bind ?_ fun samples => .logged_bind trivial fun _ => ?_
  · exact failsEarly_sources i disk
  · exact .mapM fun source _ => failsEarly_samples i.input source
  · dsimp only
    split
    · rfl
    · refine .logged_bind (.mapError (fun _ => rfl) _) fun merged => ?_
      refine .logged_bind (failsEarly_singularTable _) fun table => ?_
      exact .mapError (fun _ => rfl) _

/-! Putting out. -/

/-- The second disk has a file with the text at the path. Else it has no more than directories,
named by paths above that of the file, which the first one lacks. -/
structure Saved (path text : String) (before after : Disk) : Prop where
  here : after.here = before.here
  written : ∃ place, after.resolve path = .ok place ∧
    after.entryAt place = some (.file (Text.utf8 text)) ∧
    ∀ other, after.entryAt other ≠ before.entryAt other → other = place ∨
      before.entryAt other = none ∧ after.entryAt other = some .directory ∧
        ∃ above, Relation.TransGen Files.IsParent path above ∧ after.resolve above = .ok other

theorem added_makeParent (disk : Disk) (path : String) : disk.Keeps (makeParent disk path).2 ∧
    ∀ place, (makeParent disk path).2.entryAt place ≠ disk.entryAt place →
      disk.entryAt place = none ∧ (makeParent disk path).2.entryAt place = some .directory ∧
        ∃ above, Relation.TransGen Files.IsParent path above ∧
          (makeParent disk path).2.resolve above = .ok place := by
  rw [makeParent]
  split
  · exact ⟨.refl disk, fun _ differs => absurd rfl differs⟩
  · next parent found =>
    have grown := disk.grows_createDirectories parent
    refine ⟨grown.keeps, fun place differs => ?_⟩
    obtain ⟨free, made, above, isAbove, named⟩ := grown.added place differs
    exact ⟨free, made, above, .head' found isAbove, named⟩

theorem save_ok {disk : Disk} {path text : String} (ok : (save disk path text).1.outcome = .ok ()) :
    Saved path text disk (save disk path text).2 := by
  obtain ⟨kept, added⟩ := added_makeParent disk path
  revert ok
  rw [save]
  generalize makeParent disk path = made at kept added ⊢
  obtain ⟨outcome, between⟩ := made
  cases outcome with
  | error error => exact fun ok => nomatch ok
  | ok =>
    dsimp only at kept added ⊢
    cases writing : between.write path text with
    | error error => exact fun ok => nomatch ok
    | ok after =>
      intro _
      obtain ⟨still, place, named, changed⟩ := Disk.write_eq_ok writing
      refine ⟨still.here.trans kept.here, place, named, by rw [changed, if_pos rfl], ?_⟩
      intro other differs
      refine or_iff_not_imp_left.2 fun elsewhere => ?_
      dsimp only at differs ⊢
      rw [changed, if_neg elsewhere] at differs ⊢
      obtain ⟨free, isDirectory, above, isAbove, leads⟩ := added other differs
      exact ⟨free, isDirectory, above, isAbove, still.resolve leads⟩

theorem concernsOutput_makeParent {disk : Disk} {path : String} {error : CommandError}
    (failed : (makeParent disk path).1 = .error error) : error.concernsOutput = true := by
  rw [makeParent] at failed
  split at failed
  · cases failed
  · next parent _ =>
    dsimp only at failed
    cases made : (disk.createDirectories parent).1 with
    | error cause =>
      rw [made] at failed
      cases failed
      rfl
    | ok =>
      rw [made] at failed
      cases failed

theorem concernsOutput_save {disk : Disk} {path text : String} {error : CommandError}
    (failed : (save disk path text).1.outcome = .error error) : error.concernsOutput = true := by
  rw [save] at failed
  split at failed
  · next stopped =>
    cases failed
    exact concernsOutput_makeParent (congrArg Prod.fst stopped)
  · split at failed
    · cases failed
      rfl
    · cases failed

theorem outcome_putOut_some (disk : Disk) (path text : String) :
    (putOut disk (some path) text).1.outcome = (save disk path text).1.outcome.map fun _ => {} := by
  rw [putOut, Logged.outcome_bind]
  cases (save disk path text).1.outcome <;> rfl

theorem concernsOutput_putOut {disk : Disk} {out : Option String} {text : String}
    {error : CommandError} (failed : (putOut disk out text).1.outcome = .error error) :
    error.concernsOutput = true := by
  cases out with
  | none => cases failed
  | some path =>
    rw [outcome_putOut_some] at failed
    cases saved : (save disk path text).1.outcome with
    | ok => rw [saved] at failed; cases failed
    | error cause =>
      rw [saved] at failed
      cases failed
      exact concernsOutput_save saved

theorem putOut_ok {disk : Disk} {out : Option String} {text : String} {printed : Printed} :
    (putOut disk out text).1.outcome = .ok printed →
      match out with
      | none => printed.stdout = text ++ "\n" ∧ (putOut disk out text).2 = disk
      | some path => printed.stdout = "" ∧ Saved path text disk (putOut disk out text).2 := by
  intro ok
  cases out with
  | none =>
    cases ok
    exact ⟨rfl, rfl⟩
  | some path =>
    rw [outcome_putOut_some, map_eq_ok] at ok
    obtain ⟨_, saved, rfl⟩ := ok
    exact ⟨rfl, save_ok saved⟩

/-- A run ends with the error that left it without a result, or as putting the result out ends. -/
theorem run_cases (i : Invocation) (before : Disk) (running : i.noOp = false) :
    (∃ error, (inferShape i (i.gathered before)).outcome = .error error ∧
      (i.run before).1.outcome = .error error ∧ (i.run before).2 = before) ∨
    ∃ t, (inferShape i (i.gathered before)).outcome = .ok t ∧
      (i.run before).1.outcome = (putOut before i.out (i.form.textOf t)).1.outcome ∧
      (i.run before).2 = (putOut before i.out (i.form.textOf t)).2 := by
  have result := outcome_resultText i (i.gathered before)
  rw [Invocation.run, if_neg (by simp [running])]
  dsimp only
  rw [← Invocation.gathered]
  cases inferred : (inferShape i (i.gathered before)).outcome with
  | error error =>
    rw [inferred] at result
    left
    refine ⟨error, rfl, ?_⟩
    rw [result]
    exact ⟨rfl, rfl⟩
  | ok t =>
    rw [inferred] at result
    right
    refine ⟨t, rfl, ?_⟩
    rw [result]
    dsimp only [Except.map]
    exact ⟨by rw [Logged.outcome_bind, result]; rfl, rfl⟩

/-- Nothing is printed or changed without a result, and an error from before there was one tells so.
A result is all that is printed, or the file at the asked path is all that changes, but for missing
directories above it. -/
theorem output_only_of_result (i : Invocation) (before : Disk) :
    (i.noOp = true → standardOutput (i.run before).1 = "" ∧ (i.run before).2 = before) ∧
    (∀ error, i.noOp = false → (inferShape i (i.gathered before)).outcome = .error error →
      (i.run before).1.outcome = .error error ∧ error.concernsOutput = false) ∧
    (∀ error, (i.run before).1.outcome = .error error → error.concernsOutput = false →
      standardOutput (i.run before).1 = "" ∧ (i.run before).2 = before) ∧
    (∀ printed, (i.run before).1.outcome = .ok printed → i.noOp = false →
      ∃ t, (inferShape i (i.gathered before)).outcome = .ok t ∧
        match i.out with
        | none => printed.stdout = i.form.textOf t ++ "\n" ∧ (i.run before).2 = before
        | some path =>
          printed.stdout = "" ∧ Saved path (i.form.textOf t) before (i.run before).2) := by
  refine ⟨fun shown => ?_, fun error running failed => ?_, fun error failed early => ?_,
    fun printed ok running => ?_⟩
  · rw [Invocation.run, if_pos shown]
    exact ⟨rfl, rfl⟩
  · have early := (failsEarly_inferShape i before).of_error failed
    obtain ⟨other, same, ended, _⟩ | ⟨t, inferred, _⟩ := run_cases i before running
    · cases same.symm.trans failed
      exact ⟨ended, early⟩
    · cases inferred.symm.trans failed
  · refine ⟨by rw [standardOutput, failed], ?_⟩
    cases running : i.noOp with
    | true => rw [Invocation.run, if_pos running]
    | false =>
      obtain ⟨other, _, _, same⟩ | ⟨t, _, ended, _⟩ := run_cases i before running
      · exact same
      · rw [concernsOutput_putOut (ended.symm.trans failed)] at early
        cases early
  · obtain ⟨other, _, ended, _⟩ | ⟨t, inferred, ended, left⟩ := run_cases i before running
    · cases ended.symm.trans ok
    · rw [left]
      exact ⟨t, inferred, putOut_ok (ended.symm.trans ok)⟩

def oneSource : Disk where
  root := .directory [("work", .directory [("a.json", .file (Text.utf8 "1"))])]
  here := ["work"]

def intoMissing : Invocation where
  form := .tree
  input := { patterns := ["a.json"] }
  out := some "made/a.json"

theorem inferShape_intoMissing :
    (inferShape intoMissing (intoMissing.gathered oneSource)).outcome = .ok (.number .int) := by
  have text : oneSource.read "a.json" = .ok "1" := by decide +kernel
  have gathered : intoMissing.gathered oneSource =
      { sources := .ok [⟨"a.json", .ok "1"⟩], singulars := none } := by
    rw [← text]
    rfl
  have value : (Json.readValue 128 ['1']).map Json.Step.readout = .ok (.number (.integer 1), []) := by
    rw [Json.readValue_cons rfl]
    rfl
  have read : Json.read "1" = .ok (.number (.integer 1)) := by
    obtain ⟨step, first, same, _⟩ := Json.readout_map_ok.1 value
    have found : Json.readFirst ("1" : String).toList = .ok step := Json.readFirst_eq_ok.2 first
    rw [Json.read, found]
    exact congrArg Except.ok same
  have documents : Json.readDocuments false "1" = .ok [.number (.integer 1)] := by
    simp [Json.readDocuments, read, Except.map]
  have samples : Source.samples { patterns := ["a.json"] } ⟨"a.json", .ok "1"⟩ =
      .ok [.number (.integer 1)] := by
    show (Json.readDocuments false "1").mapError _ >>= _ = _
    rw [documents]
    rfl
  rw [gathered, inferShape]
  simp [Except.bind, bind_eq, samples, pure, Except.pure, Shape.seeds, singularTable, intoMissing]
  rfl

theorem outcome_intoMissing : (intoMissing.run oneSource).1.outcome = .ok {} := by
  let between := oneSource.put ⟨["work"], "made"⟩ (.directory [])
  have parent : Files.parent? "made/a.json" = some "made" := by decide +kernel
  have directory : oneSource.createDirectory "made" = .ok between := by rfl
  have directories : oneSource.createDirectories "made" = (.ok (), between) := by
    rw [Disk.createDirectories, if_neg (by decide), directory]
  have writes (text : String) : between.write "made/a.json" text =
      .ok (between.put ⟨["work", "made"], "a.json"⟩ (.file (Text.utf8 text))) := by rfl
  obtain ⟨_, failed, _⟩ | ⟨t, _, ended, _⟩ := run_cases intoMissing oneSource rfl
  · cases failed.symm.trans inferShape_intoMissing
  · rw [ended, intoMissing, outcome_putOut_some, save, makeParent, parent]
    dsimp only
    rw [directories]
    dsimp only [Except.mapError]
    rw [writes]
    rfl

/-- A run that makes the directory of its file. -/
theorem output_only_of_result_missing :
    Invocation.ofArguments ["tree", "-i", "a.json", "-o", "made/a.json"] = .ok intoMissing ∧
      intoMissing.noOp = false ∧ (intoMissing.run oneSource).1.outcome = .ok {} ∧
      Saved "made/a.json" "\x7b\n  \"kind\": \"number\",\n  \"value\": \"int\"\n\x7d" oneSource
        (intoMissing.run oneSource).2 := by
  obtain ⟨t, inferred, _, saved⟩ :=
    (output_only_of_result intoMissing oneSource).2.2.2 {} outcome_intoMissing rfl
  cases inferred.symm.trans inferShape_intoMissing
  have text : Form.tree.textOf (.number .int) =
      "\x7b\n  \"kind\": \"number\",\n  \"value\": \"int\"\n\x7d" := by decide +kernel
  rw [← text]
  exact ⟨by decide, rfl, outcome_intoMissing, saved⟩

end ShapeInference.Command
