import ShapeInference.Proofs.Json.Doubles
import ShapeInference.Proofs.Json.Extents
import ShapeInference.Proofs.Members

/-! What is known of a value that was read.

Its integers fit 64 bits, with a sign or without, and its doubles are finite. The keys of each
object are distinct, and the value is no deeper than its reader allows.
-/

set_option autoImplicit false

namespace ShapeInference.Json

/-- A number as the reader of numbers makes it. -/
inductive Number.Legible : Number → Prop where
  | natural {n : Nat} : n ≤ maxUnsigned → Legible (.integer n)
  | negated {n : Nat} : 0 < n → n ≤ 0x8000000000000000 → Legible (.integer (-n))
  | double {x : Binary64} : x.magnitude.Finite → Legible (.double x)

/-- A value as a reader of values makes it that is given this depth. -/
inductive Legible : Nat → Json → Prop where
  | null (depth : Nat) : Legible depth .null
  | bool (depth : Nat) (value : Bool) : Legible depth (.bool value)
  | number (depth : Nat) {value : Number} : value.Legible → Legible depth (.number value)
  | string (depth : Nat) (value : String) : Legible depth (.string value)
  | array {depth : Nat} {elements : List Json} :
      (∀ element ∈ elements, Legible (depth + 1) element) → Legible (depth + 2) (.array elements)
  | object {depth : Nat} {members : Members Json} : members.keys.Nodup →
      (∀ member ∈ members, Legible (depth + 1) member.2) → Legible (depth + 2) (.object members)

def Finds {α : Type} (P : α → Prop) (x : Readout α) : Prop :=
  Yields (fun _ => True) (fun read => P read.1) x

namespace Finds

variable {α β : Type} {P : α → Prop} {Q : β → Prop} {x y : Readout α}

theorem error (fault : Fault) : Finds P (.error fault) := trivial

theorem ok {value : α} (holds : P value) (rest : List Char) : Finds P (.ok (value, rest)) := holds

theorem anything (x : Readout α) : Finds (fun _ => True) x := by
  cases x <;> exact trivial

theorem ite {p : Prop} [Decidable p] (yes : p → Finds P x) (no : ¬ p → Finds P y) :
    Finds P (if p then x else y) := by
  split
  · next holds => exact yes holds
  · next fails => exact no fails

theorem map {f : α → β} (h : Finds P x) (step : ∀ value, P value → Q (f value)) :
    Finds Q (x.map fun read => (f read.1, read.2)) :=
  Yields.map h fun read holds => step read.1 holds

theorem bind {f : α × List Char → Readout β} (h : Finds P x)
    (step : ∀ value rest, x = .ok (value, rest) → P value → Finds Q (f (value, rest))) :
    Finds Q (x.bind f) :=
  Yields.bind h fun read found holds => step read.1 read.2 found holds

theorem under (h : Finds P x) (segment : Segment) : Finds P (x.mapError (.under segment)) :=
  Yields.mapError h fun _ _ => trivial

end Finds

/-! Numbers. -/

section
variable {negative : Bool} {significand dropped : Nat}

theorem addDigits_le (fits : significand ≤ maxUnsigned) (digits : List Char) :
    (addDigits significand digits).significand ≤ maxUnsigned := by
  induction digits generalizing significand with
  | nil => exact fits
  | cons d rest ih =>
    rw [addDigits]
    dsimp only
    split
    · exact fits
    · next small => exact ih (by omega)

theorem double_finds (exponent : Int) (rest : List Char) :
    Finds Number.Legible (double negative significand exponent rest) := by
  unfold double
  split
  · next scaled => exact .ok (.double (finite_scale? scaled)) rest
  · exact .error _

theorem signedExponent_finds (start : Int) (down : Bool) (text : List Char) :
    Finds Number.Legible (signedExponent negative significand start down text) := by
  cases text with
  | nil => exact .error _
  | cons c rest =>
    rw [signedExponent]
    refine .ite (fun _ => .ite (fun _ => ?_) fun _ => .ite (fun _ => ?_) fun _ => .error _)
      fun _ => .error _
    · exact double_finds _ _
    · exact .ok (.double Magnitude.finite_zero) _

theorem readExponent_finds (start : Int) (text : List Char) :
    Finds Number.Legible (readExponent negative significand start text) := by
  unfold readExponent
  split
  · exact signedExponent_finds start false _
  · exact signedExponent_finds start true _
  · exact signedExponent_finds start false text

theorem readScale_finds (exponent : Int) (text : List Char) :
    Finds Number.Legible (readScale negative significand exponent text) := by
  rcases stopsAt_or isExponentMark text with ends | ⟨c, more, rfl, mark⟩
  · rw [readScale_end ends]
    exact double_finds exponent text
  · rw [readScale_mark mark]
    exact readExponent_finds exponent more

theorem readFraction_finds (fits : significand ≤ maxUnsigned) (text : List Char) :
    Finds Number.Legible (readFraction negative significand dropped text) := by
  rcases stopsAt_or isFractionMark text with ends | ⟨c, more, rfl, mark⟩
  · rw [readFraction_end ends]
    refine .ite (fun _ => double_finds _ _) fun _ => .ite (fun _ => ?_) fun _ =>
      .ite (fun small => ?_) fun _ => double_finds _ _
    · exact .ok (.natural fits) text
    · exact .ok (.negated small.1 small.2) text
  · simp only [isFractionMark, isExponentMark, Bool.or_eq_true, decide_eq_true_eq] at mark
    rcases mark with rfl | rfl | rfl
    · rw [readFraction_point]
      exact .ite (fun _ => .error _) fun _ => readScale_finds _ _
    · exact readExponent_finds dropped more
    · exact readExponent_finds dropped more

theorem readNumber_finds (text : List Char) :
    Finds Number.Legible (readNumber negative text) := by
  cases text with
  | nil => exact .error _
  | cons c rest =>
    rw [readNumber]
    refine .ite (fun _ => .ite (fun _ => .error _) fun _ => ?_) fun _ =>
      .ite (fun digit => ?_) fun _ => .error _
    · exact readFraction_finds (Nat.zero_le _) rest
    · simp only [Char.isDigit, Bool.and_eq_true, decide_eq_true_eq] at digit
      have most : c.toNat ≤ 57 := digit.2
      have small : digitValue c ≤ maxUnsigned := by
        rw [digitValue, maxUnsigned]
        omega
      exact readFraction_finds (addDigits_le small _) _

end

/-! Values. -/

abbrev LegibleBelow (n : Nat) : Prop :=
  HoldBelow (fun depth text => Finds (Legible depth) ((readValue depth text).map Step.readout))
    (fun depth index text => Finds (∀ element ∈ ·, Legible depth element)
      ((readElements depth index text).map Step.readout))
    (fun depth first text =>
      Finds (fun members : Members Json => ∀ member ∈ members, Legible depth member.2)
        ((readMembers depth first text).map Step.readout)) n

section
variable {n : Nat}

theorem LegibleBelow.value_next (below : LegibleBelow n) (depth : Nat) {text : List Char}
    (short : text.length < n + 1) :
    Finds (Legible depth) ((readValue depth text).map Step.readout) := by
  cases found : skipBlanks text with
  | nil =>
    rw [readValue_nil found]
    exact .error _
  | cons c rest =>
    have shorter : rest.length < n := by
      have bound := length_skipBlanks_le text
      rw [found, List.length_cons] at bound
      omega
    have name {value : Json} (legible : Legible depth value) (spelling : List Char) :
        Finds (Legible depth) ((readName spelling rest).map fun rest => (value, rest)) := by
      cases readName spelling rest with
      | error fault => exact .error fault
      | ok left => exact .ok legible left
    rw [readValue_cons found]
    refine .ite (fun _ => name (.null depth) _) fun _ => ?_
    refine .ite (fun _ => name (.bool depth true) _) fun _ => ?_
    refine .ite (fun _ => name (.bool depth false) _) fun _ => ?_
    refine .ite (fun _ => (readNumber_finds rest).map fun _ => .number depth) fun _ => ?_
    refine .ite (fun _ => (readNumber_finds (c :: rest)).map fun _ => .number depth) fun _ => ?_
    refine .ite (fun _ => (Finds.anything (readString rest)).map fun cs _ =>
      Legible.string depth (.ofList cs)) fun _ => ?_
    refine .ite (fun _ => .ite (fun _ => .error _) fun deep => ?_) fun _ => ?_
    · obtain ⟨inner, rfl⟩ : ∃ inner, depth = inner + 2 := ⟨depth - 2, by omega⟩
      exact (below.elements (inner + 1) 0 rest shorter).map fun _ => .array
    refine .ite (fun _ => .ite (fun _ => .error _) fun deep => ?_) fun _ => .error _
    · obtain ⟨inner, rfl⟩ : ∃ inner, depth = inner + 2 := ⟨depth - 2, by omega⟩
      exact (below.members (inner + 1) true rest shorter).map fun entries inside =>
        Legible.object (Members.nodup_keys_ofList entries) fun member kept =>
          inside member (Members.mem_of_mem_ofList kept)

theorem LegibleBelow.elements_next (below : LegibleBelow n)
    (value : ∀ depth text, text.length < n + 1 →
      Finds (Legible depth) ((readValue depth text).map Step.readout))
    (depth index : Nat) {text : List Char} (short : text.length < n + 1) :
    Finds (∀ element ∈ ·, Legible depth element)
      ((readElements depth index text).map Step.readout) := by
  rw [readElements_eq]
  refine (Finds.anything _).bind fun more start next _ => ?_
  have bound := (nextElement_rest_suffix next).length_le
  refine .ite (fun _ => ?_) fun _ => .ok (List.forall_mem_nil _) start
  refine ((value depth start (by omega)).under _).bind fun element rest read legible => ?_
  have shorter : rest.length < start.length := by
    obtain ⟨step, _, _, rfl⟩ := readout_map_ok.1 (mapError_eq_ok.1 read)
    exact step.shorter
  exact (below.elements depth (index + 1) rest (by omega)).map (f := (element :: ·))
    fun others inside => List.forall_mem_cons.2 ⟨legible, inside⟩

theorem LegibleBelow.members_next (below : LegibleBelow n) (depth : Nat) (first : Bool)
    {text : List Char} (short : text.length < n + 1) :
    Finds (fun members : Members Json => ∀ member ∈ members, Legible depth member.2)
      ((readMembers depth first text).map Step.readout) := by
  rw [readMembers_eq]
  refine (Finds.anything _).bind fun key start next _ => ?_
  have bound := nextMember_shorter next
  cases key with
  | none => exact .ok (List.forall_mem_nil _) start
  | some key =>
    refine ((below.value depth start (by omega)).under _).bind fun value rest read legible => ?_
    have shorter : rest.length < start.length := by
      obtain ⟨step, _, _, rfl⟩ := readout_map_ok.1 (mapError_eq_ok.1 read)
      exact step.shorter
    exact (below.members depth false rest (by omega)).map (f := ((key, value) :: ·))
      fun others inside => List.forall_mem_cons.2 ⟨legible, inside⟩

theorem legibleBelow (n : Nat) : LegibleBelow n :=
  HoldBelow.of_steps (fun _ below depth _ short => LegibleBelow.value_next below depth short)
    (fun _ below value depth index _ short => LegibleBelow.elements_next below value depth index short)
    (fun _ below depth first _ short => LegibleBelow.members_next below depth first short) n

end

theorem readValue_finds (depth : Nat) (text : List Char) :
    Finds (Legible depth) ((readValue depth text).map Step.readout) :=
  (legibleBelow (text.length + 1)).value depth text (Nat.lt_succ_self _)

end ShapeInference.Json
