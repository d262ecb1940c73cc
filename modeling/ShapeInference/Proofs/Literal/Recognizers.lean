import ShapeInference.Proofs.Literal.Dates
import ShapeInference.Proofs.Literal.Urls

/-! The recognizers of texts exclude one another.

A URL starts with the letter of a scheme, and dates and timestamps start with a digit. No digit is
left out around a URL. A timestamp goes on where a date ends. So at most one recognizer accepts a
text, and the text becomes the same leaf in whatever order they are tried.
-/

set_option autoImplicit false

namespace ShapeInference

namespace Literal

inductive Recognizer where
  | url
  | timestamp
  | dateOnly
  deriving DecidableEq, Repr

namespace Recognizer

def accepts (recognizer : Recognizer) (text : String) : Bool :=
  match recognizer with
  | .url => isUrl text
  | .timestamp => isTimestamp text.toList
  | .dateOnly => isDateOnly text.toList

def leaf (recognizer : Recognizer) (text : String) : Shape :=
  match recognizer with
  | .url => .url text
  | .timestamp => .date .timestamp
  | .dateOnly => .date .dateOnly

/-- The order in which refining tries them. -/
def all : List Recognizer := [.url, .timestamp, .dateOnly]

def promote (order : List Recognizer) (text : String) : Shape :=
  match order.find? (·.accepts text) with
  | some recognizer => recognizer.leaf text
  | none => .text text

end Recognizer

/-! What the accepted texts start with. -/

section
variable {text : List Char} {s : String}

theorem isPadding_of_isDigit {c : Char} (digit : c.isDigit = true) : Url.isPadding c = false := by
  have range := digit_iff.1 digit
  simp only [Char.reduceToNat] at range
  rw [Bool.eq_false_iff, Ne, isPadding_iff]
  omega

theorem isAlpha_of_isDigit {c : Char} (digit : c.isDigit = true) : c.isAlpha = false := by
  have range := digit_iff.1 digit
  simp only [Char.reduceToNat] at range
  exact Unicode.forall_ascii (p := fun c => c.isDigit = true → c.isAlpha = false) (by decide)
    (by omega) digit

theorem isUrl_of_digit {c : Char} {rest : List Char} (start : s.toList = c :: rest)
    (digit : c.isDigit = true) : isUrl s = false := by
  rw [Bool.eq_false_iff]
  intro accepted
  obtain ⟨letter, others, same, alpha⟩ := (tight_trim accepted).first
  obtain ⟨front, back, whole, padding⟩ := Url.exists_trim s.toList
  rw [same, start] at whole
  cases front with
  | nil =>
    cases whole
    rw [isAlpha_of_isDigit digit] at alpha
    cases alpha
  | cons first more =>
    cases whole
    have dropped := padding c List.mem_cons_self
    rw [isPadding_of_isDigit digit] at dropped
    cases dropped

theorem IsDateText.length_eq (date : IsDateText text) : text.length = 10 := by
  obtain ⟨year, month, day, years, months, days, rfl, -⟩ := isDateText_iff.1 date
  simp only [List.length_append, List.length_cons, years.length_eq, months.length_eq,
    days.length_eq]

theorem IsDateText.starts (date : IsDateText text) :
    ∃ c rest, text = c :: rest ∧ c.isDigit = true := by
  obtain ⟨year, month, day, years, -, -, rfl, -⟩ := isDateText_iff.1 date
  obtain ⟨length, digit⟩ := years
  cases year with
  | nil => cases length
  | cons c rest => exact ⟨c, _, rfl, digit c List.mem_cons_self⟩

theorem IsTimestampText.exists_date (timestamp : IsTimestampText text) :
    ∃ date rest, IsDateText date ∧ text = date ++ 'T' :: rest := by
  cases timestamp with
  | mk date _ _ _ _ _ => exact ⟨_, _, date, rfl⟩

end

namespace Recognizer

variable {s : String} {a b : Recognizer}

theorem starts_of_accepts (other : a ≠ .url) (accepted : a.accepts s = true) :
    ∃ c rest, s.toList = c :: rest ∧ c.isDigit = true := by
  cases a with
  | url => exact absurd rfl other
  | timestamp =>
    obtain ⟨date, rest, written, whole⟩ := (isTimestamp_iff.1 accepted).exists_date
    obtain ⟨c, more, rfl, digit⟩ := written.starts
    exact ⟨c, _, whole, digit⟩
  | dateOnly => exact (isDateOnly_iff.1 accepted).starts

theorem url_unique (accepted : accepts .url s = true) (found : a.accepts s = true) : a = .url := by
  by_contra other
  obtain ⟨c, rest, start, digit⟩ := starts_of_accepts other found
  have refused : isUrl s = false := isUrl_of_digit start digit
  rw [accepts, refused] at accepted
  cases accepted

theorem timestamp_not_dateOnly (accepted : accepts .timestamp s = true) :
    accepts .dateOnly s = false := by
  rw [Bool.eq_false_iff]
  intro found
  obtain ⟨date, rest, written, whole⟩ := (isTimestamp_iff.1 accepted).exists_date
  have short := (isDateOnly_iff.1 found).length_eq
  rw [whole, List.length_append, List.length_cons, written.length_eq] at short
  omega

theorem accepts_unique (first : a.accepts s = true) (second : b.accepts s = true) : a = b := by
  cases a with
  | url => exact (url_unique first second).symm
  | timestamp =>
    cases b with
    | url => exact url_unique second first
    | timestamp => rfl
    | dateOnly =>
      rw [timestamp_not_dateOnly first] at second
      cases second
  | dateOnly =>
    cases b with
    | url => exact url_unique second first
    | timestamp =>
      rw [timestamp_not_dateOnly second] at first
      cases first
    | dateOnly => rfl

/-- Where one recognizer accepts the text, its place among the others does not matter. -/
theorem find?_eq_some {order : List Recognizer} (member : a ∈ order)
    (accepted : a.accepts s = true) : order.find? (·.accepts s) = some a := by
  cases found : order.find? (·.accepts s) with
  | none => exact absurd accepted (List.find?_eq_none.1 found a member)
  | some other =>
    have found : other.accepts s = true := List.find?_some (p := fun x : Recognizer => x.accepts s) found
    rw [accepts_unique found accepted]

theorem promote_perm {order other : List Recognizer} (perm : order.Perm other) :
    promote order s = promote other s := by
  unfold promote
  cases found : other.find? (·.accepts s) with
  | none =>
    have none : order.find? (·.accepts s) = none :=
      List.find?_eq_none.2 fun a member => List.find?_eq_none.1 found a (perm.mem_iff.1 member)
    rw [none]
  | some a =>
    have accepted : a.accepts s = true := List.find?_some (p := fun x : Recognizer => x.accepts s) found
    rw [find?_eq_some (perm.mem_iff.2 (List.mem_of_find?_eq_some found)) accepted]

theorem promote_all (s : String) : promote all s = promoted s := by
  unfold promote promoted dateFormat?
  simp only [all, List.find?_cons, List.find?_nil, accepts, isTimestamp, isDateOnly]
  cases isUrl s with
  | true => rfl
  | false =>
    cases Literal.timestamp.accepts s.toList with
    | true => rfl
    | false => cases Literal.dateOnly.accepts s.toList <;> rfl

end Recognizer

end Literal

open Literal (Recognizer)

/-- No text is accepted by two recognizers, so that it becomes the same leaf in whatever order they
are tried. -/
theorem Refinement.recognizers_exclusive (r : Refinement) (name s : String) :
    (∀ a b : Recognizer, a.accepts s = true → b.accepts s = true → a = b) ∧
      ∀ order : List Recognizer, order.Perm Recognizer.all →
        (Shape.text s).refine r name = .ok (Recognizer.promote order s) := by
  refine ⟨fun a b => Recognizer.accepts_unique, fun order perm => ?_⟩
  rw [refine_text, Recognizer.promote_perm perm, Recognizer.promote_all]

/-- Looking for dates first does not take the date out of a timestamp. -/
theorem Refinement.recognizers_exclusive_moment :
    [Recognizer.dateOnly, .timestamp, .url].Perm Recognizer.all ∧
      Recognizer.accepts .timestamp "2017-04-03T10:01:22.123456+05:30" = true ∧
      (Shape.text "2017-04-03T10:01:22.123456+05:30").refine {} "seen" =
        .ok (Recognizer.promote [.dateOnly, .timestamp, .url] "2017-04-03T10:01:22.123456+05:30") :=
  have reversed : [Recognizer.dateOnly, .timestamp, .url].Perm Recognizer.all := by decide
  ⟨reversed, by decide, (recognizers_exclusive {} "seen" _).2 _ reversed⟩

end ShapeInference
