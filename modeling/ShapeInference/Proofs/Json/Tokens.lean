import ShapeInference.Json.Reader
import ShapeInference.Proofs.Outcome

/-! Tokens, and the text behind them.

A reader stops where its token ends, so it reads the same token if more text stands behind what it
leaves. A number goes on as long as it can, so behind a number that ends with its text this must not
start with a character of numbers. Behind anything else it may be any text.
-/

set_option autoImplicit false

namespace ShapeInference.Json

/-- The second outcome is the first one with `tail` behind the text that is left. Nothing is said of
the second one if the first one is a fault. -/
inductive Followed (tail : List Char) {α : Type} : Readout α → Readout α → Prop where
  | ok (value : α) (rest : List Char) :
    Followed tail (.ok (value, rest)) (.ok (value, rest ++ tail))
  | error (fault : Fault) (y : Readout α) : Followed tail (.error fault) y

namespace Followed

variable {α β : Type} {tail : List Char} {x y : Readout α}

theorem of_ok (h : Followed tail x y) {value : α} {rest : List Char}
    (ok : x = .ok (value, rest)) : y = .ok (value, rest ++ tail) := by
  cases h with
  | ok => cases ok; rfl
  | error => cases ok

theorem map (f : α → β) (h : Followed tail x y) :
    Followed tail (x.map fun read => (f read.1, read.2))
      (y.map fun read => (f read.1, read.2)) := by
  cases h with
  | ok value rest => exact .ok (f value) rest
  | error fault y => exact .error fault _

theorem bind {f g : α × List Char → Readout β} (h : Followed tail x y)
    (step : ∀ value rest, x = .ok (value, rest) →
      Followed tail (f (value, rest)) (g (value, rest ++ tail))) :
    Followed tail (x.bind f) (y.bind g) := by
  cases h with
  | ok value rest => exact step value rest rfl
  | error fault y => exact .error fault _

theorem ite {c : Prop} [Decidable c] {x' y' : Readout α} (yes : Followed tail x y)
    (no : Followed tail x' y') :
    Followed tail (if c then x else x') (if c then y else y') := by
  split
  · exact yes
  · exact no

end Followed

/-! Runs of characters. -/

section
variable {p : Char → Bool} {text tail : List Char}

def StopsAt (p : Char → Bool) (tail : List Char) : Prop := ∀ c ∈ tail.head?, p c = false

theorem stopsAt_or (p : Char → Bool) (text : List Char) :
    StopsAt p text ∨ ∃ c rest, text = c :: rest ∧ p c = true := by
  cases text with
  | nil => exact .inl fun c first => nomatch first
  | cons c rest =>
    cases holds : p c with
    | true => exact .inr ⟨c, rest, rfl, holds⟩
    | false =>
      refine .inl fun d first => ?_
      cases first
      exact holds

theorem StopsAt.append (before : StopsAt p text) (stops : text = [] → StopsAt p tail) :
    StopsAt p (text ++ tail) := by
  cases text with
  | nil => exact stops rfl
  | cons c rest => exact before

theorem StopsAt.dropWhile_eq (stops : StopsAt p tail) : tail.dropWhile p = tail := by
  cases tail with
  | nil => rfl
  | cons c rest => simp [stops c rfl]

theorem dropWhile_followed (stops : text.dropWhile p = [] → StopsAt p tail) :
    (text ++ tail).dropWhile p = text.dropWhile p ++ tail := by
  rw [List.dropWhile_append]
  split
  · next nothing =>
    rw [List.isEmpty_iff] at nothing
    rw [nothing, (stops nothing).dropWhile_eq, List.nil_append]
  · rfl

theorem takeWhile_followed (stops : text.dropWhile p = [] → StopsAt p tail) :
    (text ++ tail).takeWhile p = text.takeWhile p := by
  -- What is taken is what is not dropped.
  have whole := List.takeWhile_append_dropWhile (p := p) (l := text ++ tail)
  rw [dropWhile_followed stops, ← List.append_assoc, List.append_cancel_right_eq] at whole
  exact List.append_cancel_right (whole.trans List.takeWhile_append_dropWhile.symm)

theorem dropWhile_cons_followed {text rest : List Char} {c : Char}
    (found : text.dropWhile p = c :: rest) : (text ++ tail).dropWhile p = c :: (rest ++ tail) := by
  rw [List.dropWhile_append, found]
  rfl

theorem nil_of_suffix {rest : List Char} (part : rest <:+ text) (nothing : text = []) :
    rest = [] :=
  List.suffix_nil.1 (nothing ▸ part)

end

/-! Numbers. -/

def isExponentMark (c : Char) : Bool := c = 'e' || c = 'E'

def isFractionMark (c : Char) : Bool := c = '.' || isExponentMark c

def continuesNumber (c : Char) : Bool := c.isDigit || isFractionMark c

section
variable {tail : List Char} {negative : Bool} {significand dropped : Nat}

theorem StopsAt.imp {p q : Char → Bool} {text : List Char} (stops : StopsAt p text)
    (weaker : ∀ c, q c = true → p c = true) : StopsAt q text := by
  intro c first
  have none := stops c first
  cases holds : q c with
  | true => exact absurd (weaker c holds) (by simp [none])
  | false => rfl

theorem StopsAt.digits (stops : StopsAt continuesNumber tail) : StopsAt Char.isDigit tail :=
  stops.imp fun c digit => by simp [continuesNumber, digit]

theorem StopsAt.fraction (stops : StopsAt continuesNumber tail) : StopsAt isFractionMark tail :=
  stops.imp fun c mark => by simp [continuesNumber, mark]

theorem StopsAt.exponent (stops : StopsAt continuesNumber tail) : StopsAt isExponentMark tail :=
  stops.fraction.imp fun c mark => by simp [isFractionMark, mark]

/-- As `Followed`, but only if no number that ends with the text goes on with `tail`. -/
def Continued (tail : List Char) {α : Type} (x y : Readout α) : Prop :=
  ∀ value rest, x = .ok (value, rest) → (rest = [] → StopsAt continuesNumber tail) →
    y = .ok (value, rest ++ tail)

theorem double_followed (exponent : Int) (text : List Char) :
    Followed tail (double negative significand exponent text)
      (double negative significand exponent (text ++ tail)) := by
  unfold double
  split
  · exact .ok _ text
  · exact .error _ _

theorem exponentDigits_followed {exponent : Nat} {text : List Char}
    (stops : (exponentDigits exponent text).2 = [] → StopsAt Char.isDigit tail) :
    exponentDigits exponent (text ++ tail) =
      ((exponentDigits exponent text).1, (exponentDigits exponent text).2 ++ tail) := by
  induction text generalizing exponent with
  | nil =>
    cases tail with
    | nil => rfl
    | cons c rest => simp [exponentDigits, stops rfl c rfl]
  | cons c rest ih =>
    rw [exponentDigits] at stops
    rw [List.cons_append, exponentDigits, exponentDigits]
    split
    · next digit =>
      rw [if_pos digit] at stops
      dsimp only at stops ⊢
      split
      · rfl
      · next small =>
        rw [if_neg small] at stops
        exact ih stops
    · rfl

theorem signedExponent_followed (start : Int) (down : Bool) (text : List Char) :
    Continued tail (signedExponent negative significand start down text)
      (signedExponent negative significand start down (text ++ tail)) := by
  intro value rest ok stops
  cases text with
  | nil => cases ok
  | cons c more =>
    rw [signedExponent] at ok
    rw [List.cons_append, signedExponent]
    split at ok
    · next digit =>
      rw [if_pos digit]
      dsimp only at ok
      split at ok
      · next small =>
        cases double_rest ok
        rw [exponentDigits_followed fun nothing => (stops nothing).digits]
        dsimp only
        rw [if_pos small]
        exact (double_followed _ _).of_ok ok
      · next large =>
        split at ok
        · next zero =>
          cases ok
          rw [exponentDigits_followed fun nothing => (stops (by rw [nothing]; rfl)).digits]
          dsimp only
          rw [if_neg large, if_pos zero,
            dropWhile_followed fun nothing => (stops nothing).digits]
        · cases ok
    · cases ok

theorem readExponent_followed (start : Int) (text : List Char) :
    Continued tail (readExponent negative significand start text)
      (readExponent negative significand start (text ++ tail)) := by
  unfold readExponent
  split
  · exact signedExponent_followed start false _
  · exact signedExponent_followed start true _
  · next noPlus noMinus =>
    cases text with
    | nil =>
      intro value rest ok
      cases ok
    | cons c rest =>
      split
      · next same => cases same; exact absurd rfl (noPlus rest)
      · next same => cases same; exact absurd rfl (noMinus rest)
      · exact signedExponent_followed start false (c :: rest)

def readScale (negative : Bool) (significand : Nat) (exponent : Int) (text : List Char) :
    Readout Number :=
  match text with
  | 'e' :: rest => readExponent negative significand exponent rest
  | 'E' :: rest => readExponent negative significand exponent rest
  | _ => double negative significand exponent text

theorem readScale_end {text : List Char} (ends : StopsAt isExponentMark text) (exponent : Int) :
    readScale negative significand exponent text = double negative significand exponent text := by
  unfold readScale
  split
  · exact absurd (ends 'e' rfl) (by decide)
  · exact absurd (ends 'E' rfl) (by decide)
  · rfl

theorem readScale_mark {text : List Char} {c : Char} (mark : isExponentMark c = true)
    (exponent : Int) : readScale negative significand exponent (c :: text) =
      readExponent negative significand exponent text := by
  simp only [isExponentMark, Bool.or_eq_true, decide_eq_true_eq] at mark
  rcases mark with rfl | rfl <;> rfl

theorem readScale_rest_suffix {exponent : Int} {text rest : List Char} {value : Number}
    (ok : readScale negative significand exponent text = .ok (value, rest)) : rest <:+ text := by
  rcases stopsAt_or isExponentMark text with ends | ⟨c, more, rfl, mark⟩
  · rw [readScale_end ends] at ok
    exact double_rest ok ▸ List.suffix_refl _
  · rw [readScale_mark mark] at ok
    exact (readExponent_rest_suffix ok).trans (List.suffix_cons _ _)

theorem readScale_followed (exponent : Int) (text : List Char) :
    Continued tail (readScale negative significand exponent text)
      (readScale negative significand exponent (text ++ tail)) := by
  intro value rest ok stops
  have nothing := nil_of_suffix (readScale_rest_suffix ok)
  rcases stopsAt_or isExponentMark text with ends | ⟨c, more, rfl, mark⟩
  · rw [readScale_end (ends.append fun empty => (stops (nothing empty)).exponent)]
    rw [readScale_end ends] at ok
    exact (double_followed exponent text).of_ok ok
  · rw [List.cons_append, readScale_mark mark]
    rw [readScale_mark mark] at ok
    exact readExponent_followed exponent more value rest ok stops

theorem readFraction_point (rest : List Char) :
    readFraction negative significand dropped ('.' :: rest) =
      if (rest.takeWhile Char.isDigit).isEmpty then
        .error {
          cause := if rest.isEmpty then .endInValue else .invalidNumber
          left := utf8Size rest - 1 }
      else
        readScale negative (addDigits significand (rest.takeWhile Char.isDigit)).significand
          (dropped - (addDigits significand (rest.takeWhile Char.isDigit)).added)
          (rest.dropWhile Char.isDigit) :=
  rfl

theorem readFraction_end {text : List Char} (ends : StopsAt isFractionMark text) :
    readFraction negative significand dropped text =
      if dropped ≠ 0 then double negative significand dropped text
      else if !negative then .ok (.integer significand, text)
      else if 0 < significand ∧ significand ≤ 0x8000000000000000 then
        .ok (.integer (-significand), text)
      else double true significand 0 text := by
  unfold readFraction
  split
  · exact absurd (ends '.' rfl) (by decide)
  · exact absurd (ends 'e' rfl) (by decide)
  · exact absurd (ends 'E' rfl) (by decide)
  · rfl

theorem readFraction_end_followed (text : List Char) :
    Followed tail
      (if dropped ≠ 0 then double negative significand dropped text
        else if !negative then .ok (.integer significand, text)
        else if 0 < significand ∧ significand ≤ 0x8000000000000000 then
          .ok (.integer (-significand), text)
        else double true significand 0 text)
      (if dropped ≠ 0 then double negative significand dropped (text ++ tail)
        else if !negative then .ok (.integer significand, text ++ tail)
        else if 0 < significand ∧ significand ≤ 0x8000000000000000 then
          .ok (.integer (-significand), text ++ tail)
        else double true significand 0 (text ++ tail)) := by
  apply Followed.ite
  · exact double_followed _ _
  apply Followed.ite
  · exact .ok _ _
  apply Followed.ite
  · exact .ok _ _
  · exact double_followed _ _

theorem readFraction_followed (text : List Char) :
    Continued tail (readFraction negative significand dropped text)
      (readFraction negative significand dropped (text ++ tail)) := by
  intro value rest ok stops
  have nothing := nil_of_suffix (readFraction_rest_suffix ok)
  rcases stopsAt_or isFractionMark text with ends | ⟨c, more, rfl, mark⟩
  · rw [readFraction_end (ends.append fun empty => (stops (nothing empty)).fraction)]
    rw [readFraction_end ends] at ok
    exact (readFraction_end_followed text).of_ok ok
  · simp only [isFractionMark, isExponentMark, Bool.or_eq_true, decide_eq_true_eq] at mark
    rcases mark with rfl | rfl | rfl
    · rw [readFraction_point] at ok
      split at ok
      · cases ok
      · next digits =>
        have ends (empty : more.dropWhile Char.isDigit = []) : StopsAt Char.isDigit tail :=
          (stops (nil_of_suffix (readScale_rest_suffix ok) empty)).digits
        rw [List.cons_append, readFraction_point, takeWhile_followed ends, if_neg digits,
          dropWhile_followed ends]
        exact readScale_followed _ _ value rest ok stops
    · exact readExponent_followed dropped more value rest ok stops
    · exact readExponent_followed dropped more value rest ok stops

theorem readNumber_followed (text : List Char) :
    Continued tail (readNumber negative text) (readNumber negative (text ++ tail)) := by
  intro value rest ok stops
  cases text with
  | nil => cases ok
  | cons c more =>
    rw [readNumber] at ok
    rw [List.cons_append, readNumber]
    split
    · next zero =>
      rw [if_pos zero] at ok
      split at ok
      · cases ok
      · next single =>
        have single' : ¬ (more ++ tail).head?.any Char.isDigit = true := by
          cases more with
          | nil =>
            have empty := nil_of_suffix (readFraction_rest_suffix ok) rfl
            cases tail with
            | nil => simp
            | cons d after => simp [(stops empty).digits d rfl]
          | cons => exact single
        rw [if_neg single']
        exact readFraction_followed more value rest ok stops
    · next nonzero =>
      rw [if_neg nonzero] at ok
      split at ok
      · next digit =>
        have ends (empty : more.dropWhile Char.isDigit = []) : StopsAt Char.isDigit tail :=
          (stops (nil_of_suffix (readFraction_rest_suffix ok) empty)).digits
        rw [if_pos digit, takeWhile_followed ends, dropWhile_followed ends]
        exact readFraction_followed _ value rest ok stops
      · cases ok

end

/-! Strings. -/

section
variable {tail : List Char}

theorem utf8Size_append (text tail : List Char) :
    utf8Size (text ++ tail) = utf8Size text + utf8Size tail := by
  induction text with
  | nil => simp [utf8Size]
  | cons c rest ih =>
    simp only [utf8Size, List.cons_append, List.foldr_cons] at ih ⊢
    omega

theorem utf8Size_of_hexValue {c : Char} {unit : Nat} (hex : hexValue? c = some unit) :
    c.utf8Size = 1 := by
  rw [Char.utf8Size_eq_one_iff]
  unfold hexValue? at hex
  split at hex
  · next digit => exact UInt32.le_trans digit.2 (by decide)
  · split at hex
    · next small => exact UInt32.le_trans small.2 (by decide)
    · split at hex
      · next large => exact UInt32.le_trans large.2 (by decide)
      · cases hex

theorem utf8Size_of_hexValues {digits : List Char} {units : List Nat}
    (hex : digits.mapM hexValue? = some units) : utf8Size digits = digits.length := by
  induction digits generalizing units with
  | nil => rfl
  | cons c rest ih =>
    rw [List.mapM_cons] at hex
    cases first : hexValue? c with
    | none => simp [first] at hex
    | some unit =>
      cases later : rest.mapM hexValue? with
      | none => simp [first, later] at hex
      | some others =>
        have single := utf8Size_of_hexValue first
        have same := ih later
        simp only [utf8Size, List.foldr_cons, List.length_cons] at same ⊢
        omega

theorem readUnit_followed (text : List Char) :
    Followed tail (readUnit text) (readUnit (text ++ tail)) := by
  unfold readUnit
  split
  · exact .error _ _
  · next enough =>
    split
    · next units hex =>
      -- Four bytes are there, and as hexadecimal digits have one byte each, so are four digits.
      have length : 4 ≤ text.length := by
        by_cases few : text.length < 4
        · rw [List.take_of_length_le (by omega)] at hex
          have := utf8Size_of_hexValues hex
          omega
        · omega
      rw [utf8Size_append, if_neg (by omega), List.take_append_of_le_length length, hex,
        List.drop_append_of_le_length length]
      exact .ok _ _
    · exact .error _ _

theorem readLowSurrogate_unit (high : Nat) (text : List Char) :
    readLowSurrogate high ('\\' :: 'u' :: text) = (readUnit text).bind fun read =>
      if isLowSurrogate read.1 then
        .ok (.ofNat ((high - 0xD800) * 0x400 + (read.1 - 0xDC00) + 0x10000), read.2)
      else .error { cause := .loneSurrogate, left := utf8Size read.2 } := by
  rw [readLowSurrogate]
  cases readUnit text <;> rfl

theorem readLowSurrogate_followed (high : Nat) (text : List Char) :
    Followed tail (readLowSurrogate high text) (readLowSurrogate high (text ++ tail)) := by
  rw [readLowSurrogate.eq_def high text]
  split
  case h_3 rest =>
    show Followed tail (readLowSurrogate high ('\\' :: 'u' :: rest))
      (readLowSurrogate high ('\\' :: 'u' :: (rest ++ tail)))
    rw [readLowSurrogate_unit, readLowSurrogate_unit]
    refine (readUnit_followed rest).bind fun unit rest _ => ?_
    dsimp only
    split
    · exact .ok _ _
    · exact .error _ _
  all_goals exact .error _ _

theorem readCodeEscape_eq (text : List Char) :
    readCodeEscape text = (readUnit text).bind fun read =>
      if isLowSurrogate read.1 then
        .error { cause := .loneSurrogate, left := utf8Size read.2 }
      else if isHighSurrogate read.1 then readLowSurrogate read.1 read.2
      else .ok (.ofNat read.1, read.2) := by
  rw [readCodeEscape]
  cases readUnit text <;> rfl

theorem readCodeEscape_followed (text : List Char) :
    Followed tail (readCodeEscape text) (readCodeEscape (text ++ tail)) := by
  rw [readCodeEscape_eq, readCodeEscape_eq]
  refine (readUnit_followed text).bind fun unit rest _ => ?_
  dsimp only
  split
  · exact .error _ _
  · split
    · exact readLowSurrogate_followed unit rest
    · exact .ok _ _

theorem readEscape_followed (text : List Char) :
    Followed tail (readEscape text) (readEscape (text ++ tail)) := by
  rw [readEscape.eq_def text]
  split
  case h_10 rest => exact readCodeEscape_followed rest
  case h_1 | h_11 => exact .error _ _
  all_goals exact .ok _ _

theorem readString_cons (c : Char) (rest : List Char) :
    readString (c :: rest) =
      if c = '"' then .ok ([], rest)
      else if c = '\\' then
        (readEscape rest).bind fun read =>
          (readString read.2).map fun more => (read.1 :: more.1, more.2)
      else if c.toNat < 0x20 then .error { cause := .controlCharacter, left := utf8Size rest }
      else (readString rest).map fun more => (c :: more.1, more.2) := by
  rw [readString]
  split
  · rfl
  · split
    · split
      · next escape => rw [escape]; rfl
      · next escape =>
        rw [escape, Except.bind]
        cases readString _ <;> rfl
    · split
      · rfl
      · cases readString rest <;> rfl

theorem readString_followed (text : List Char) :
    Followed tail (readString text) (readString (text ++ tail)) := by
  cases text with
  | nil =>
    rw [readString]
    exact .error _ _
  | cons c rest =>
    rw [List.cons_append, readString_cons, readString_cons]
    split
    · exact .ok _ _
    · split
      · refine (readEscape_followed rest).bind fun d left escape => ?_
        have shorter := (readEscape_rest_suffix escape).length_le
        exact (readString_followed left).map (d :: ·)
      · split
        · exact .error _ _
        · exact (readString_followed rest).map (c :: ·)
termination_by text.length
decreasing_by all_goals simp only [List.length_cons]; omega

end

/-! Names and punctuation. -/

section
variable {tail text rest : List Char}

theorem readName_followed {α : Type} (value : α) {name : List Char} (text : List Char) :
    Followed tail ((readName name text).map fun rest => (value, rest))
      ((readName name (text ++ tail)).map fun rest => (value, rest)) := by
  fun_induction readName name text with
  | case1 text => exact .ok value text
  | case2 => exact .error _ _
  | case3 name c text ih =>
    rw [List.cons_append, readName, if_pos rfl]
    exact ih
  | case4 => exact .error _ _

theorem skipBlanks_followed {c : Char} (found : skipBlanks text = c :: rest) :
    skipBlanks (text ++ tail) = c :: (rest ++ tail) :=
  dropWhile_cons_followed found

theorem nextElement_cons {c : Char} (first : Bool) (found : skipBlanks text = c :: rest) :
    nextElement first text =
      if c = ']' then .ok (false, rest)
      else if first then .ok (true, c :: rest)
      else if c = ',' then
        match skipBlanks rest with
        | [] => .error { cause := .endInValue, left := 0 }
        | d :: after =>
          if d = ']' then .error { cause := .trailingComma, left := utf8Size (d :: after) - 1 }
          else .ok (true, d :: after)
      else .error { cause := .expectedListCommaOrEnd, left := utf8Size (c :: rest) - 1 } := by
  rw [nextElement, found]
  split
  · next same => cases same
  · next same => cases same; rfl
  · next more same =>
    cases same
    rw [if_neg more]
    split
    · rfl
    · split
      · cases skipBlanks rest with
        | nil => rfl
        | cons d after =>
          split
          · next same => cases same
          · next same => cases same; rfl
          · next more =>
            have other : d ≠ ']' := fun same => more after (same ▸ rfl)
            exact (if_neg other).symm
      · rfl

theorem nextElement_followed {first : Bool} (text : List Char) :
    Followed tail (nextElement first text) (nextElement first (text ++ tail)) := by
  cases found : skipBlanks text with
  | nil =>
    rw [nextElement, found]
    exact .error _ _
  | cons c rest =>
    rw [nextElement_cons first found, nextElement_cons first (skipBlanks_followed found)]
    split
    · exact .ok _ _
    · split
      · exact .ok _ _
      · split
        · cases behind : skipBlanks rest with
          | nil => exact .error _ _
          | cons d after =>
            rw [skipBlanks_followed behind]
            dsimp only
            split
            · exact .error _ _
            · exact .ok _ _
        · exact .error _ _

theorem readColon_followed (ok : readColon text = .ok rest) :
    readColon (text ++ tail) = .ok (rest ++ tail) := by
  unfold readColon at ok
  split at ok
  · cases ok
  · next found =>
    cases ok
    rw [readColon, skipBlanks_followed found]
    rfl
  · cases ok

theorem readKey_followed (text : List Char) :
    Followed tail (readKey text) (readKey (text ++ tail)) := by
  rw [readKey.eq_def text]
  split
  · next rest =>
    rw [List.cons_append, readKey]
    split
    · exact .error _ _
    · next key left read =>
      rw [(readString_followed rest).of_ok read]
      cases colon : readColon left with
      | error fault => exact .error _ _
      | ok after =>
        simp only [readColon_followed colon]
        exact .ok _ _
  · exact .error _ _

theorem nextMember_cons {c : Char} (first : Bool) (found : skipBlanks text = c :: rest) :
    nextMember first text =
      if c = '}' then .ok (none, rest)
      else if first then (readKey (c :: rest)).map fun read => (some read.1, read.2)
      else if c = ',' then
        match skipBlanks rest with
        | [] => .error (.under .unnamed { cause := .endInValue, left := 0 })
        | d :: after =>
          if d = '}' then
            .error (.under .unnamed { cause := .trailingComma, left := utf8Size (d :: after) - 1 })
          else (readKey (d :: after)).map fun read => (some read.1, read.2)
      else
        .error (.under .unnamed
          { cause := .expectedObjectCommaOrEnd, left := utf8Size (c :: rest) - 1 }) := by
  rw [nextMember, found]
  split
  · next same => cases same
  · next same => cases same; rfl
  · next more same =>
    cases same
    rw [if_neg more]
    split
    · rfl
    · split
      · cases skipBlanks rest with
        | nil => rfl
        | cons d after =>
          split
          · next same => cases same
          · next same => cases same; rfl
          · next more =>
            have other : d ≠ '}' := fun same => more after (same ▸ rfl)
            exact (if_neg other).symm
      · rfl

theorem nextMember_followed {first : Bool} (text : List Char) :
    Followed tail (nextMember first text) (nextMember first (text ++ tail)) := by
  cases found : skipBlanks text with
  | nil =>
    rw [nextMember, found]
    exact .error _ _
  | cons c rest =>
    rw [nextMember_cons first found, nextMember_cons first (skipBlanks_followed found)]
    split
    · exact .ok _ _
    · split
      · exact (readKey_followed (c :: rest)).map some
      · split
        · cases behind : skipBlanks rest with
          | nil => exact .error _ _
          | cons d after =>
            rw [skipBlanks_followed behind]
            dsimp only
            split
            · exact .error _ _
            · exact (readKey_followed (d :: after)).map some
        · exact .error _ _

end

end ShapeInference.Json
