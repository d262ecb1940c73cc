import ShapeInference.Proofs.Json.Values

/-! How far readers go.

A reader that succeeds stops behind a visible character of ASCII, and one that fails names a place
inside of its text. Every reader has one lemma that tells both.
-/

set_option autoImplicit false

namespace ShapeInference

theorem Yields.mapError {ε ε' α : Type} {E : ε → Prop} {E' : ε' → Prop} {Q : α → Prop}
    {x : Except ε α} {f : ε → ε'} (h : Yields E Q x) (step : ∀ e, E e → E' (f e)) :
    Yields E' Q (x.mapError f) := by
  cases x with
  | error e => exact step e h
  | ok a => exact h

namespace Json

def isVisible (c : Char) : Bool := 0x20 < c.toNat && c.toNat < 0x7F

section
variable {text middle rest : List Char} {c : Char}

theorem isVisible_of_isDigit (digit : c.isDigit = true) : isVisible c = true := by
  simp only [Char.isDigit, Bool.and_eq_true, decide_eq_true_eq] at digit
  have low : 48 ≤ c.toNat := digit.1
  have high : c.toNat ≤ 57 := digit.2
  simp only [isVisible, Bool.and_eq_true, decide_eq_true_eq]
  omega

theorem utf8Size_le_of_suffix (part : rest <:+ text) : utf8Size rest ≤ utf8Size text := by
  obtain ⟨front, rfl⟩ := part
  rw [utf8Size_append]
  exact Nat.le_add_left _ _

/-- `rest` stands in `text` behind a visible character. -/
def Follows (text rest : List Char) : Prop := ∃ c, isVisible c = true ∧ c :: rest <:+ text

namespace Follows

theorem of_cons (visible : isVisible c = true) (part : c :: rest <:+ text) : Follows text rest :=
  ⟨c, visible, part⟩

theorem suffix (h : Follows text rest) : rest <:+ text := by
  obtain ⟨c, _, part⟩ := h
  exact (List.suffix_cons c rest).trans part

theorem of_suffix (h : Follows middle rest) (part : middle <:+ text) : Follows text rest := by
  obtain ⟨c, visible, inside⟩ := h
  exact ⟨c, visible, inside.trans part⟩

theorem length_lt (h : Follows text rest) : rest.length < text.length := by
  obtain ⟨c, _, part⟩ := h
  exact part.length_le

theorem dropDigits (h : Follows text rest) : Follows text (rest.dropWhile Char.isDigit) := by
  induction rest with
  | nil => exact h
  | cons c more ih =>
    rw [List.dropWhile_cons]
    split
    · next digit => exact ih (.of_cons (isVisible_of_isDigit digit) h.suffix)
    · exact h

end Follows

def InText (text : List Char) (fault : Fault) : Prop := fault.left ≤ utf8Size text

theorem inText_zero (text : List Char) (cause : Cause) :
    InText text { cause, left := 0 } := Nat.zero_le _

theorem InText.of_suffix {fault : Fault} (h : InText middle fault) (part : middle <:+ text) :
    InText text fault :=
  Nat.le_trans h (utf8Size_le_of_suffix part)

theorem inText_sub (part : rest <:+ text) (cause : Cause) (count : Nat) :
    InText text { cause, left := utf8Size rest - count } :=
  Nat.le_trans (Nat.sub_le _ _) (utf8Size_le_of_suffix part)

theorem InText.under {fault : Fault} (h : InText text fault) (segment : Segment) :
    InText text (fault.under segment) := h

/-- A reader of `text` stops behind a visible character or finds a fault in the text. -/
def Reads {α : Type} (text : List Char) (x : Readout α) : Prop :=
  Yields (InText text) (fun read => Follows text read.2) x

/-- As `Reads`, for a reader that may leave all of the text. -/
def Passes {α : Type} (text : List Char) (x : Readout α) : Prop :=
  Yields (InText text) (fun read => read.2 <:+ text) x

namespace Reads

variable {α β : Type} {x y : Readout α}

theorem ok (value : α) (h : Follows text rest) : Reads text (.ok (value, rest)) := h

theorem of_suffix (h : Reads middle x) (part : middle <:+ text) : Reads text x := by
  cases x with
  | error fault => exact InText.of_suffix h part
  | ok read => exact Follows.of_suffix h part

theorem map (h : Reads text x) (f : α → β) :
    Reads text (x.map fun read => (f read.1, read.2)) :=
  Yields.map h fun _ follows => follows

theorem under (h : Reads text x) (segment : Segment) :
    Reads text (x.mapError (.under segment)) :=
  Yields.mapError h fun _ inside => inside.under segment

theorem passes (h : Reads text x) : Passes text x :=
  Yields.imp h fun _ follows => follows.suffix

theorem ite {p : Prop} [Decidable p] (yes : Reads text x) (no : Reads text y) :
    Reads text (if p then x else y) := by
  split
  · exact yes
  · exact no

end Reads

theorem Passes.bind {α β : Type} {x : Readout α} {f : α × List Char → Readout β}
    (h : Passes text x)
    (step : ∀ value rest, x = .ok (value, rest) → rest <:+ text → Reads rest (f (value, rest))) :
    Reads text (x.bind f) :=
  Yields.bind h fun read found part => (step read.1 read.2 found part).of_suffix part

end

/-! Numbers. A reader that goes on with a number is given the text behind a part of the number. -/

section
variable {text rest : List Char} {negative : Bool} {significand dropped : Nat}

theorem double_reads (exponent : Int) (h : Follows text rest) :
    Reads text (double negative significand exponent rest) := by
  unfold double
  split
  · exact .ok _ h
  · exact inText_sub h.suffix .numberOutOfRange 0

theorem exponentDigits_follows (exponent : Nat) (h : Follows text rest) :
    Follows text (exponentDigits exponent rest).2 := by
  induction rest generalizing exponent with
  | nil => exact h
  | cons c more ih =>
    rw [exponentDigits]
    split
    · next digit =>
      have behind : Follows text more := .of_cons (isVisible_of_isDigit digit) h.suffix
      dsimp only
      split
      · exact behind
      · exact ih _ behind
    · exact h

theorem signedExponent_reads (start : Int) (down : Bool) (text : List Char) :
    Reads text (signedExponent negative significand start down text) := by
  cases text with
  | nil => exact inText_zero _ _
  | cons c rest =>
    rw [signedExponent]
    split
    · next digit =>
      have behind : Follows (c :: rest) (exponentDigits (digitValue c) rest).2 :=
        exponentDigits_follows _ (.of_cons (isVisible_of_isDigit digit) (List.suffix_refl _))
      dsimp only
      apply Reads.ite
      · exact double_reads _ behind
      apply Reads.ite
      · exact .ok _ behind.dropDigits
      · exact inText_sub behind.suffix .numberOutOfRange 0
    · exact inText_sub (List.suffix_refl _) .invalidNumber 1

theorem readExponent_reads (start : Int) (text : List Char) :
    Reads text (readExponent negative significand start text) := by
  unfold readExponent
  split
  · exact (signedExponent_reads start false _).of_suffix (List.suffix_cons _ _)
  · exact (signedExponent_reads start true _).of_suffix (List.suffix_cons _ _)
  · exact signedExponent_reads start false text

theorem readScale_reads (exponent : Int) (h : Follows text rest) :
    Reads text (readScale negative significand exponent rest) := by
  rcases stopsAt_or isExponentMark rest with ends | ⟨c, more, rfl, mark⟩
  · rw [readScale_end ends]
    exact double_reads exponent h
  · rw [readScale_mark mark]
    exact (readExponent_reads exponent more).of_suffix ((List.suffix_cons c more).trans h.suffix)

theorem readFraction_reads (h : Follows text rest) :
    Reads text (readFraction negative significand dropped rest) := by
  rcases stopsAt_or isFractionMark rest with ends | ⟨c, more, rfl, mark⟩
  · rw [readFraction_end ends]
    apply Reads.ite
    · exact double_reads _ h
    apply Reads.ite
    · exact .ok _ h
    apply Reads.ite
    · exact .ok _ h
    · exact double_reads _ h
  · have part := (List.suffix_cons c more).trans h.suffix
    simp only [isFractionMark, isExponentMark, Bool.or_eq_true, decide_eq_true_eq] at mark
    rcases mark with rfl | rfl | rfl
    · rw [readFraction_point]
      apply Reads.ite
      · exact inText_sub part _ 1
      · exact readScale_reads _ (Follows.of_cons (by decide) h.suffix).dropDigits
    · exact (readExponent_reads dropped more).of_suffix part
    · exact (readExponent_reads dropped more).of_suffix part

theorem readNumber_reads (text : List Char) : Reads text (readNumber negative text) := by
  cases text with
  | nil => exact inText_zero _ _
  | cons c rest =>
    rw [readNumber]
    split
    · next zero =>
      subst zero
      apply Reads.ite
      · exact inText_sub (List.suffix_cons _ _) .invalidNumber 1
      · exact readFraction_reads (.of_cons (by decide) (List.suffix_refl _))
    · split
      · next digit =>
        have behind : Follows (c :: rest) rest :=
          .of_cons (isVisible_of_isDigit digit) (List.suffix_refl _)
        exact readFraction_reads behind.dropDigits
      · exact inText_sub (List.suffix_refl _) .invalidNumber 1

end

/-! Strings. An escape may end in any character, and the string that it belongs to ends in a quote. -/

section

theorem readUnit_passes (text : List Char) : Passes text (readUnit text) := by
  unfold readUnit
  split
  · exact inText_zero _ _
  · split
    · exact List.drop_suffix 4 text
    · exact inText_sub (List.suffix_refl _) .invalidEscape 4

theorem readLowSurrogate_passes (high : Nat) (text : List Char) :
    Passes text (readLowSurrogate high text) := by
  rw [readLowSurrogate.eq_def]
  split
  case h_3 rest =>
    have part : rest <:+ '\\' :: 'u' :: rest := List.suffix_append ['\\', 'u'] rest
    have unit := readUnit_passes rest
    split
    · next failed => exact (unit.of_error failed).of_suffix part
    · next value left read =>
      have inside : left <:+ rest := unit.of_ok read
      split
      · exact inside.trans part
      · exact inText_sub (inside.trans part) .loneSurrogate 0
  case h_4 rest _ => exact inText_sub (List.suffix_cons _ _) .unpairedSurrogate 1
  case h_5 => exact inText_sub (List.suffix_refl _) .unpairedSurrogate 1
  all_goals exact inText_zero _ _

theorem readCodeEscape_passes (text : List Char) : Passes text (readCodeEscape text) := by
  rw [readCodeEscape_eq]
  refine Yields.bind (readUnit_passes text) fun read found part => ?_
  split
  · exact inText_sub part .loneSurrogate 0
  · split
    · have low := readLowSurrogate_passes read.1 read.2
      cases outcome : readLowSurrogate read.1 read.2 with
      | error fault => exact (low.of_error outcome).of_suffix part
      | ok last => exact (low.of_ok outcome).trans part
    · exact part

theorem readEscape_passes (text : List Char) : Passes text (readEscape text) := by
  cases outcome : readEscape text with
  | ok read => exact readEscape_rest_suffix outcome
  | error fault =>
    rw [readEscape.eq_def] at outcome
    split at outcome
    case h_1 => cases outcome; exact inText_zero _ _
    case h_10 rest =>
      exact ((readCodeEscape_passes rest).of_error outcome).of_suffix (List.suffix_cons _ _)
    case h_11 => cases outcome; exact inText_sub (List.suffix_refl _) .invalidEscape 1
    all_goals cases outcome

theorem readString_reads (text : List Char) : Reads text (readString text) := by
  cases text with
  | nil =>
    rw [readString]
    exact inText_zero _ _
  | cons c rest =>
    have part := List.suffix_cons c rest
    rw [readString_cons]
    split
    · next quote => exact .ok _ (.of_cons (by rw [quote]; decide) (List.suffix_refl _))
    · split
      · refine Reads.of_suffix ((readEscape_passes rest).bind fun d left escape inside => ?_) part
        have shorter := inside.length_le
        exact (readString_reads left).map (d :: ·)
      · split
        · exact inText_sub part .controlCharacter 0
        · exact ((readString_reads rest).map (c :: ·)).of_suffix part
termination_by text.length
decreasing_by all_goals simp only [List.length_cons]; omega

end

/-! Names and punctuation. -/

section
variable {text rest : List Char}

theorem suffix_of_skipBlanks (found : skipBlanks text = rest) : rest <:+ text :=
  found ▸ List.dropWhile_suffix _

theorem readName_reads {α : Type} (value : α) {name : List Char}
    (visible : name.all isVisible = true) (h : Follows text rest) :
    Reads text ((readName name rest).map fun rest => (value, rest)) := by
  fun_induction readName name rest with
  | case1 => exact .ok value h
  | case2 => exact inText_zero _ _
  | case3 name c rest ih =>
    rw [List.all_cons, Bool.and_eq_true] at visible
    exact ih visible.2 (.of_cons visible.1 h.suffix)
  | case4 => exact inText_sub h.suffix .expectedIdent 1

theorem nextElement_passes (first : Bool) (text : List Char) :
    Yields (InText text)
      (fun next => if next.1 then next.2 <:+ text else Follows text next.2)
      (nextElement first text) := by
  cases found : skipBlanks text with
  | nil =>
    rw [nextElement, found]
    exact inText_zero _ _
  | cons c rest =>
    have part := suffix_of_skipBlanks found
    have behind := (List.suffix_cons c rest).trans part
    rw [nextElement_cons first found]
    split
    · next bracket => exact Follows.of_cons (by rw [bracket]; decide) part
    · split
      · exact part
      · split
        · cases later : skipBlanks rest with
          | nil => exact inText_zero _ _
          | cons d after =>
            have inside := (suffix_of_skipBlanks later).trans behind
            dsimp only
            split
            · exact inText_sub inside .trailingComma 1
            · exact inside
        · exact inText_sub part .expectedListCommaOrEnd 1

theorem readColon_follows (text : List Char) :
    Yields (InText text) (Follows text) (readColon text) := by
  unfold readColon
  split
  · exact inText_zero _ _
  · next found => exact .of_cons (by decide) (suffix_of_skipBlanks found)
  · exact inText_sub (List.dropWhile_suffix _) .expectedColon 1

theorem readKey_reads (text : List Char) : Reads text (readKey text) := by
  rw [readKey.eq_def]
  split
  · next rest =>
    have part : rest <:+ '"' :: rest := List.suffix_cons _ _
    have string := readString_reads rest
    split
    · next failed => exact ((string.of_error failed).of_suffix part).under _
    · next key left read =>
      have inside : left <:+ '"' :: rest := (string.of_ok read).suffix.trans part
      have colon := readColon_follows left
      split
      · next failed => exact (colon.of_error failed).of_suffix inside
      · next found => exact (colon.of_ok found).of_suffix inside
  · exact (inText_sub (List.suffix_refl _) .keyNotString 1).under _

theorem nextMember_reads (first : Bool) (text : List Char) :
    Reads text (nextMember first text) := by
  cases found : skipBlanks text with
  | nil =>
    rw [nextMember, found]
    exact (inText_zero text .endInObject).under _
  | cons c rest =>
    have part := suffix_of_skipBlanks found
    have behind := (List.suffix_cons c rest).trans part
    rw [nextMember_cons first found]
    split
    · next brace => exact .ok _ (.of_cons (by rw [brace]; decide) part)
    · split
      · exact ((readKey_reads (c :: rest)).map some).of_suffix part
      · split
        · cases later : skipBlanks rest with
          | nil => exact (inText_zero text .endInValue).under _
          | cons d after =>
            have inside := (suffix_of_skipBlanks later).trans behind
            dsimp only
            split
            · exact (inText_sub inside .trailingComma 1).under _
            · exact ((readKey_reads (d :: after)).map some).of_suffix inside
        · exact (inText_sub part .expectedObjectCommaOrEnd 1).under _

end

/-! Values. -/

abbrev ReadsBelow (n : Nat) : Prop :=
  HoldBelow (fun depth text => Reads text ((readValue depth text).map Step.readout))
    (fun depth index text => Reads text ((readElements depth index text).map Step.readout))
    (fun depth first text => Reads text ((readMembers depth first text).map Step.readout)) n

section
variable {n : Nat}

theorem ReadsBelow.value_next (below : ReadsBelow n) (depth : Nat) {text : List Char}
    (short : text.length < n + 1) : Reads text ((readValue depth text).map Step.readout) := by
  cases found : skipBlanks text with
  | nil =>
    rw [readValue_nil found]
    exact inText_zero _ _
  | cons c rest =>
    have part := suffix_of_skipBlanks found
    have behind := (List.suffix_cons c rest).trans part
    have shorter : rest.length < n := by
      have bound := part.length_le
      rw [List.length_cons] at bound
      omega
    have name (value : Json) (spelling : List Char)
        (visible : spelling.all isVisible = true) (start : isVisible c = true) :
        Reads text ((readName spelling rest).map fun rest => (value, rest)) :=
      readName_reads value visible (.of_cons start part)
    have fail (cause : Cause) : Reads (α := Json) text
        (.error { cause, left := utf8Size (c :: rest) - 1 }) := inText_sub part cause 1
    rw [readValue_cons found]
    split
    · next letter => exact name .null _ (by decide) (by rw [letter]; decide)
    split
    · next letter => exact name (.bool true) _ (by decide) (by rw [letter]; decide)
    split
    · next letter => exact name (.bool false) _ (by decide) (by rw [letter]; decide)
    apply Reads.ite
    · exact ((readNumber_reads rest).map Json.number).of_suffix behind
    apply Reads.ite
    · exact ((readNumber_reads (c :: rest)).map Json.number).of_suffix part
    apply Reads.ite
    · exact ((readString_reads rest).map fun cs => Json.string (.ofList cs)).of_suffix behind
    apply Reads.ite
    · apply Reads.ite
      · exact fail .tooDeep
      · exact ((below.elements (depth - 1) 0 rest shorter).map Json.array).of_suffix behind
    apply Reads.ite
    · apply Reads.ite
      · exact fail .tooDeep
      · exact ((below.members (depth - 1) true rest shorter).map fun members =>
          Json.object (Members.ofList members)).of_suffix behind
    · exact fail .expectedValue

theorem ReadsBelow.elements_next (below : ReadsBelow n)
    (value : ∀ depth text, text.length < n + 1 →
      Reads text ((readValue depth text).map Step.readout))
    (depth index : Nat) {text : List Char} (short : text.length < n + 1) :
    Reads text ((readElements depth index text).map Step.readout) := by
  rw [readElements_eq]
  refine Yields.bind (nextElement_passes _ text) fun next found goes => ?_
  split
  · next more =>
    rw [if_pos more] at goes
    have bound := goes.length_le
    refine Reads.of_suffix (((value depth next.2 (by omega)).under _).passes.bind
      fun element rest read inside => ?_) goes
    have shorter : rest.length < next.2.length := by
      obtain ⟨step, _, _, rfl⟩ := readout_map_ok.1 (mapError_eq_ok.1 read)
      exact step.shorter
    exact (below.elements depth (index + 1) rest (by omega)).map (element :: ·)
  · next ends =>
    rw [if_neg ends] at goes
    exact goes

theorem ReadsBelow.members_next (below : ReadsBelow n) (depth : Nat) (first : Bool)
    {text : List Char} (short : text.length < n + 1) :
    Reads text ((readMembers depth first text).map Step.readout) := by
  rw [readMembers_eq]
  refine Yields.bind (nextMember_reads first text) fun next found goes => ?_
  have bound := goes.length_lt
  cases kind : next.1 with
  | none => exact goes
  | some key =>
    refine Reads.of_suffix (((below.value depth next.2 (by omega)).under _).passes.bind
      fun value rest read inside => ?_) goes.suffix
    have shorter := inside.length_le
    exact (below.members depth false rest (by omega)).map ((key, value) :: ·)

theorem readsBelow (n : Nat) : ReadsBelow n :=
  HoldBelow.of_steps (fun _ below depth _ short => ReadsBelow.value_next below depth short)
    (fun _ below value depth index _ short => ReadsBelow.elements_next below value depth index short)
    (fun _ below depth first _ short => ReadsBelow.members_next below depth first short) n

end

/-- A value ends in a visible character, and a fault in a value lies in the text. -/
theorem readValue_reads (depth : Nat) (text : List Char) :
    Reads text ((readValue depth text).map Step.readout) :=
  (readsBelow (text.length + 1)).value depth text (Nat.lt_succ_self _)

end Json

end ShapeInference
