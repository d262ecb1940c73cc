import ShapeInference.Json.NumberReader

/-! Reading strings, from behind the opening quote to behind the closing one.

A code point beyond 16 bits is escaped as two surrogates, and neither of them may stand alone.
-/

set_option autoImplicit false

namespace ShapeInference.Json

def hexValue? (c : Char) : Option Nat :=
  if '0' ≤ c ∧ c ≤ '9' then some (c.toNat - 0x30)
  else if 'a' ≤ c ∧ c ≤ 'f' then some (c.toNat - 0x57)
  else if 'A' ≤ c ∧ c ≤ 'F' then some (c.toNat - 0x37)
  else none

/-- Four hexadecimal digits. Anything else takes up four bytes all the same. -/
def readUnit (text : List Char) : Readout Nat :=
  if utf8Size text < 4 then .error { cause := .endInString, left := 0 }
  else
    match (text.take 4).mapM hexValue? with
    | some units => .ok (units.foldl (fun n d => 16 * n + d) 0, text.drop 4)
    | none => .error { cause := .invalidEscape, left := utf8Size text - 4 }

def isHighSurrogate (unit : Nat) : Bool := 0xD800 ≤ unit && unit ≤ 0xDBFF

def isLowSurrogate (unit : Nat) : Bool := 0xDC00 ≤ unit && unit ≤ 0xDFFF

/-- Reads the second of two surrogates, with its escape. -/
def readLowSurrogate (high : Nat) (text : List Char) : Readout Char :=
  match text with
  | [] => .error { cause := .endInString, left := 0 }
  | '\\' :: [] => .error { cause := .endInString, left := 0 }
  | '\\' :: 'u' :: rest =>
    match readUnit rest with
    | .error fault => .error fault
    | .ok (unit, rest) =>
      if isLowSurrogate unit then
        .ok (.ofNat ((high - 0xD800) * 0x400 + (unit - 0xDC00) + 0x10000), rest)
      else .error { cause := .loneSurrogate, left := utf8Size rest }
  | '\\' :: rest => .error { cause := .unpairedSurrogate, left := utf8Size rest - 1 }
  | _ => .error { cause := .unpairedSurrogate, left := utf8Size text - 1 }

def readCodeEscape (text : List Char) : Readout Char :=
  match readUnit text with
  | .error fault => .error fault
  | .ok (unit, rest) =>
    if isLowSurrogate unit then .error { cause := .loneSurrogate, left := utf8Size rest }
    else if isHighSurrogate unit then readLowSurrogate unit rest
    else .ok (.ofNat unit, rest)

/-- Reads what follows a backslash. -/
def readEscape (text : List Char) : Readout Char :=
  match text with
  | [] => .error { cause := .endInString, left := 0 }
  | '"' :: rest => .ok ('"', rest)
  | '\\' :: rest => .ok ('\\', rest)
  | '/' :: rest => .ok ('/', rest)
  | 'b' :: rest => .ok ('\x08', rest)
  | 'f' :: rest => .ok ('\x0c', rest)
  | 'n' :: rest => .ok ('\n', rest)
  | 'r' :: rest => .ok ('\r', rest)
  | 't' :: rest => .ok ('\t', rest)
  | 'u' :: rest => readCodeEscape rest
  | _ => .error { cause := .invalidEscape, left := utf8Size text - 1 }

theorem readUnit_rest_suffix {text rest : List Char} {unit : Nat}
    (ok : readUnit text = .ok (unit, rest)) : rest <:+ text := by
  simp only [readUnit] at ok
  split at ok
  · simp at ok
  · split at ok
    · simp only [Except.ok.injEq, Prod.mk.injEq] at ok
      rw [← ok.2]
      exact List.drop_suffix _ _
    · simp at ok

theorem readLowSurrogate_rest_suffix {high : Nat} {text rest : List Char} {c : Char}
    (ok : readLowSurrogate high text = .ok (c, rest)) : rest <:+ text := by
  unfold readLowSurrogate at ok
  split at ok
  · simp at ok
  · simp at ok
  · split at ok
    · simp at ok
    · next unit left read =>
      split at ok
      · simp only [Except.ok.injEq, Prod.mk.injEq] at ok
        rw [← ok.2]
        exact ((readUnit_rest_suffix read).trans (List.suffix_cons _ _)).trans
          (List.suffix_cons _ _)
      · simp at ok
  · simp at ok
  · simp at ok

theorem readCodeEscape_rest_suffix {text rest : List Char} {c : Char}
    (ok : readCodeEscape text = .ok (c, rest)) : rest <:+ text := by
  unfold readCodeEscape at ok
  split at ok
  · simp at ok
  · next unit left read =>
    split at ok
    · simp at ok
    · split at ok
      · exact (readLowSurrogate_rest_suffix ok).trans (readUnit_rest_suffix read)
      · simp only [Except.ok.injEq, Prod.mk.injEq] at ok
        rw [← ok.2]
        exact readUnit_rest_suffix read

theorem readEscape_rest_suffix {text rest : List Char} {c : Char}
    (ok : readEscape text = .ok (c, rest)) : rest <:+ text := by
  unfold readEscape at ok
  split at ok
  case h_10 => exact (readCodeEscape_rest_suffix ok).trans (List.suffix_cons _ _)
  all_goals
    first
    | simp at ok; done
    | simp only [Except.ok.injEq, Prod.mk.injEq] at ok
      rw [← ok.2]
      exact List.suffix_cons _ _

def readString (text : List Char) : Readout (List Char) :=
  match text with
  | [] => .error { cause := .endInString, left := 0 }
  | c :: rest =>
    if c = '"' then .ok ([], rest)
    else if c = '\\' then
      match _escape : readEscape rest with
      | .error fault => .error fault
      | .ok (d, rest) =>
        match readString rest with
        | .error fault => .error fault
        | .ok (cs, rest) => .ok (d :: cs, rest)
    else if c.toNat < 0x20 then .error { cause := .controlCharacter, left := utf8Size rest }
    else
      match readString rest with
      | .error fault => .error fault
      | .ok (cs, rest) => .ok (c :: cs, rest)
termination_by text.length
decreasing_by
  · have := (readEscape_rest_suffix _escape).length_le
    simp only [List.length_cons]; omega
  · simp

theorem readString_shorter {text rest : List Char} {cs : List Char}
    (ok : readString text = .ok (cs, rest)) : rest.length < text.length := by
  fun_induction readString text generalizing cs rest with
  | case1 => simp at ok
  | case2 tail => simp only [Except.ok.injEq, Prod.mk.injEq] at ok; simp [← ok.2]
  | case3 => simp at ok
  | case4 => simp at ok
  | case5 tail d left escape cs' rest' read _ ih =>
    have := (readEscape_rest_suffix escape).length_le
    have := ih read
    simp only [Except.ok.injEq, Prod.mk.injEq] at ok
    rw [← ok.2]
    simp only [List.length_cons]; omega
  | case6 => simp at ok
  | case7 => simp at ok
  | case8 c tail _ _ _ cs' rest' read ih =>
    have := ih read
    simp only [Except.ok.injEq, Prod.mk.injEq] at ok
    rw [← ok.2]
    simp only [List.length_cons]; omega

end ShapeInference.Json
