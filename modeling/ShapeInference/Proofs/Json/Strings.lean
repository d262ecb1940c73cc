import ShapeInference.Json.Printer
import ShapeInference.Proofs.Json.Tokens

/-! Strings are read as they were written.

Every character is either read as it stands, or its escape is read as that character. No character
of a string is written as a quote, so the first quote behind it ends it.
-/

set_option autoImplicit false

namespace ShapeInference.Json

section
variable {rest : List Char}

theorem hexValue?_digitChar : ∀ d < 16, hexValue? (Nat.digitChar d) = some d := by decide

theorem readUnit_hexDigits4 {n : Nat} (small : n < 0x10000) :
    readUnit (hexDigits4 n ++ rest) = .ok (n, rest) := by
  have digit (d : Nat) : hexValue? (Nat.digitChar (d % 16)) = some (d % 16) :=
    hexValue?_digitChar _ (Nat.mod_lt _ (by decide))
  have units : (hexDigits4 n).mapM hexValue? =
      some [n / 0x1000 % 16, n / 0x100 % 16, n / 0x10 % 16, n % 16] := by
    simp only [hexDigits4, List.map_cons, List.map_nil, List.mapM_cons, List.mapM_nil, digit]
    rfl
  have size : utf8Size (hexDigits4 n) = 4 := utf8Size_of_hexValues units
  have long : ¬ utf8Size (hexDigits4 n ++ rest) < 4 := by
    rw [utf8Size_append, size]
    omega
  have number : 16 * (16 * (16 * (16 * 0 + n / 0x1000 % 16) + n / 0x100 % 16) + n / 0x10 % 16) +
      n % 16 = n := by omega
  have taken : (hexDigits4 n ++ rest).take 4 = hexDigits4 n := List.take_left' rfl
  rw [readUnit, if_neg long, taken, units]
  simp only [List.foldl_cons, List.foldl_nil, number]
  rfl

theorem readCodeEscape_hexDigits4 {c : Char} (control : c.toNat < 0x20) :
    readCodeEscape (hexDigits4 c.toNat ++ rest) = .ok (c, rest) := by
  have low : isLowSurrogate c.toNat = false := by simp [isLowSurrogate]; omega
  have high : isHighSurrogate c.toNat = false := by simp [isHighSurrogate]; omega
  rw [readCodeEscape_eq, readUnit_hexDigits4 (by omega), Except.bind]
  simp only [low, high, Bool.false_eq_true, if_false, Char.ofNat_toNat]

theorem readString_escape {c : Char} {escaped : List Char}
    (read : readEscape (escaped ++ rest) = .ok (c, rest)) :
    readString ('\\' :: escaped ++ rest) =
      (readString rest).map fun more => (c :: more.1, more.2) := by
  rw [List.cons_append, readString_cons, if_neg (by decide), if_pos rfl, read]
  rfl

theorem readString_ite {c d letter : Char} {others : List Char}
    (read : readEscape (letter :: rest) = .ok (d, rest))
    (otherwise : c ≠ d → readString (others ++ rest) =
      (readString rest).map fun more => (c :: more.1, more.2)) :
    readString ((if c = d then ['\\', letter] else others) ++ rest) =
      (readString rest).map fun more => (c :: more.1, more.2) := by
  split
  · next same =>
    subst same
    exact readString_escape read
  · next different => exact otherwise different

theorem readString_escapeChar (c : Char) (rest : List Char) :
    readString (escapeChar c ++ rest) =
      (readString rest).map fun more => (c :: more.1, more.2) := by
  refine readString_ite rfl fun quote => readString_ite rfl fun backslash => ?_
  refine readString_ite rfl fun _ => readString_ite rfl fun _ => readString_ite rfl fun _ => ?_
  refine readString_ite rfl fun _ => readString_ite rfl fun _ => ?_
  split
  · next control => exact readString_escape (readCodeEscape_hexDigits4 control)
  · next high =>
    rw [List.cons_append, List.nil_append, readString_cons, if_neg quote, if_neg backslash,
      if_neg high]

theorem readString_escaped (cs rest : List Char) :
    readString (cs.flatMap escapeChar ++ '"' :: rest) = .ok (cs, rest) := by
  induction cs with
  | nil =>
    rw [List.flatMap_nil, List.nil_append, readString_cons, if_pos rfl]
  | cons c cs ih =>
    rw [List.flatMap_cons, List.append_assoc, readString_escapeChar, ih]
    rfl

theorem readString_stringChars (text : String) (rest : List Char) :
    ∃ body, stringChars text ++ rest = '"' :: body ∧
      readString body = .ok (text.toList, rest) := by
  refine ⟨text.toList.flatMap escapeChar ++ '"' :: rest, ?_, readString_escaped _ _⟩
  simp [stringChars]

theorem stringChars_append_inj {first second : String} {left right : List Char}
    (same : stringChars first ++ left = stringChars second ++ right) :
    first = second ∧ left = right := by
  obtain ⟨body, whole, read⟩ := readString_stringChars first left
  obtain ⟨body', whole', read'⟩ := readString_stringChars second right
  rw [whole, whole'] at same
  cases same
  have both := Except.ok.inj (read.symm.trans read')
  exact ⟨String.toList_inj.1 (congrArg Prod.fst both), congrArg Prod.snd both⟩

end

end ShapeInference.Json
