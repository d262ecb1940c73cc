import Mathlib.Data.List.DropRight
import ShapeInference.Proofs.Refine.Rules
import ShapeInference.Proofs.Unicode.CaseMapping

/-! Which texts are URLs, and what of them is one.

No text with white space is a URL. But around a URL more is left out than white space: all controls
of ASCII. So a URL keeps the controls that the text had around it, and only the text without them
goes from the letter of a scheme to the end of a URL.
-/

set_option autoImplicit false

namespace ShapeInference

namespace Url

section
variable {text front back scheme rest : List Char} {c : Char}

theorem trim_eq (text : List Char) :
    trim text = (text.dropWhile isPadding).rdropWhile isPadding := rfl

theorem trim_append (padding : ∀ c ∈ front ++ back, isPadding c = true) (text : List Char) :
    trim (front ++ text ++ back) = trim text := by
  obtain ⟨before, behind⟩ := List.forall_mem_append.1 padding
  rw [trim, trim, List.append_assoc, List.dropWhile_append_of_pos before, List.dropWhile_append]
  split
  · next blank =>
    -- Of padding alone nothing is left, and so nothing of what stands behind it.
    rw [List.isEmpty_iff.1 blank, List.dropWhile_eq_nil_iff.2 behind]
  · rw [List.reverse_append,
      List.dropWhile_append_of_pos fun c member => behind c (List.mem_reverse.1 member)]

theorem exists_trim (text : List Char) : ∃ front back, text = front ++ trim text ++ back ∧
    ∀ c ∈ front ++ back, isPadding c = true := by
  refine ⟨text.takeWhile isPadding, (text.dropWhile isPadding).rtakeWhile isPadding, ?_,
    List.forall_mem_append.2 ⟨fun c => List.mem_takeWhile_imp, fun c => List.mem_rtakeWhile_imp⟩⟩
  rw [trim_eq, List.append_assoc, List.rdropWhile_append_rtakeWhile,
    List.takeWhile_append_dropWhile]

theorem trim_trim (text : List Char) : trim (trim text) = trim text := by
  obtain ⟨front, back, whole, padding⟩ := exists_trim text
  conv => rhs; rw [whole]
  exact (trim_append padding _).symm

theorem isPadding_getLast_trim (nonempty : trim text ≠ []) :
    isPadding ((trim text).getLast nonempty) = false :=
  Bool.eq_false_iff.2 (List.rdropWhile_last_not isPadding _ nonempty)

theorem takeScheme_isAlpha (found : takeScheme text = some (scheme, rest)) :
    ∃ first others, text = first :: others ∧ first.isAlpha = true := by
  unfold takeScheme at found
  dsimp only at found
  split at found
  · next first _ start _ =>
    split at found
    · next letter =>
      obtain ⟨others, same⟩ := List.head?_eq_some_iff.1 start
      exact ⟨first, others, same, letter⟩
    · cases found
  · cases found

theorem host?_congr {other : List Char} (same : trim text = trim other) :
    host? text = host? other := by
  rw [host?, host?, same]

theorem exists_scheme (found : (host? text).isSome = true) :
    ∃ scheme rest, takeScheme (trim text) = some (scheme, rest) := by
  rw [host?] at found
  split at found
  · cases found
  · next scheme rest start => exact ⟨scheme, rest, start⟩

end

end Url

namespace Literal

/-- From the first letter of a scheme to a last character that is no control. -/
structure Tight (text : List Char) : Prop where
  noWhiteSpace : ∀ c ∈ text, Unicode.isWhiteSpace c = false
  first : ∃ c rest, text = c :: rest ∧ c.isAlpha = true
  last : ∃ rest c, text = rest ++ [c] ∧ 0x20 ≤ c.toNat

section
variable {s : String} {c : Char}

theorem isPadding_iff : Url.isPadding c = true ↔ c.toNat ≤ 0x20 := by
  rw [Url.isPadding, decide_eq_true_eq]
  rfl

theorem isUrl_iff : isUrl s = true ↔
    (∀ c ∈ s.toList, Unicode.isWhiteSpace c = false) ∧ (Url.host? s.toList).isSome = true := by
  simp only [isUrl, Bool.and_eq_true, Bool.not_eq_true', List.any_eq_false, Bool.not_eq_true]

theorem toNat_ne_of_visible (visible : Unicode.isWhiteSpace c = false) : c.toNat ≠ 0x20 := by
  intro space
  simp [Unicode.isWhiteSpace, space] at visible

theorem tight_trim (accepted : isUrl s = true) : Tight (Url.trim s.toList) := by
  obtain ⟨visible, found⟩ := isUrl_iff.1 accepted
  obtain ⟨scheme, rest, start⟩ := Url.exists_scheme found
  obtain ⟨first, others, same, letter⟩ := Url.takeScheme_isAlpha start
  obtain ⟨front, back, whole, _⟩ := Url.exists_trim s.toList
  refine ⟨fun c member => visible c ?_, ⟨first, others, same, letter⟩, ?_⟩
  · rw [whole]
    exact List.mem_append_left _ (List.mem_append_right _ member)
  · have nonempty : Url.trim s.toList ≠ [] := by
      rw [same]
      exact List.cons_ne_nil _ _
    refine ⟨_, _, (List.dropLast_append_getLast nonempty).symm, ?_⟩
    have last := Url.isPadding_getLast_trim nonempty
    rw [Bool.eq_false_iff, Ne, isPadding_iff] at last
    omega

theorem isUrl_trim (accepted : isUrl s = true) : isUrl (.ofList (Url.trim s.toList)) = true := by
  obtain ⟨visible, found⟩ := isUrl_iff.1 accepted
  rw [isUrl_iff, String.toList_ofList, Url.host?_congr (Url.trim_trim _)]
  exact ⟨(tight_trim accepted).noWhiteSpace, found⟩

end

end Literal

/-- A text becomes a URL if it is one, which goes from end to end, with any controls around it that
are no white space. It keeps them. -/
theorem Refinement.url_literals (r : Refinement) (name s literal : String) :
    (Shape.text s).refine r name = .ok (.url literal) ↔ literal = s ∧
      ∃ front url back : String, s = front ++ url ++ back ∧ Literal.isUrl url = true ∧
        Literal.Tight url.toList ∧
        ∀ c ∈ front.toList ++ back.toList, c.toNat < 0x20 ∧ Unicode.isWhiteSpace c = false := by
  rw [refine_text]
  constructor
  · intro promoted
    obtain ⟨rfl, accepted⟩ := Literal.promoted_eq_url (Except.ok.inj promoted)
    obtain ⟨visible, found⟩ := Literal.isUrl_iff.1 accepted
    obtain ⟨front, back, whole, padding⟩ := Url.exists_trim literal.toList
    refine ⟨rfl, .ofList front, .ofList (Url.trim literal.toList), .ofList back, ?_,
      Literal.isUrl_trim accepted, ?_, ?_⟩
    · rw [← String.ofList_append, ← String.ofList_append, ← whole, String.ofList_toList]
    · rw [String.toList_ofList]
      exact Literal.tight_trim accepted
    · intro c member
      rw [String.toList_ofList, String.toList_ofList] at member
      have inside : c ∈ literal.toList := by
        rw [whole]
        simp only [List.mem_append] at member ⊢
        exact member.imp_left .inl
      have notSpace := Literal.toNat_ne_of_visible (visible c inside)
      have low := Literal.isPadding_iff.1 (padding c member)
      exact ⟨by omega, visible c inside⟩
  · rintro ⟨rfl, front, url, back, rfl, accepted, _, around⟩
    obtain ⟨visible, found⟩ := Literal.isUrl_iff.1 accepted
    have same : Url.trim (front ++ url ++ back).toList = Url.trim url.toList := by
      rw [String.toList_append, String.toList_append]
      exact Url.trim_append
        (fun c member => Literal.isPadding_iff.2 (Nat.le_of_lt (around c member).1)) _
    have whole : Literal.isUrl (front ++ url ++ back) = true := by
      rw [Literal.isUrl_iff, Url.host?_congr same]
      refine ⟨fun c member => ?_, found⟩
      simp only [String.toList_append, List.mem_append] at member around
      rcases member with (before | inside) | behind
      · exact (around c (.inl before)).2
      · exact visible c inside
      · exact (around c (.inr behind)).2
    rw [Literal.promoted, if_pos whole]

/-- A literal with a control in front of it, which is no letter. -/
theorem Literal.not_every_literal_tight : ¬ ∀ s, isUrl s = true → Tight s.toList := by
  intro tight
  obtain ⟨c, rest, start, letter⟩ := (tight "\x01https://example.com" (by decide +kernel)).first
  cases start
  revert letter
  decide

end ShapeInference
