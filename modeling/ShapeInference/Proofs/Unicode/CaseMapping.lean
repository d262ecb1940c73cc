import ShapeInference.Unicode.CaseMapping

/-! Mapping characters to upper and to lower case.

No character is mapped to nothing, and only the underscore is mapped to an underscore. What upper
case gives is in upper case already, since no code point that the tables give is one that they map.
-/

set_option autoImplicit false

namespace ShapeInference.Unicode

theorem forall_ascii {p : Char → Prop} (all : ∀ code : Fin 128, p (Char.ofNat code)) {c : Char}
    (small : c.toNat < 128) : p c := by
  have holds := all ⟨c.toNat, small⟩
  rwa [Char.ofNat_toNat] at holds

/-! Looking up a character. -/

section
variable {special : List (Nat × List Nat)} {runs : List CaseRun} {c d : Char}

/-- The special table comes first, then the runs. -/
theorem mapCase_cases (special : List (Nat × List Nat)) (runs : List CaseRun) (c : Char) :
    (∃ entry ∈ special, entry.1 = c.toNat ∧ mapCase special runs c = entry.2.map Char.ofNat) ∨
    (∃ run ∈ runs, ∃ image, run.map? c.toNat = some image ∧
      mapCase special runs c = [Char.ofNat image]) ∨
    mapCase special runs c = [c] := by
  unfold mapCase
  split
  · next codes found =>
    obtain ⟨before, after, same, _⟩ := List.lookup_eq_some_iff.1 found
    exact .inl ⟨(c.toNat, codes), by simp [same], rfl, rfl⟩
  · split
    · next image found =>
      obtain ⟨run, listed, mapped⟩ := List.exists_of_findSome?_eq_some found
      exact .inr (.inl ⟨run, listed, image, mapped, rfl⟩)
    · exact .inr (.inr rfl)

theorem mapCase_ne_nil (some : ∀ entry ∈ special, entry.2 ≠ []) (c : Char) :
    mapCase special runs c ≠ [] := by
  rcases mapCase_cases special runs c with
    ⟨entry, listed, _, same⟩ | ⟨run, _, image, _, same⟩ | same
  · simpa [same] using some entry listed
  · simp [same]
  · simp [same]

def CaseRun.Avoids (run : CaseRun) : Prop :=
  0x5F < run.image ∨ run.image + (run.last - run.first) < 0x5F

instance (run : CaseRun) : Decidable run.Avoids := by
  unfold CaseRun.Avoids
  infer_instance

theorem CaseRun.Avoids.image_ne {run : CaseRun} (h : run.Avoids) {code image : Nat}
    (mapped : run.map? code = some image) : image ≠ 0x5F := by
  unfold CaseRun.Avoids at h
  unfold CaseRun.map? at mapped
  split at mapped
  · cases mapped
    omega
  · cases mapped

theorem ofNat_ne_underscore {code : Nat} (other : code ≠ 0x5F) : Char.ofNat code ≠ '_' := by
  intro same
  apply other
  by_cases valid : code.isValidChar
  · rw [Char.ofNat, dif_pos valid] at same
    exact congrArg Char.toNat same
  -- What is no character at all is read as the character with code zero.
  · rw [Char.ofNat, dif_neg valid] at same
    exact absurd (congrArg Char.toNat same) (by decide)

theorem underscore_not_mem_mapCase
    (inSpecial : ∀ entry ∈ special, ∀ code ∈ entry.2, code ≠ 0x5F)
    (inRuns : ∀ run ∈ runs, run.Avoids) (other : c ≠ '_') : '_' ∉ mapCase special runs c := by
  rcases mapCase_cases special runs c with
    ⟨entry, listed, _, same⟩ | ⟨run, listed, image, mapped, same⟩ | same
  · rw [same]
    intro inside
    obtain ⟨code, given, underscore⟩ := List.mem_map.1 inside
    exact ofNat_ne_underscore (inSpecial entry listed code given) underscore
  · rw [same, List.mem_singleton]
    exact (ofNat_ne_underscore ((inRuns run listed).image_ne mapped)).symm
  · rw [same, List.mem_singleton]
    exact other.symm

end

section
variable {c : Char}

theorem upper_ne_nil (c : Char) : upper c ≠ [] := by
  unfold upper
  split
  · exact List.cons_ne_nil _ _
  · exact mapCase_ne_nil (by decide +kernel) c

theorem lower_ne_nil (c : Char) : lower c ≠ [] := by
  unfold lower
  split
  · exact List.cons_ne_nil _ _
  · exact mapCase_ne_nil (by decide +kernel) c

theorem underscore_not_mem_upper (other : c ≠ '_') : '_' ∉ upper c := by
  unfold upper
  split
  · next small =>
    have same := forall_ascii (p := fun c => c ≠ '_' → '_' ∉ [c.toUpper]) (by decide) small
    exact same other
  · exact underscore_not_mem_mapCase (by decide +kernel) (by decide +kernel) other

theorem underscore_not_mem_lower (other : c ≠ '_') : '_' ∉ lower c := by
  unfold lower
  split
  · next small =>
    have same := forall_ascii (p := fun c => c ≠ '_' → '_' ∉ [c.toLower]) (by decide) small
    exact same other
  · exact underscore_not_mem_mapCase (by decide +kernel) (by decide +kernel) other

end

/-! Letters of ASCII. -/

section
variable {c : Char}

theorem toNat_of_isLower (lower : c.isLower = true) : c.toNat < 128 := by
  have range : (decide ('a'.val ≤ c.val) && decide (c.val ≤ 'z'.val)) = true := lower
  have bound : c.toNat ≤ 'z'.toNat := of_decide_eq_true (Bool.and_eq_true_iff.1 range).2
  exact Nat.lt_of_le_of_lt bound (by decide)

theorem toNat_of_isUpper (capital : c.isUpper = true) : c.toNat < 128 := by
  have range : 'A'.val ≤ c.val ∧ c.val ≤ 'Z'.val := of_decide_eq_true capital
  have bound : c.toNat ≤ 'Z'.toNat := range.2
  exact Nat.lt_of_le_of_lt bound (by decide)

theorem isUpper_of_isLower (small : c.isLower = true) : c.isUpper = false :=
  forall_ascii (p := fun c => c.isLower = true → c.isUpper = false) (by decide)
    (toNat_of_isLower small) small

theorem upper_of_isLower (small : c.isLower = true) :
    upper c = [c.toUpper] ∧ c.toUpper.isUpper = true ∧ c.toUpper.toLower = c ∧
      lower c.toUpper = [c] := by
  have ascii := toNat_of_isLower small
  have letter := forall_ascii (p := fun c => c.isLower = true →
    c.toUpper.isUpper = true ∧ c.toUpper.toLower = c ∧ c.toUpper.toNat < 128) (by decide) ascii
  obtain ⟨capital, back, image⟩ := letter small
  refine ⟨if_pos ascii, capital, back, ?_⟩
  rw [lower, if_pos image, back]

theorem lower_of_isUpper (capital : c.isUpper = true) :
    lower c = [c.toLower] ∧ upper c.toLower = [c] := by
  have ascii := toNat_of_isUpper capital
  have back := forall_ascii (p := fun c => c.isUpper = true → upper c.toLower = [c])
    (by decide) ascii
  exact ⟨if_pos ascii, back capital⟩

theorem isUpper_of_isAlpha (letter : c.isAlpha = true) (fixed : upper c = [c]) :
    c.isUpper = true := by
  rcases Bool.or_eq_true_iff.1 letter with capital | small
  · exact capital
  · obtain ⟨changed, capital, _⟩ := upper_of_isLower small
    rw [fixed, List.singleton_inj] at changed
    rwa [← changed] at capital

theorem upper_of_not_isLower (ascii : c.toNat < 128) (other : c.isLower = false) :
    upper c = [c] := by
  have same := forall_ascii (p := fun c => c.isLower = false → c.toUpper = c) (by decide) ascii
  rw [upper, if_pos ascii, same other]

end

/-! Which code points the tables map, and to what. -/

section
variable {special : List (Nat × List Nat)} {runs : List CaseRun} {c d : Char}

def CaseRun.codes (run : CaseRun) : List Nat :=
  List.range' run.first ((run.last - run.first) / run.step + 1) run.step

def CaseRun.images (run : CaseRun) : List Nat :=
  List.range' run.image ((run.last - run.first) / run.step + 1) run.step

theorem CaseRun.mem_of_map? {run : CaseRun} {code image : Nat}
    (mapped : run.map? code = some image) : code ∈ run.codes ∧ image ∈ run.images := by
  unfold CaseRun.map? at mapped
  split at mapped
  · next within =>
    cases mapped
    obtain ⟨low, high, whole⟩ := within
    have steps : run.step * ((code - run.first) / run.step) = code - run.first :=
      Nat.mul_div_cancel' (Nat.dvd_of_mod_eq_zero whole)
    have bound : (code - run.first) / run.step < (run.last - run.first) / run.step + 1 :=
      Nat.lt_succ_of_le (Nat.div_le_div_right (Nat.sub_le_sub_right high _))
    exact ⟨List.mem_range'.2 ⟨_, bound, by omega⟩, List.mem_range'.2 ⟨_, bound, by omega⟩⟩
  · cases mapped

def mappedCodes (special : List (Nat × List Nat)) (runs : List CaseRun) : List Nat :=
  special.map Prod.fst ++ runs.flatMap CaseRun.codes

def imageCodes (special : List (Nat × List Nat)) (runs : List CaseRun) : List Nat :=
  special.flatMap Prod.snd ++ runs.flatMap CaseRun.images

theorem mapCase_of_not_mem (other : c.toNat ∉ mappedCodes special runs) :
    mapCase special runs c = [c] := by
  rw [mappedCodes, List.mem_append, not_or, List.mem_map, List.mem_flatMap] at other
  rcases mapCase_cases special runs c with
    ⟨entry, listed, same, _⟩ | ⟨run, listed, image, mapped, _⟩ | same
  · exact absurd ⟨entry, listed, same⟩ other.1
  · exact absurd ⟨run, listed, (CaseRun.mem_of_map? mapped).1⟩ other.2
  · exact same

theorem of_mem_mapCase (member : d ∈ mapCase special runs c) :
    (∃ code ∈ imageCodes special runs, d = Char.ofNat code) ∨
      mapCase special runs c = [c] ∧ d = c := by
  rcases mapCase_cases special runs c with
    ⟨entry, listed, _, same⟩ | ⟨run, listed, image, mapped, same⟩ | same
  · rw [same] at member
    obtain ⟨code, given, rfl⟩ := List.mem_map.1 member
    have inside := List.mem_flatMap.2 ⟨entry, listed, given⟩
    exact .inl ⟨code, List.mem_append_left _ inside, rfl⟩
  · rw [same, List.mem_singleton] at member
    have inside := List.mem_flatMap.2 ⟨run, listed, (CaseRun.mem_of_map? mapped).2⟩
    exact .inl ⟨image, List.mem_append_right _ inside, member⟩
  · rw [same, List.mem_singleton] at member
    exact .inr ⟨same, member⟩

end

/-! Upper case stays as it is. -/

def bits (codes : List Nat) : Nat :=
  codes.foldr (fun code set => 1 <<< code ||| set) 0

section
variable {codes others : List Nat} {code : Nat}

theorem testBit_bits : (bits codes).testBit code = true ↔ code ∈ codes := by
  unfold bits
  induction codes with
  | nil => simp
  | cons first rest ih =>
    rw [List.foldr_cons, Nat.testBit_or, Bool.or_eq_true, ih, Nat.one_shiftLeft,
      Nat.testBit_two_pow, decide_eq_true_iff, List.mem_cons, eq_comm]

theorem not_mem_of_bits (apart : bits codes &&& bits others = 0) (member : code ∈ codes) :
    code ∉ others := by
  intro shared
  have both : (bits codes &&& bits others).testBit code = true := by
    rw [Nat.testBit_and, testBit_bits.2 member, testBit_bits.2 shared]
    rfl
  rw [apart, Nat.zero_testBit] at both
  cases both

end

-- Both sets have more than a thousand members, too many to compare each with each.
theorem upper_tables_apart :
    bits (imageCodes upperSpecial upperRuns) &&& bits (mappedCodes upperSpecial upperRuns) = 0 := by
  decide +kernel

theorem upper_images_plain : ∀ code ∈ imageCodes upperSpecial upperRuns,
    (Char.ofNat code).toNat = code ∧ (Char.ofNat code).isLower = false := by
  decide +kernel

theorem upper_of_mem_images {code : Nat} (given : code ∈ imageCodes upperSpecial upperRuns) :
    upper (Char.ofNat code) = [Char.ofNat code] := by
  obtain ⟨same, capital⟩ := upper_images_plain code given
  -- Letters of ASCII come up in what ligatures are mapped to, and the tables do not speak of them.
  by_cases ascii : (Char.ofNat code).toNat < 128
  · exact upper_of_not_isLower ascii capital
  · have unmapped : (Char.ofNat code).toNat ∉ mappedCodes upperSpecial upperRuns := by
      rw [same]
      exact not_mem_of_bits upper_tables_apart given
    rw [upper, if_neg ascii, mapCase_of_not_mem unmapped]

theorem upper_of_mem_upper {c d : Char} (member : d ∈ upper c) : upper d = [d] := by
  by_cases ascii : c.toNat < 128
  · rw [upper, if_pos ascii, List.mem_singleton] at member
    subst member
    exact forall_ascii (p := fun c => upper c.toUpper = [c.toUpper]) (by decide) ascii
  · rw [upper, if_neg ascii] at member
    rcases of_mem_mapCase member with ⟨code, given, rfl⟩ | ⟨unmapped, rfl⟩
    · exact upper_of_mem_images given
    · rw [upper, if_neg ascii, unmapped]

def Uncased (c : Char) : Prop := upper c = [c] ∧ lower c = [c]

instance : DecidablePred Uncased := fun c =>
  inferInstanceAs (Decidable (upper c = [c] ∧ lower c = [c]))

end ShapeInference.Unicode
