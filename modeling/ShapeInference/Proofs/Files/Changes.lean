import Mathlib.Data.List.TakeWhile
import Mathlib.Logic.Relation
import ShapeInference.Proofs.Files.Entries

/-! What making directories and writing a file change.

Making directories adds places that were free, each a directory and each named by the path or by a
path above it, also when a later step fails. Writing a file changes the place of the file alone.
-/

set_option autoImplicit false

namespace ShapeInference.Files

theorem getLast?_intercalate {sep : Char} {pieces : List (List Char)} (some_piece : pieces ≠ []) :
    ([sep].intercalate (pieces ++ [[]])).getLast? = some sep := by
  induction pieces with
  | nil => exact absurd rfl some_piece
  | cons piece rest ih =>
    cases rest with
    | nil => simp [List.intercalate]
    | cons second rest =>
      have later := ih (by simp)
      rw [List.cons_append] at later
      rw [List.cons_append, List.cons_append, List.intercalate_cons_cons, List.getLast?_append, later]
      rfl

theorem endsInSlash_of_names {path : String} {front : List String} (notEmpty : path ≠ "")
    (blank : names path = front ++ [""]) : endsInSlash path = true := by
  obtain ⟨pieces, last, split, rfl, final⟩ := List.map_eq_append_iff.1 blank
  obtain ⟨piece, rfl, empty⟩ := List.map_eq_singleton_iff.1 final
  have empty : piece = [] := by simpa using empty
  have whole := Text.intercalate_splitOn '/' path.toList
  rw [split, empty] at whole
  have some_piece : pieces ≠ [] := by
    rintro rfl
    exact notEmpty (by simpa [List.intercalate] using whole.symm)
  rw [endsInSlash, ← whole, getLast?_intercalate some_piece]
  rfl

def IsParent (path parent : String) : Prop := parent? path = some parent

namespace Target

def place (target : Target) : Place := target.directory ++ [target.name]

end Target

namespace Disk

variable {disk before after : Disk} {path text : String} {target : Target} {node : Node}

/-- A path leads to the directory of its target by the names in front, and blanks follow. -/
structure Targets (disk : Disk) (path : String) (target : Target) : Prop where
  valid : checkPath path = .ok ()
  named : target.name ≠ ""
  directory : disk.entryAt target.directory = some .directory
  way : ∃ front blanks, names path = front ++ target.name :: blanks ∧ (∀ name ∈ blanks, name = "") ∧
    front.foldlM disk.enter (disk.start path) = .ok target.directory

theorem targets_of_target (ok : disk.target path = .ok (some target)) :
    Targets disk path target := by
  rw [Disk.target, bind_eq] at ok
  obtain ⟨_, valid, ok⟩ := bind_eq_ok.1 ok
  split at ok
  · cases ok
  · next name parents backwards =>
    obtain ⟨directory, walked, ok⟩ := bind_eq_ok.1 ok
    obtain ⟨found, listed, ok⟩ := bind_eq_ok.1 ok
    cases ok
    have whole := List.takeWhile_append_dropWhile (p := (· = "")) (l := (names path).reverse)
    have first := List.head?_dropWhile_not (· = "") (names path).reverse
    rw [backwards] at whole first
    refine ⟨valid, by simpa using first, (entriesAt_eq_ok listed).1, parents.reverse,
      ((names path).reverse.takeWhile (· = "")).reverse, ?_, ?_, walked⟩
    · simpa using (congrArg List.reverse whole).symm
    · intro blank inside
      simpa using (List.mem_takeWhile_imp (List.mem_reverse.1 inside))

theorem foldlM_blanks {place : Place} {blanks : List String} (blank : ∀ name ∈ blanks, name = "")
    (stays : disk.entryAt place = some .directory ∨ blanks = []) :
    blanks.foldlM disk.enter place = .ok place := by
  induction blanks with
  | nil => rfl
  | cons name rest ih =>
    obtain ⟨first, later⟩ := List.forall_mem_cons.1 blank
    rcases stays with isDirectory | impossible
    · rw [List.foldlM_cons, enter_eq_ok.2 ⟨isDirectory, .stay (.inl first)⟩]
      exact ih later (.inl isDirectory)
    · cases impossible

namespace Targets

theorem resolve (targets : Targets disk path target) (kept : Keeps disk after)
    (proper : ¬(target.name = "." ∨ target.name = "..")) (short : checkName target.name = .ok ())
    (present : (after.entryAt target.place).isSome = true)
    (ends : after.entryAt target.place = some .directory ∨ endsInSlash path = false) :
    after.resolve path = .ok target.place := by
  obtain ⟨front, blanks, whole, blank, walked⟩ := targets.way
  have notEmpty : path ≠ "" := by
    rintro rfl
    cases targets.valid
  have stays : after.entryAt target.place = some .directory ∨ blanks = [] := by
    refine ends.imp_right fun noSlash => ?_
    rcases List.eq_nil_or_concat blanks with none | ⟨others, last, same⟩
    · exact none
    · have lastBlank : last = "" := blank last (by simp [same])
      rw [same, lastBlank, List.concat_eq_append, ← List.cons_append, ← List.append_assoc] at whole
      rw [endsInSlash_of_names notEmpty whole] at noSlash
      cases noSlash
  have entered : after.enter target.directory target.name = .ok target.place :=
    enter_eq_ok.2 ⟨kept.directory _ targets.directory, .down
      ⟨fun blank => proper (.inl (blank.resolve_left targets.named)), fun up => proper (.inr up)⟩
      short present⟩
  rw [Disk.resolve, targets.valid, whole, kept.start]
  simp only [bind_eq, Except.bind, List.foldlM_append, kept.foldlM_enter walked, List.foldlM_cons,
    entered]
  exact foldlM_blanks blank stays

variable (targets : Targets disk path target) (leaf : node.IsLeaf)
  (free : disk.entryAt target.place ≠ some .directory)

include targets leaf free

theorem entryAt_put (place : Place) : (disk.put target node).entryAt place =
    if place = target.place then some node.entry else disk.entryAt place :=
  Node.entryAt_put leaf targets.directory free

theorem keeps_put : Keeps disk (disk.put target node) where
  here := rfl
  directory place isDirectory := by
    rw [targets.entryAt_put leaf free, if_neg]
    · exact isDirectory
    · rintro rfl
      exact free isDirectory
  present place present := by
    rw [targets.entryAt_put leaf free]
    split
    · rfl
    · exact present

end Targets

/-! Making directories. -/

/-- The second disk has more directories, each named by the path or by a path above it. -/
structure Grows (path : String) (before after : Disk) : Prop where
  keeps : Keeps before after
  added : ∀ place, after.entryAt place ≠ before.entryAt place → before.entryAt place = none ∧
    after.entryAt place = some .directory ∧
    ∃ above, Relation.ReflTransGen IsParent path above ∧ after.resolve above = .ok place

namespace Grows

theorem refl (path : String) (disk : Disk) : Grows path disk disk :=
  ⟨.refl disk, fun _ differs => absurd rfl differs⟩

theorem trans {first second third : Disk} (h : Grows path first second)
    (h' : Grows path second third) : Grows path first third := by
  refine ⟨h.keeps.trans h'.keeps, fun place differs => ?_⟩
  by_cases same : second.entryAt place = first.entryAt place
  · rw [← same] at differs ⊢
    exact h'.added place differs
  · obtain ⟨free, made, above, isAbove, named⟩ := h.added place same
    exact ⟨free, h'.keeps.directory _ made, above, isAbove, h'.keeps.resolve named⟩

theorem of_parent {parent : String} (found : parent? path = some parent)
    (h : Grows parent before after) : Grows path before after := by
  refine ⟨h.keeps, fun place differs => ?_⟩
  obtain ⟨free, made, above, isAbove, named⟩ := h.added place differs
  exact ⟨free, made, above, .head found isAbove, named⟩

end Grows

theorem grows_createDirectory (ok : disk.createDirectory path = .ok after) :
    Grows path disk after := by
  rw [createDirectory, bind_eq] at ok
  obtain ⟨found, sought, ok⟩ := bind_eq_ok.1 ok
  cases found with
  | none => cases ok
  | some target =>
    dsimp only at ok
    split at ok
    · cases ok
    · next proper =>
      obtain ⟨_, short, ok⟩ := bind_eq_ok.1 ok
      split at ok
      · cases ok
      · next free =>
        cases ok
        have targets := targets_of_target sought
        rw [isSome_node?, Bool.not_eq_true, Option.isSome_eq_false_iff, Option.isNone_iff_eq_none]
          at free
        have notDirectory : disk.entryAt target.place ≠ some .directory := by
          rw [Target.place, free]
          exact fun same => nomatch same
        have kept := targets.keeps_put Node.isLeaf_empty notDirectory
        have made := targets.entryAt_put Node.isLeaf_empty notDirectory
        refine ⟨kept, fun place differs => ?_⟩
        rw [made] at differs
        split at differs
        · next here =>
          subst here
          have isDirectory := (made target.place).trans (if_pos rfl)
          exact ⟨free, isDirectory, path, .refl, targets.resolve kept proper short
            (by rw [isDirectory]; rfl) (.inl isDirectory)⟩
        · exact absurd rfl differs

/-- Whatever comes of making directories, only directories are added, on the way that was asked. -/
theorem grows_createDirectories (disk : Disk) (path : String) :
    Grows path disk (disk.createDirectories path).2 := by
  fun_induction createDirectories disk path with
  | case1 => exact .refl _ _
  | case2 path _ after made => exact grows_createDirectory made
  | case3 => exact .refl _ _
  | case4 path _ _ parent found _ error after stopped ih =>
    rw [stopped] at ih
    exact ih.of_parent found
  | case5 path _ _ parent found _ between above after made ih =>
    rw [above] at ih
    exact (ih.of_parent found).trans (grows_createDirectory made)
  | case6 path settle _ _ parent found _ after above error _ ih =>
    rw [above] at ih
    have same : (settle after error).2 = after := by
      dsimp only [settle]
      split <;> rfl
    rw [same]
    exact ih.of_parent found
  | case7 path settle _ error _ _ =>
    have same : (settle disk error).2 = disk := by
      dsimp only [settle]
      split <;> rfl
    rw [same]
    exact .refl _ _

/-! Writing a file. -/

theorem write_eq_ok (ok : disk.write path text = .ok after) : Keeps disk after ∧
    ∃ place, after.resolve path = .ok place ∧
      ∀ other, after.entryAt other =
        if other = place then some (.file (Text.utf8 text)) else disk.entryAt other := by
  rw [write, bind_eq] at ok
  obtain ⟨found, sought, ok⟩ := bind_eq_ok.1 ok
  cases found with
  | none => cases ok
  | some target =>
    dsimp only at ok
    split at ok
    · cases ok
    · next proper =>
      obtain ⟨noSlash, proper⟩ := not_or.1 proper
      obtain ⟨_, short, ok⟩ := bind_eq_ok.1 ok
      split at ok
      · cases ok
      · next notDirectory =>
        cases ok
        have targets := targets_of_target sought
        have free : disk.entryAt target.place ≠ some .directory := by
          intro isDirectory
          obtain ⟨node, stands, kind⟩ := Option.map_eq_some_iff.1 isDirectory
          cases node with
          | file bytes => cases kind
          | directory entries => exact notDirectory entries stands
        have kept := targets.keeps_put (Node.isLeaf_file (Text.utf8 text)) free
        have made := targets.entryAt_put (Node.isLeaf_file (Text.utf8 text)) free
        exact ⟨kept, target.place, targets.resolve kept proper short (by rw [made, if_pos rfl]; rfl)
          (.inr (by simpa using noSlash)), made⟩

end Disk

end ShapeInference.Files
