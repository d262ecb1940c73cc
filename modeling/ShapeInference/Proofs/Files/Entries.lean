import ShapeInference.Files.Change
import ShapeInference.Proofs.Members
import ShapeInference.Proofs.Outcome

/-! What stands at each place of a disk, and the places that paths resolve to.

A place holds a file with its bytes or a directory, whatever is in the directory. In this view a
node that is put at a free place changes that place alone. Directories that stay keep every path
that resolves where it was.
-/

set_option autoImplicit false

namespace ShapeInference.Files

inductive Entry where
  | file (bytes : List UInt8)
  | directory
  deriving DecidableEq, Repr

namespace Node

def entry : Node → Entry
  | .file bytes => .file bytes
  | .directory _ => .directory

def entryAt (node : Node) (place : Place) : Option Entry := (node.find? place).map entry

def IsLeaf (node : Node) : Prop := ∀ name rest, node.entryAt (name :: rest) = none

variable {node root new : Node} {name : String} {rest directory place : Place}
variable {entries : List (String × Node)}

@[simp] theorem entryAt_nil (node : Node) : node.entryAt [] = some node.entry := by
  simp [entryAt, find?]

@[simp] theorem entryAt_file {bytes : List UInt8} : (file bytes).entryAt (name :: rest) = none := by
  simp [entryAt, find?]

@[simp] theorem entryAt_directory : (Node.directory entries).entryAt (name :: rest) =
    (entries.lookup name).bind (·.entryAt rest) := by
  rw [entryAt, find?]
  cases entries.lookup name <;> rfl

theorem isLeaf_file (bytes : List UInt8) : IsLeaf (.file bytes) := fun _ _ => entryAt_file

theorem isLeaf_empty : IsLeaf (.directory []) := fun _ _ => entryAt_directory

theorem isLeaf_of_entry (noDirectory : node.entry ≠ .directory) : node.IsLeaf := by
  cases node with
  | file bytes => exact isLeaf_file bytes
  | directory entries => exact absurd rfl noDirectory

theorem put_cons (way : rest ≠ []) : (Node.directory entries).put (name :: rest) new =
    match entries.lookup name with
    | some node => .directory (Members.insert entries name (node.put rest new))
    | none => .directory entries := by
  cases rest with
  | nil => exact absurd rfl way
  | cons => rfl

/-- A leaf that is put where no directory stands changes no other place. -/
theorem entryAt_put (leaf : new.IsLeaf) (way : root.entryAt directory = some .directory)
    (free : root.entryAt (directory ++ [name]) ≠ some .directory) :
    (root.put (directory ++ [name]) new).entryAt place =
      if place = directory ++ [name] then some new.entry else root.entryAt place := by
  induction directory generalizing root place with
  | nil =>
    cases root with
    | file bytes => simp [entry] at way
    | directory entries =>
      rw [List.nil_append, put]
      cases place with
      | nil => simp [entry]
      | cons first below =>
        rw [entryAt_directory, entryAt_directory, Members.lookup_insert]
        by_cases same : first = name
        · subst same
          cases below with
          | nil => simp
          | cons =>
            cases old : entries.lookup first with
            | none => simp [leaf _ _]
            | some node =>
              have isLeaf : node.IsLeaf := isLeaf_of_entry (by simpa [old] using free)
              simp [leaf _ _, isLeaf _ _]
        · simp [same]
  | cons step directory ih =>
    cases root with
    | file bytes => simp at way
    | directory entries =>
      rw [entryAt_directory] at way
      rw [List.cons_append, entryAt_directory] at free
      obtain ⟨node, found, deeper⟩ := Option.bind_eq_some_iff.1 way
      rw [found, Option.bind_some] at free
      rw [List.cons_append, put_cons (by simp), found]
      cases place with
      | nil => simp [entry]
      | cons first below =>
        rw [entryAt_directory, entryAt_directory, Members.lookup_insert]
        by_cases same : first = step
        · subst same
          simpa [found] using ih deeper free
        · simp [same]

theorem find?_append (node : Node) (place below : Place) :
    node.find? (place ++ below) = (node.find? place).bind (·.find? below) := by
  induction place generalizing node with
  | nil => rfl
  | cons step rest ih =>
    cases node with
    | file bytes => rfl
    | directory entries =>
      simp only [List.cons_append, find?]
      cases entries.lookup step with
      | none => rfl
      | some node => exact ih node

end Node

namespace Disk

variable {disk before after : Disk} {place next : Place} {name path : String}

def entryAt (disk : Disk) (place : Place) : Option Entry := disk.root.entryAt place

theorem isSome_node? : (disk.node? place).isSome = (disk.entryAt place).isSome := by
  rw [entryAt, Node.entryAt, Option.isSome_map, node?]

theorem entriesAt_eq_ok {found : List String} (ok : disk.entriesAt place = .ok found) :
    disk.entryAt place = some .directory ∧
      ∀ name, name ∈ found ↔ (disk.entryAt (place ++ [name])).isSome = true := by
  unfold entriesAt at ok
  split at ok
  · next entries at_place =>
    cases ok
    rw [node?] at at_place
    refine ⟨by simp [entryAt, Node.entryAt, at_place, Node.entry], fun name => ?_⟩
    rw [entryAt, Node.entryAt, Node.find?_append, at_place, Option.bind_some, Option.isSome_map,
      Node.find?, ← Members.keys, ← Members.isSome_lookup]
    cases entries.lookup name <;> simp [Node.find?]
  · cases ok
  · cases ok

theorem exists_entriesAt (isDirectory : disk.entryAt place = some .directory) :
    ∃ found, disk.entriesAt place = .ok found := by
  unfold entriesAt
  rw [entryAt, Node.entryAt, Option.map_eq_some_iff] at isDirectory
  obtain ⟨node, at_place, kind⟩ := isDirectory
  cases node with
  | file bytes => cases kind
  | directory entries => exact ⟨_, by rw [node?, at_place]⟩

inductive Leads (disk : Disk) (place : Place) : String → Place → Prop where
  | stay {name : String} (blank : name = "" ∨ name = ".") : Leads disk place name place
  | up : Leads disk place ".." place.dropLast
  | down {name : String} (proper : ¬(name = "" ∨ name = ".") ∧ name ≠ "..")
      (short : checkName name = .ok ()) (present : (disk.entryAt (place ++ [name])).isSome = true) :
      Leads disk place name (place ++ [name])

theorem enter_eq_ok : disk.enter place name = .ok next ↔
    disk.entryAt place = some .directory ∧ Leads disk place name next := by
  rw [enter, bind_eq, bind_eq_ok]
  constructor
  · rintro ⟨found, listed, ok⟩
    obtain ⟨isDirectory, known⟩ := entriesAt_eq_ok listed
    refine ⟨isDirectory, ?_⟩
    split at ok
    · next blank =>
      cases ok
      exact .stay blank
    · next solid =>
      split at ok
      · next back =>
        cases ok
        exact back ▸ .up
      · next forth =>
        obtain ⟨_, short, ok⟩ := bind_eq_ok.1 ok
        split at ok
        · next inside =>
          cases ok
          exact .down ⟨solid, forth⟩ short ((known name).1 inside)
        · cases ok
  · rintro ⟨isDirectory, leads⟩
    obtain ⟨found, listed⟩ := exists_entriesAt isDirectory
    refine ⟨found, listed, ?_⟩
    cases leads with
    | stay blank => rw [if_pos blank]
    | up => rfl
    | down proper short present =>
      rw [if_neg proper.1, if_neg proper.2, short]
      exact if_pos (((entriesAt_eq_ok listed).2 name).2 present)

/-! Disks that keep what another one has. -/

/-- Directories stay directories, and nothing vanishes. -/
structure Keeps (before after : Disk) : Prop where
  here : after.here = before.here
  directory : ∀ place, before.entryAt place = some .directory →
    after.entryAt place = some .directory
  present : ∀ place, (before.entryAt place).isSome = true → (after.entryAt place).isSome = true

namespace Keeps

theorem refl (disk : Disk) : Keeps disk disk := ⟨rfl, fun _ => id, fun _ => id⟩

theorem trans {first second third : Disk} (h : Keeps first second) (h' : Keeps second third) :
    Keeps first third :=
  ⟨h'.here.trans h.here, fun place => h'.directory place ∘ h.directory place,
    fun place => h'.present place ∘ h.present place⟩

theorem enter (kept : Keeps before after) (ok : before.enter place name = .ok next) :
    after.enter place name = .ok next := by
  rw [enter_eq_ok] at ok ⊢
  refine ⟨kept.directory _ ok.1, ?_⟩
  cases ok.2 with
  | stay blank => exact .stay blank
  | up => exact .up
  | down proper short present => exact .down proper short (kept.present _ present)

theorem foldlM_enter (kept : Keeps before after) {way : List String}
    (ok : way.foldlM before.enter place = .ok next) : way.foldlM after.enter place = .ok next := by
  induction way generalizing place with
  | nil => exact ok
  | cons name way ih =>
    rw [List.foldlM_cons, bind_eq, bind_eq_ok] at ok ⊢
    obtain ⟨first, entered, ok⟩ := ok
    exact ⟨first, kept.enter entered, ih ok⟩

theorem start (kept : Keeps before after) (path : String) : after.start path = before.start path := by
  rw [Disk.start, Disk.start, kept.here]

theorem resolve (kept : Keeps before after) (ok : before.resolve path = .ok place) :
    after.resolve path = .ok place := by
  rw [Disk.resolve, bind_eq, bind_eq_ok] at ok ⊢
  obtain ⟨checked, valid, ok⟩ := ok
  rw [kept.start]
  exact ⟨checked, valid, kept.foldlM_enter ok⟩

end Keeps

end Disk

end ShapeInference.Files
