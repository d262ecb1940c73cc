/-! Outcomes of computations that may fail.

`Yields` tells what is known of the value and of the error, and two outcomes are the `Same` if they
differ in no more than their errors. Related values are compared in both directions or in one.
-/

set_option autoImplicit false

namespace ShapeInference

theorem bind_eq_ok {ε α β : Type} {x : Except ε α} {f : α → Except ε β} {b : β} :
    x.bind f = .ok b ↔ ∃ a, x = .ok a ∧ f a = .ok b := by
  cases x <;> simp [Except.bind]

theorem map_eq_ok {ε α β : Type} {x : Except ε α} {f : α → β} {b : β} :
    x.map f = .ok b ↔ ∃ a, x = .ok a ∧ f a = b := by
  cases x <;> simp [Except.map]

theorem mapError_eq_ok {ε ε' α : Type} {x : Except ε α} {f : ε → ε'} {a : α} :
    x.mapError f = .ok a ↔ x = .ok a := by
  cases x with
  | error e => constructor <;> · intro same; cases same
  | ok b => constructor <;> · intro same; cases same; rfl

theorem bind_map {ε α β γ : Type} (x : Except ε α) (f : α → β) (g : β → Except ε γ) :
    (x.map f).bind g = x.bind fun a => g (f a) := by
  cases x <;> rfl

theorem map_bind {ε α β γ : Type} (x : Except ε α) (f : α → Except ε β) (g : β → γ) :
    (x.bind f).map g = x.bind fun a => (f a).map g := by
  cases x <;> rfl

theorem bind_eq {ε α β : Type} (x : Except ε α) (f : α → Except ε β) : x >>= f = x.bind f := rfl

theorem mapM_append_eq_ok {ε α β : Type} {f : α → Except ε β} {left right : List α}
    {values : List β} : (left ++ right).mapM f = .ok values ↔
      ∃ front back, left.mapM f = .ok front ∧ right.mapM f = .ok back ∧
        front ++ back = values := by
  rw [List.mapM_append]
  cases left.mapM f with
  | error e => simp [bind_eq, Except.bind]
  | ok front => cases right.mapM f <;> simp [bind_eq, Except.bind, pure, Except.pure]

def Yields {ε α : Type} (E : ε → Prop) (Q : α → Prop) : Except ε α → Prop
  | .ok a => Q a
  | .error e => E e

namespace Yields

variable {ε α β : Type} {E : ε → Prop} {Q Q' : α → Prop} {R : β → Prop} {x : Except ε α}

theorem of_ok (h : Yields E Q x) {a : α} (same : x = .ok a) : Q a := by
  rw [same] at h
  exact h

theorem of_error (h : Yields E Q x) {e : ε} (same : x = .error e) : E e := by
  rw [same] at h
  exact h

theorem imp (h : Yields E Q x) (weaker : ∀ a, Q a → Q' a) : Yields E Q' x := by
  cases x with
  | error e => exact h
  | ok a => exact weaker a h

theorem map {f : α → β} (h : Yields E Q x) (step : ∀ a, Q a → R (f a)) : Yields E R (x.map f) := by
  cases x with
  | error e => exact h
  | ok a => exact step a h

theorem bind {f : α → Except ε β} (h : Yields E Q x)
    (step : ∀ a, x = .ok a → Q a → Yields E R (f a)) : Yields E R (x.bind f) := by
  cases x with
  | error e => exact h
  | ok a => exact step a rfl h

end Yields

/-- Both fail, or both succeed with the same value. -/
def Same {ε α : Type} (x y : Except ε α) : Prop := ∀ a, x = .ok a ↔ y = .ok a

namespace Same

variable {ε α β γ : Type} {x y z : Except ε α}

theorem refl (x : Except ε α) : Same x x := fun _ => Iff.rfl

theorem symm (h : Same x y) : Same y x := fun a => (h a).symm

theorem trans (h : Same x y) (h' : Same y z) : Same x z := fun a => (h a).trans (h' a)

theorem map (f : α → β) (h : Same x y) : Same (x.map f) (y.map f) := by
  intro b
  rw [map_eq_ok, map_eq_ok]
  exact exists_congr fun a => and_congr_left fun _ => h a

theorem bind (f : α → Except ε β) (h : Same x y) : Same (x.bind f) (y.bind f) := by
  intro b
  rw [bind_eq_ok, bind_eq_ok]
  exact exists_congr fun a => and_congr_left fun _ => h a

theorem bind_congr {f g : α → Except ε β} (each : ∀ a, x = .ok a → Same (f a) (g a)) :
    Same (x.bind f) (x.bind g) := by
  cases x with
  | error e => exact .refl _
  | ok a => exact each a rfl

theorem bind_comm (f : α → β → Except ε γ) (x : Except ε α) (y : Except ε β) :
    Same (x.bind fun a => y.bind fun b => f a b) (y.bind fun b => x.bind fun a => f a b) := by
  intro c
  simp only [bind_eq_ok]
  constructor
  · rintro ⟨a, left, b, right, ok⟩
    exact ⟨b, right, a, left, ok⟩
  · rintro ⟨b, right, a, left, ok⟩
    exact ⟨a, left, b, right, ok⟩

theorem of_exists (forward : ∀ a, x = .ok a → y = .ok a)
    (back : ∀ a, y = .ok a → ∃ b, x = .ok b) : Same x y := by
  refine fun a => ⟨forward a, fun ok => ?_⟩
  obtain ⟨b, before⟩ := back a ok
  cases ok.symm.trans (forward b before)
  exact before

theorem of_success (h : ∀ a, x = .ok a ∨ y = .ok a → Same x y) : Same x y :=
  fun a => ⟨fun ok => (h a (.inl ok) a).1 ok, fun ok => (h a (.inr ok) a).2 ok⟩

theorem mapError {ε' : Type} (x : Except ε α) (f g : ε → ε') :
    Same (x.mapError f) (x.mapError g) := by
  intro a
  rw [mapError_eq_ok, mapError_eq_ok]

theorem mapM {f g : α → Except ε β} (each : ∀ a, Same (f a) (g a)) (list : List α) :
    Same (list.mapM f) (list.mapM g) := by
  induction list with
  | nil => exact .refl _
  | cons a rest ih =>
    intro values
    rw [List.mapM_cons, List.mapM_cons]
    simp only [bind_eq, bind_eq_ok]
    exact exists_congr fun b => and_congr (each a b) <| exists_congr fun others =>
      and_congr_left fun _ => ih others

end Same

inductive Both {ε α β : Type} (R : α → β → Prop) : Except ε α → Except ε β → Prop where
  | ok {a : α} {b : β} : R a b → Both R (.ok a) (.ok b)
  | error (e e' : ε) : Both R (.error e) (.error e')

namespace Both

variable {ε α β α' β' : Type} {R : α → β → Prop} {R' : α' → β' → Prop}
variable {x : Except ε α} {y : Except ε β}

theorem of_ok (h : Both R x y) {a : α} {b : β} (left : x = .ok a) (right : y = .ok b) : R a b := by
  cases left
  cases right
  cases h with
  | ok related => exact related

theorem exists_ok_iff (h : Both R x y) : (∃ a, x = .ok a) ↔ ∃ b, y = .ok b := by
  cases h with
  | ok => exact iff_of_true ⟨_, rfl⟩ ⟨_, rfl⟩
  | error => constructor <;> · rintro ⟨_, same⟩; cases same

theorem of_exists_ok_iff (succeeds : (∃ a, x = .ok a) ↔ ∃ b, y = .ok b)
    (related : ∀ a b, x = .ok a → y = .ok b → R a b) : Both R x y := by
  cases x with
  | ok a =>
    obtain ⟨b, rfl⟩ := succeeds.1 ⟨a, rfl⟩
    exact .ok (related a b rfl rfl)
  | error e =>
    cases y with
    | ok b =>
      obtain ⟨_, same⟩ := succeeds.2 ⟨b, rfl⟩
      cases same
    | error e' => exact .error e e'

theorem reached (h : Both R x y) : Both (fun a b => x = .ok a ∧ R a b) x y := by
  cases h with
  | ok related => exact .ok ⟨rfl, related⟩
  | error e e' => exact .error e e'

theorem map {f : α → α'} {g : β → β'} (h : Both R x y) (step : ∀ a b, R a b → R' (f a) (g b)) :
    Both R' (x.map f) (y.map g) := by
  cases h with
  | ok related => exact .ok (step _ _ related)
  | error e e' => exact .error e e'

theorem bind {f : α → Except ε α'} {g : β → Except ε β'} (h : Both R x y)
    (step : ∀ a b, R a b → Both R' (f a) (g b)) : Both R' (x.bind f) (y.bind g) := by
  cases h with
  | ok related => exact step _ _ related
  | error e e' => exact .error e e'

end Both

def Leads {ε α β : Type} (R : α → β → Prop) (x : Except ε α) (y : Except ε β) : Prop :=
  ∀ a, x = .ok a → ∃ b, y = .ok b ∧ R a b

namespace Leads

variable {ε α β α' β' : Type} {R : α → β → Prop} {R' : α' → β' → Prop}
variable {x : Except ε α} {y : Except ε β}

theorem ok {a : α} {b : β} (related : R a b) : Leads (ε := ε) R (.ok a) (.ok b) := by
  intro c same
  cases same
  exact ⟨b, rfl, related⟩

theorem refl {R : α → α → Prop} (same : ∀ a, R a a) (x : Except ε α) : Leads R x x :=
  fun a left => ⟨a, left, same a⟩

theorem map {f : α → α'} {g : β → β'} (h : Leads R x y) (step : ∀ a b, R a b → R' (f a) (g b)) :
    Leads R' (x.map f) (y.map g) := by
  intro a' same
  obtain ⟨a, left, rfl⟩ := map_eq_ok.1 same
  obtain ⟨b, right, related⟩ := h a left
  exact ⟨g b, map_eq_ok.2 ⟨b, right, rfl⟩, step a b related⟩

theorem bind {f : α → Except ε α'} {g : β → Except ε β'} (h : Leads R x y)
    (step : ∀ a b, R a b → Leads R' (f a) (g b)) : Leads R' (x.bind f) (y.bind g) := by
  intro a' same
  obtain ⟨a, left, inner⟩ := bind_eq_ok.1 same
  obtain ⟨b, right, related⟩ := h a left
  obtain ⟨b', outer, related'⟩ := step a b related a' inner
  exact ⟨b', bind_eq_ok.2 ⟨b, right, outer⟩, related'⟩

end Leads

end ShapeInference
