import ShapeInference.Log.Event

/-! A computation that may fail, with the events it reported until then. -/

set_option autoImplicit false

namespace ShapeInference

structure Logged (ε α : Type) where
  outcome : Except ε α
  events : List Event := []

namespace Logged

variable {ε α β : Type}

instance : Monad (Logged ε) where
  pure a := ⟨.ok a, []⟩
  bind x f :=
    match x with
    | ⟨.error e, events⟩ => ⟨.error e, events⟩
    | ⟨.ok a, events⟩ => ⟨(f a).outcome, events ++ (f a).events⟩

def ofExcept (outcome : Except ε α) : Logged ε α := ⟨outcome, []⟩

def report (event : Event) : Logged ε Unit := ⟨.ok (), [event]⟩

def reportAll (events : List Event) : Logged ε Unit := ⟨.ok (), events⟩

/-- The same computation with another form of error. -/
def mapError {ε' : Type} (f : ε → ε') (x : Logged ε α) : Logged ε' α := ⟨x.outcome.mapError f, x.events⟩

@[simp] theorem outcome_pure (a : α) : (pure a : Logged ε α).outcome = .ok a := rfl

@[simp] theorem outcome_bind (x : Logged ε α) (f : α → Logged ε β) :
    (x >>= f).outcome = x.outcome.bind fun a => (f a).outcome := by
  obtain ⟨outcome, events⟩ := x
  cases outcome <;> rfl

@[simp] theorem outcome_map (x : Logged ε α) (f : α → β) :
    (f <$> x).outcome = x.outcome.map f := by
  obtain ⟨outcome, events⟩ := x
  cases outcome <;> rfl

@[simp] theorem outcome_ofExcept (outcome : Except ε α) : (ofExcept outcome).outcome = outcome := rfl

@[simp] theorem outcome_report (event : Event) : (report event : Logged ε Unit).outcome = .ok () := rfl

@[simp] theorem outcome_reportAll (events : List Event) :
    (reportAll events : Logged ε Unit).outcome = .ok () := rfl

@[simp] theorem outcome_mapError {ε' : Type} (f : ε → ε') (x : Logged ε α) :
    (x.mapError f).outcome = x.outcome.mapError f := rfl

end Logged

end ShapeInference
