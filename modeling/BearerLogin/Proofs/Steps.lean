import Mathlib

/-! Steps that read and change a state and may fail, such as those of a login or of a validator, run
from a given state. -/

namespace BearerLogin

/-- A result that goes on succeeds where both parts succeed. -/
theorem bind_eq_ok {result : Except ε α} {f : α → Except ε β} {b : β} :
    (result >>= f) = .ok b ↔ ∃ a, result = .ok a ∧ f a = .ok b := by
  rcases result with error | a
  · constructor
    · intro h
      cases h
    · rintro ⟨a, h, -⟩
      cases h
  · constructor
    · intro h
      exact ⟨a, rfl, h⟩
    · rintro ⟨_, h, hf⟩
      cases h
      exact hf

/-- A result that goes on fails where one of both parts fails. -/
theorem bind_eq_error {result : Except ε α} {f : α → Except ε β} {error : ε} :
    (result >>= f) = .error error ↔
      result = .error error ∨ ∃ a, result = .ok a ∧ f a = .error error := by
  rcases result with other | a
  · constructor
    · intro h
      cases h
      exact .inl rfl
    · rintro (h | ⟨_, h, -⟩) <;> cases h
      rfl
  · constructor
    · intro h
      exact .inr ⟨a, rfl, h⟩
    · rintro (h | ⟨_, h, hf⟩)
      · cases h
      · cases h
        exact hf

theorem mapError_eq_ok {result : Except ε α} {f : ε → ε'} {a : α} :
    result.mapError f = .ok a ↔ result = .ok a := by
  rcases result with error | b
  · simp [Except.mapError]
  · simp [Except.mapError]

theorem mapError_eq_error {result : Except ε α} {f : ε → ε'} {error : ε'} :
    result.mapError f = .error error ↔ ∃ inner, result = .error inner ∧ f inner = error := by
  rcases result with inner | a
  · simp [Except.mapError]
  · simp [Except.mapError]

/-- A result behind a check succeeds where the check finds nothing and the result succeeds. -/
theorem ite_error_eq_ok {fails : Prop} [Decidable fails] {error : ε} {result : Except ε α} {a : α} :
    (if fails then .error error else result) = .ok a ↔ ¬fails ∧ result = .ok a := by
  split
  · next failed => simp [failed]
  · next passed => simp [passed]

theorem eq_ok_of_toOption {result : Except ε α} {a : α} (h : result.toOption = some a) :
    result = .ok a := by
  rcases result with error | b
  · cases h
  · cases h
    rfl

/-- All failures of a result have a property. -/
def Fails (property : ε → Prop) (result : Except ε α) : Prop :=
  ∀ error, result = .error error → property error

namespace Fails

variable {property : ε → Prop}

theorem ok (a : α) : Fails property (.ok a) := by
  intro error failed
  cases failed

theorem error {error : ε} (has : property error) :
    Fails property (.error error : Except ε α) := by
  intro other failed
  cases failed
  exact has

theorem bind {result : Except ε α} {f : α → Except ε β} (first : Fails property result)
    (rest : ∀ a, Fails property (f a)) : Fails property (result >>= f) := by
  intro error failed
  obtain failed | ⟨a, -, failed⟩ := bind_eq_error.mp failed
  · exact first error failed
  · exact rest a error failed

theorem map {result : Except ε α} {f : α → β} (fails : Fails property result) :
    Fails property (f <$> result) := by
  rcases result with cause | a
  · exact error (fails cause rfl)
  · exact ok (f a)

theorem mapError {inner : ε' → Prop} {result : Except ε' α} {f : ε' → ε}
    (fails : Fails inner result) (carries : ∀ error, inner error → property (f error)) :
    Fails property (result.mapError f) := by
  intro error failed
  obtain ⟨cause, original, rfl⟩ := mapError_eq_error.mp failed
  exact carries cause (fails cause original)

/-- Whatever the failures of a result are, they have a property once they are translated. -/
theorem of_mapError {result : Except ε' α} {f : ε' → ε} (always : ∀ error, property (f error)) :
    Fails property (result.mapError f) :=
  mapError (fun _ _ => trivial : Fails (fun _ => True) result) fun error _ => always error

end Fails

namespace Steps

variable (m : ExceptT ε (StateM σ) α) (state : σ)

theorem run_bind (f : α → ExceptT ε (StateM σ) β) :
    (m >>= f).run state = match m.run state with
      | (.ok a, after) => (f a).run after
      | (.error error, after) => (.error error, after) := by
  simp only [bind, ExceptT.bind, ExceptT.run, ExceptT.mk, StateT.bind, ExceptT.bindCont]
  rcases m state with ⟨_ | _, after⟩ <;> rfl

theorem run_tryCatch (f : ε → ExceptT ε (StateM σ) α) :
    (tryCatch m f).run state = match m.run state with
      | (.ok a, after) => (.ok a, after)
      | (.error error, after) => (f error).run after := by
  simp only [tryCatch, tryCatchThe, MonadExceptOf.tryCatch, ExceptT.tryCatch, ExceptT.run,
    ExceptT.mk, bind, StateT.bind]
  rcases m state with ⟨_ | _, after⟩ <;> rfl

@[simp] theorem run_pure (a : α) :
    (pure a : ExceptT ε (StateM σ) α).run state = (.ok a, state) := rfl

@[simp] theorem run_throw (error : ε) :
    (throw error : ExceptT ε (StateM σ) α).run state = (.error error, state) := rfl

@[simp] theorem run_get : (get : ExceptT ε (StateM σ) σ).run state = (.ok state, state) := rfl

@[simp] theorem run_set (next : σ) :
    (set next : ExceptT ε (StateM σ) PUnit).run state = (.ok ⟨⟩, next) := rfl

@[simp] theorem run_ofExcept (result : Except ε α) :
    (ofExcept result : ExceptT ε (StateM σ) α).run state = (result, state) := by
  cases result <;> rfl

end Steps

end BearerLogin
