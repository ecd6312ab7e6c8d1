/-!
# Steps that may fail

When a step after another one succeeds, and what the two leave behind when failures keep a state.
-/

namespace HMSignature

variable {ε α β : Type}

theorem ok_bind (a : α) (f : α → Except ε β) : (Except.ok a >>= f) = f a :=
  rfl

theorem bind_eq_ok_iff {x : Except ε α} {f : α → Except ε β} {b : β} :
    x >>= f = .ok b ↔ ∃ a, x = .ok a ∧ f a = .ok b := by
  cases x with
  | error e =>
    constructor
    · intro h
      cases h
    · rintro ⟨a, h, -⟩
      cases h
  | ok a =>
    constructor
    · intro h
      exact ⟨a, rfl, h⟩
    · rintro ⟨a', h, h'⟩
      cases h
      exact h'

theorem bind_eq_error_iff {x : Except ε α} {f : α → Except ε β} {e : ε} :
    x >>= f = .error e ↔ x = .error e ∨ ∃ a, x = .ok a ∧ f a = .error e := by
  cases x with
  | error e' =>
    constructor
    · intro h
      cases h
      exact .inl rfl
    · rintro (h | ⟨a, h, -⟩)
      · cases h
        rfl
      · cases h
  | ok a =>
    constructor
    · intro h
      exact .inr ⟨a, rfl, h⟩
    · rintro (h | ⟨a', h, h'⟩)
      · cases h
      · cases h
        exact h'

theorem ok_eq_ok_iff {a b : α} : (Except.ok a : Except ε α) = .ok b ↔ b = a :=
  ⟨fun h => (Except.ok.inj h).symm, fun h => congrArg Except.ok h.symm⟩

/-- A step that succeeds, where its condition holds. -/
theorem ok_eq_ok_iff_of {a b : α} {p : Prop} (holds : p) : (Except.ok a : Except ε α) = .ok b ↔ p ∧ b = a := by
  rw [ok_eq_ok_iff]
  exact ⟨fun same => ⟨holds, same⟩, fun both => both.2⟩

/-- A step that fails, where its condition does not hold. -/
theorem error_eq_ok_iff_of {e : ε} {a b : α} {p : Prop} (fails : ¬p) :
    (Except.error e : Except ε α) = .ok b ↔ p ∧ b = a := by
  constructor
  · intro h
    cases h
  · intro both
    exact absurd both.1 fails

/-- A first step that succeeds under a condition and then in one way. -/
theorem bind_eq_ok_iff_of_unique {x : Except ε α} {f : α → Except ε β} {b : β} {p : Prop} {a : α}
    (h : ∀ a', x = .ok a' ↔ p ∧ a' = a) : x >>= f = .ok b ↔ p ∧ f a = .ok b := by
  rw [bind_eq_ok_iff]
  constructor
  · rintro ⟨a', first, second⟩
    obtain ⟨condition, rfl⟩ := (h a').mp first
    exact ⟨condition, second⟩
  · rintro ⟨condition, second⟩
    exact ⟨a, (h a).mpr ⟨condition, rfl⟩, second⟩

/-- Two steps that both have to succeed. -/
theorem bind_bind_eq_ok_iff {γ : Type} {x : Except ε α} {y : Except ε β} {f : α → β → γ} {c : γ} :
    (do let a ← x; let b ← y; .ok (f a b)) = Except.ok c ↔ ∃ a b, x = .ok a ∧ y = .ok b ∧ c = f a b := by
  rw [bind_eq_ok_iff]
  refine exists_congr fun a => ?_
  rw [bind_eq_ok_iff]
  constructor
  · rintro ⟨first, b, second, h⟩
    exact ⟨b, first, second, ok_eq_ok_iff.mp h⟩
  · rintro ⟨b, first, second, rfl⟩
    exact ⟨first, b, second, rfl⟩

theorem map_eq_ok_iff {f : α → β} {x : Except ε α} {b : β} : f <$> x = .ok b ↔ ∃ a, x = .ok a ∧ b = f a := by
  cases x with
  | error e =>
    constructor
    · intro h
      cases h
    · rintro ⟨a, h, -⟩
      cases h
  | ok a =>
    refine ok_eq_ok_iff.trans ⟨fun h => ⟨a, rfl, h⟩, ?_⟩
    rintro ⟨a', h, rfl⟩
    cases h
    rfl

/-! ## Outcomes up to a view of the errors -/

theorem mapError_eq_ok_iff {ε' : Type} {view : ε → ε'} {x : Except ε α} {a : α} :
    x.mapError view = .ok a ↔ x = .ok a := by
  cases x with
  | ok b => exact ⟨fun h => congrArg Except.ok (Except.ok.inj h), fun h => congrArg Except.ok (Except.ok.inj h)⟩
  | error e =>
    constructor
    · intro h
      cases h
    · intro h
      cases h

/-- Steps that agree up to a view of their errors, one after the other. -/
theorem mapError_bind_congr {ε' : Type} {view : ε → ε'} {x y : Except ε α} {f g : α → Except ε β}
    (first : x.mapError view = y.mapError view) (second : ∀ a, (f a).mapError view = (g a).mapError view) :
    (x >>= f).mapError view = (y >>= g).mapError view := by
  cases x with
  | ok a =>
    cases y with
    | ok a' =>
      cases first
      exact second a
    | error e => cases first
  | error e =>
    cases y with
    | ok a => cases first
    | error e' => exact congrArg Except.error (Except.error.inj first)

/-- A view of errors that are wrapped is the view of what is inside. -/
theorem mapError_mapError {ε' ε'' : Type} (wrap : ε → ε') (view : ε' → ε'') (x : Except ε α) :
    (x.mapError wrap).mapError view = x.mapError (view ∘ wrap) := by
  cases x <;> rfl

/-! ## Steps with a state -/

theorem run_bind {σ : Type} (step : ExceptT ε (StateM σ) α) (next : α → ExceptT ε (StateM σ) β) (s : σ) :
    (step >>= next).run s =
      match step.run s with
      | (.ok a, after) => (next a).run after
      | (.error e, after) => (.error e, after) := by
  simp only [ExceptT.run_bind]
  simp only [bind, StateT.bind]
  cases step.run s with
  | mk outcome after => cases outcome <;> rfl

/-- A step that fails is the end, whatever comes after it. -/
theorem run_bind_of_error {σ : Type} {step : ExceptT ε (StateM σ) α} {next : α → ExceptT ε (StateM σ) β} {s : σ} {e : ε}
    (fails : (step.run s).1 = .error e) : ((step >>= next).run s).1 = .error e := by
  rw [run_bind]
  revert fails
  cases step.run s with
  | mk outcome after =>
    rintro rfl
    rfl

end HMSignature
