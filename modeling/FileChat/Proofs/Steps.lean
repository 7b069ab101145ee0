/-
# Work in steps

What is done in steps that can fail succeeds with all of them and fails with the first of them that
fails.
-/

namespace FileChat

variable {ε δ α β : Type} {result : α}

/-- Work in steps succeeds exactly if each step does. -/
theorem bind_eq_ok {x : Except ε β} {f : β → Except ε α} :
    (x >>= f) = .ok result ↔ ∃ value, x = .ok value ∧ f value = .ok result := by
  cases x with
  | error cause => simp [bind, Except.bind]
  | ok value => simp [bind, Except.bind]

/-- Work in steps fails with the first of them that fails. -/
theorem bind_eq_error {x : Except ε β} {f : β → Except ε α} {cause : ε} :
    (x >>= f) = .error cause ↔
      x = .error cause ∨ ∃ value, x = .ok value ∧ f value = .error cause := by
  cases x with
  | error cause => simp [bind, Except.bind]
  | ok value => simp [bind, Except.bind]

@[simp]
theorem pure_eq_ok {value : α} : (pure value : Except ε α) = .ok result ↔ value = result := by
  simp [pure, Except.pure]

/-- Naming a failure in another way does not touch a success. -/
theorem mapError_eq_ok {x : Except ε α} {f : ε → δ} :
    x.mapError f = .ok result ↔ x = .ok result := by
  cases x with
  | error cause =>
      have hfailed : Except.mapError f (.error cause : Except ε α) = .error (f cause) := rfl
      simp [hfailed]
  | ok value =>
      have hsame : Except.mapError f (.ok value : Except ε α) = .ok value := rfl
      simp [hsame]

@[simp]
theorem ok_bind (value : β) (f : β → Except ε α) :
    (Except.ok value >>= f : Except ε α) = f value := rfl

/-- Going on where nothing was found to be wrong. -/
theorem elim_error_bind (fault : Option ε) (value : β) (f : β → Except ε α) :
    (fault.elim (.ok value) .error : Except ε β) >>= f = fault.elim (f value) .error := by
  cases fault <;> rfl

end FileChat
