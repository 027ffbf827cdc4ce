/-!
# SignedPayments.Proofs.Outcome

When steps that may fail give a result. A sequence does exactly if each of its steps
does, and it fails as the first step that does not. So what was done can be read off step
by step, without opening the steps.
-/

namespace SignedPayments

section Outcome

variable {ε α β : Type} {b : β} {e : ε}

theorem bind_eq_ok {x : Except ε α} {f : α → Except ε β} :
    (x >>= f) = .ok b ↔ ∃ a, x = .ok a ∧ f a = .ok b := by
  cases x with
  | error e => simp [bind, Except.bind]
  | ok a => simp [bind, Except.bind]

theorem bind_eq_error {x : Except ε α} {f : α → Except ε β} :
    (x >>= f) = .error e ↔ x = .error e ∨ ∃ a, x = .ok a ∧ f a = .error e := by
  cases x with
  | error e' => simp [bind, Except.bind]
  | ok a => simp [bind, Except.bind]

theorem map_eq_ok {x : Except ε α} {f : α → β} :
    x.map f = .ok b ↔ ∃ a, x = .ok a ∧ f a = b := by
  cases x with
  | error e => simp [Except.map]
  | ok a => simp [Except.map]

theorem pure_eq_ok {a : β} : (pure a : Except ε β) = .ok b ↔ a = b := by
  simp [pure, Except.pure]

/-- What comes after a refusal does not matter. -/
theorem refuse_eq_ok {p : Prop} [Decidable p] {e : ε} {f : α → Except ε β} {y : Except ε β} :
    (if p then throw e >>= f else y) = .ok b ↔ ¬p ∧ y = .ok b := by
  by_cases hp : p
  · simp [hp, bind, Except.bind, throw, throwThe, MonadExceptOf.throw]
  · simp [hp]

theorem refuse_eq_error {p : Prop} [Decidable p] {e' : ε} {f : α → Except ε β}
    {y : Except ε β} :
    (if p then throw e' >>= f else y) = .error e ↔ (p ∧ e' = e) ∨ (¬p ∧ y = .error e) := by
  by_cases hp : p
  · simp [hp, bind, Except.bind, throw, throwThe, MonadExceptOf.throw]
  · simp [hp]

/-- Both fail with the same error, or both give results, which are related. -/
inductive OutcomeRel {α' : Type} (R : α → α' → Prop) : Except ε α → Except ε α' → Prop
  | error (e : ε) : OutcomeRel R (.error e) (.error e)
  | ok {a : α} {a' : α'} : R a a' → OutcomeRel R (.ok a) (.ok a')

end Outcome

end SignedPayments
