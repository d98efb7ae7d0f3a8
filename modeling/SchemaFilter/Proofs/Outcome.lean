/-!
# Steps that may fail

Compiling and evaluating go on to their next step only with the result of the step before. These
lemmas take such a computation apart when the outcome of its first step is known.

An outcome yields an answer up to some failures if it is that answer or one of the failures. This
carries over from steps to computations without asking which of the steps fails.
-/

namespace SchemaFilter.Outcome

variable {ε α β : Type}

@[simp] theorem ok_bind (a : α) (next : α → Except ε β) : (Except.ok a >>= next) = next a := rfl

@[simp] theorem error_bind (e : ε) (next : α → Except ε β) :
    (Except.error e >>= next) = Except.error e := rfl

@[simp] theorem pure_eq_ok (a : α) : (pure a : Except ε α) = Except.ok a := rfl

/-- Two steps succeed if the first one does and the second one does with its result. -/
theorem bind_eq_ok_iff {first : Except ε α} {next : α → Except ε β} {b : β} :
    (first >>= next) = .ok b ↔ ∃ a, first = .ok a ∧ next a = .ok b := by
  cases first with
  | error e =>
    refine iff_of_false (fun h => ?_) (by simp)
    cases h
  | ok a => simp

/-- Two steps fail if the first one does, or if it succeeds and the second one fails. -/
theorem bind_eq_error_iff {first : Except ε α} {next : α → Except ε β} {e : ε} :
    (first >>= next) = .error e ↔
      first = .error e ∨ ∃ a, first = .ok a ∧ next a = .error e := by
  cases first <;> simp

@[simp] theorem mapError_ok {ε' : Type} (tell : ε → ε') (a : α) :
    (Except.ok a : Except ε α).mapError tell = .ok a := rfl

@[simp] theorem mapError_error {ε' : Type} (tell : ε → ε') (e : ε) :
    (Except.error e : Except ε α).mapError tell = .error (tell e) := rfl

theorem mapError_eq_ok_iff {ε' : Type} {outcome : Except ε α} {tell : ε → ε'} {a : α} :
    outcome.mapError tell = .ok a ↔ outcome = .ok a := by
  cases outcome with
  | error e => simp
  | ok b => simp

theorem toOption_eq_some_iff {outcome : Except ε α} {a : α} :
    outcome.toOption = some a ↔ outcome = .ok a := by
  cases outcome with
  | error e => simp [Except.toOption]
  | ok b => simp [Except.toOption]

/-! ## Failures -/

def failure? : Except ε α → Option ε
  | .ok _ => none
  | .error e => some e

theorem failure?_eq_some_iff {outcome : Except ε α} {e : ε} :
    failure? outcome = some e ↔ outcome = .error e := by
  cases outcome <;> simp [failure?]

theorem failure?_eq_none_iff {outcome : Except ε α} :
    failure? outcome = none ↔ ∃ a, outcome = .ok a := by
  cases outcome <;> simp [failure?]

/-- Of two steps the first to fail counts, if the failure of the second does not depend on what the
first one finds. -/
theorem failure?_bind {first : Except ε α} {next : α → Except ε β} {later : Option ε}
    (h : ∀ a, failure? (next a) = later) :
    failure? (first >>= next) = (failure? first).or later := by
  cases first with
  | error e => rfl
  | ok a => exact h a

theorem failure?_bind_pure (first : Except ε α) (use : α → β) :
    failure? (first >>= fun a => pure (use a)) = failure? first := by
  cases first <;> rfl

/-! ## Answers up to failures -/

/-- Whether an outcome is an answer, unless it is one of the given failures. -/
def Yields (fails : ε → Prop) (a : α) (outcome : Except ε α) : Prop :=
  outcome = .ok a ∨ ∃ e, fails e ∧ outcome = .error e

variable {fails : ε → Prop}

theorem yields_ok (a : α) : Yields fails a (.ok a) :=
  .inl rfl

theorem Yields.mono {other : ε → Prop} {a : α} {outcome : Except ε α}
    (h : Yields fails a outcome) (le : ∀ e, fails e → other e) : Yields other a outcome := by
  rcases h with answered | ⟨e, he, failed⟩
  · exact .inl answered
  · exact .inr ⟨e, le e he, failed⟩

theorem Yields.eq_ok {a : α} {outcome : Except ε α} (h : Yields fails a outcome)
    (never : ∀ e, ¬fails e) : outcome = .ok a := by
  rcases h with answered | ⟨e, he, -⟩
  · exact answered
  · exact absurd he (never e)

/-- A second step answers after the first one has, or the first one has failed. -/
theorem Yields.bind {first : Except ε α} {next : α → Except ε β} {a : α} {b : β}
    (h : Yields fails a first) (hnext : Yields fails b (next a)) :
    Yields fails b (first >>= next) := by
  rcases h with rfl | ⟨e, he, rfl⟩
  · exact hnext
  · exact .inr ⟨e, he, rfl⟩

end SchemaFilter.Outcome
