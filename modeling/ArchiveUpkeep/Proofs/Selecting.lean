import ArchiveUpkeep.Worker.Proposals

/-! How a selection is read off its trace: what it gives, what it asks and what it reports, each
through the steps that it is made of. -/
namespace ArchiveUpkeep.Selecting

variable {α β : Type} {controller : Controller} {volume : String}

theorem mapError_eq_ok_iff {ε ε' : Type} {f : ε → ε'} {result : Except ε α} {a : α} :
    result.mapError f = .ok a ↔ result = .ok a := by
  cases result with
  | ok b =>
    constructor
    · rintro ⟨⟩
      rfl
    · rintro ⟨⟩
      rfl
  | error error => exact ⟨nofun, nofun⟩

theorem mapError_eq_error_iff {ε ε' : Type} {f : ε → ε'} {result : Except ε α} {error : ε'} :
    result.mapError f = .error error ↔ ∃ cause, result = .error cause ∧ f cause = error := by
  cases result with
  | ok b => exact ⟨nofun, nofun⟩
  | error cause =>
    constructor
    · intro same
      exact ⟨cause, rfl, Except.error.inj same⟩
    · rintro ⟨_, ⟨⟩, rfl⟩
      rfl

@[simp] theorem run_pure (a : α) : (pure a : Selecting α).run = pure (.ok a) := rfl

@[simp] theorem run_lift (x : Traced α) :
    (monadLift x : Selecting α).run = Except.ok <$> x := rfl

@[simp] theorem value_bind (first : Selecting α) (next : α → Selecting β) :
    (first >>= next).run.value = first.run.value.bind fun a => (next a).run.value := by
  rw [ExceptT.run_bind, Traced.bind_value]
  cases first.run.value <;> rfl

theorem queries_bind (first : Selecting α) (next : α → Selecting β) :
    (first >>= next).run.queries = first.run.queries ++
      match first.run.value with
      | .ok a => (next a).run.queries
      | .error _ => [] := by
  rw [ExceptT.run_bind, Traced.bind_queries]
  cases first.run.value <;> rfl

theorem events_bind (first : Selecting α) (next : α → Selecting β) :
    (first >>= next).run.events = first.run.events ++
      match first.run.value with
      | .ok a => (next a).run.events
      | .error _ => [] := by
  rw [ExceptT.run_bind, Traced.bind_events]
  cases first.run.value <;> rfl

/-- A selection of two steps gives something exactly if both do. -/
theorem bind_eq_ok_iff {first : Selecting α} {next : α → Selecting β} {b : β} :
    (first >>= next).run.value = .ok b ↔
      ∃ a, first.run.value = .ok a ∧ (next a).run.value = .ok b := by
  rw [value_bind]
  cases first.run.value with
  | error error => simp [Except.bind]
  | ok a => simp [Except.bind]

theorem bind_eq_error_iff {first : Selecting α} {next : α → Selecting β} {error : SelectionError} :
    (first >>= next).run.value = .error error ↔
      first.run.value = .error error ∨
        ∃ a, first.run.value = .ok a ∧ (next a).run.value = .error error := by
  rw [value_bind]
  cases first.run.value with
  | error error => simp [Except.bind]
  | ok a => simp [Except.bind]

@[simp] theorem value_require (query : Query) :
    (controller.require volume query).run.value =
      (controller.answer query).mapError (SelectionError.query volume) := rfl

@[simp] theorem queries_require (query : Query) :
    (controller.require volume query).run.queries = [query] := rfl

@[simp] theorem events_require (query : Query) :
    (controller.require volume query).run.events = [] := rfl

theorem require_eq_ok_iff {query : Query} {answer : query.Answer} :
    (controller.require volume query).run.value = .ok answer ↔
      controller.answer query = .ok answer :=
  mapError_eq_ok_iff

@[simp] theorem value_consistent (result : Except ChainError α) :
    (consistent volume result).run.value = result.mapError (.inconsistent volume) := rfl

@[simp] theorem events_consistent (result : Except ChainError α) :
    (consistent volume result).run.events = [] := rfl

theorem consistent_eq_ok_iff {result : Except ChainError α} {a : α} :
    (consistent volume result).run.value = .ok a ↔ result = .ok a :=
  mapError_eq_ok_iff

/-- A selection for a volume fails only at a query that it asked and that was not answered, or in
one of the ways that are expected of it. -/
def FailsOnly (controller : Controller) (volume : String) (expected : SelectionError → Prop)
    (selection : Selecting α) : Prop :=
  ∀ error, selection.run.value = .error error →
    expected error ∨ ∃ query ∈ selection.run.queries, ∃ cause,
      controller.answer query = .error cause ∧ error = .query volume cause

namespace FailsOnly
variable {expected other : SelectionError → Prop}

theorem pure (a : α) : FailsOnly controller volume expected (Pure.pure a) := by
  intro error failed
  simp at failed

theorem lift (x : Traced α) : FailsOnly controller volume expected (monadLift x) := by
  intro error failed
  simp at failed

theorem require (query : Query) :
    FailsOnly controller volume expected (controller.require volume query) := by
  intro error failed
  obtain ⟨cause, unanswered, rfl⟩ := mapError_eq_error_iff.1 failed
  exact .inr ⟨query, by simp, cause, unanswered, rfl⟩

theorem consistent {result : Except ChainError α}
    (foreseen : ∀ cause, result = .error cause → expected (.inconsistent volume cause)) :
    FailsOnly controller volume expected (ArchiveUpkeep.consistent volume result) := by
  intro error failed
  obtain ⟨cause, inconsistent, rfl⟩ := mapError_eq_error_iff.1 failed
  exact .inl (foreseen cause inconsistent)

theorem bind {first : Selecting α} {next : α → Selecting β}
    (head : FailsOnly controller volume expected first)
    (rest : ∀ a, FailsOnly controller volume expected (next a)) :
    FailsOnly controller volume expected (first >>= next) := by
  intro error failed
  rw [queries_bind]
  rcases bind_eq_error_iff.1 failed with failed | ⟨a, passed, failed⟩
  · refine (head error failed).imp_right ?_
    rintro ⟨query, asked, unanswered⟩
    exact ⟨query, List.mem_append_left _ asked, unanswered⟩
  · refine (rest a error failed).imp_right ?_
    rintro ⟨query, asked, unanswered⟩
    rw [passed]
    exact ⟨query, List.mem_append_right _ asked, unanswered⟩

/-- What is expected may be asked for together with the failure itself. -/
theorem weaken {selection : Selecting α} (fails : FailsOnly controller volume expected selection)
    (covers : ∀ error, selection.run.value = .error error → expected error → other error) :
    FailsOnly controller volume other selection :=
  fun error failed => (fails error failed).imp_left (covers error failed)

end FailsOnly

end ArchiveUpkeep.Selecting
