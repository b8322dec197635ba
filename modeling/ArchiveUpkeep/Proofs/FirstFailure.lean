import ArchiveUpkeep.Proofs.AgreeingControllers
import ArchiveUpkeep.Proofs.MergeTiling

/-! The failures of a selection, told by what it has to get past. For a volume that is a list of
hurdles in a fixed order, most of them queries that have to be answered; which ones there are
depends on the answers before. The first hurdle that is not passed ends the selection with an error
of its own kind, and then the volume has no task at all, whatever was selected before and whatever
would have been selected after it. A replication is not on the way, since it fails by itself. -/
namespace ArchiveUpkeep

/-- What a selection has to get past. -/
inductive Hurdle where
  /-- A query, which has to be answered. -/
  | ask (query : Query)
  /-- The diffs among which a merge is chosen, the run of which must not be inverted. -/
  | merge (diffs : List Diff)

namespace Hurdle

/-- The queries that are asked at a hurdle. -/
def asks : Hurdle → List Query
  | ask query => [query]
  | merge _ => []

section Course
variable (worker : Worker) (controller : Controller) (now : Instant) (volume : String)

/-- How a hurdle ends the selection for a volume. -/
inductive Fails : Hurdle → SelectionError → Prop where
  | unanswered {query : Query} {cause : ControllerError}
      (refused : controller.answer query = .error cause) :
      Fails (.ask query) (.query volume cause)
  | inverted {diffs : List Diff} {lower upper : Gid}
      (leads : MergePolicy.Leads (worker.config.merge.chosenRun now diffs) lower upper)
      (back : upper < lower) :
      Fails (.merge diffs) (.inconsistent volume (.invertedRange lower upper))

def Passed (hurdle : Hurdle) : Prop := ∀ error, ¬ hurdle.Fails worker controller now volume error

/-- The error is that of the first hurdle that is not passed. -/
def FirstFailure (hurdles : List Hurdle) (error : SelectionError) : Prop :=
  ∃ before hurdle after, hurdles = before ++ hurdle :: after ∧
    hurdle.Fails worker controller now volume error ∧
    ∀ earlier ∈ before, earlier.Passed worker controller now volume

/-- What is asked on the way past some hurdles, and the error with which it ends if it does not lead
past all of them. -/
inductive Course : List Hurdle → List Query → Option SelectionError → Prop where
  | done : Course [] [] none
  | passed {hurdle : Hurdle} {rest : List Hurdle} {asked : List Query}
      {failure : Option SelectionError} (passed : hurdle.Passed worker controller now volume)
      (onward : Course rest asked failure) : Course (hurdle :: rest) (hurdle.asks ++ asked) failure
  | stopped {hurdle : Hurdle} {rest : List Hurdle} {error : SelectionError}
      (fails : hurdle.Fails worker controller now volume error) :
      Course (hurdle :: rest) hurdle.asks (some error)

end Course

variable {worker : Worker} {controller : Controller} {now : Instant} {volume : String}
  {hurdle : Hurdle} {hurdles more : List Hurdle} {asked alsoAsked : List Query}
  {failure : Option SelectionError} {error other : SelectionError} {query : Query}
  {diffs : List Diff} {cause : ControllerError} {inconsistency : ChainError}

theorem fails_ask_iff :
    (Hurdle.ask query).Fails worker controller now volume error ↔
      ∃ cause, controller.answer query = .error cause ∧ error = .query volume cause := by
  constructor
  · rintro ⟨refused⟩
    exact ⟨_, refused, rfl⟩
  · rintro ⟨cause, refused, rfl⟩
    exact .unanswered refused

theorem fails_merge_iff :
    (Hurdle.merge diffs).Fails worker controller now volume error ↔
      ∃ cause, worker.config.merge.scope now diffs = .error cause ∧
        error = .inconsistent volume cause := by
  simp only [MergePolicy.scope_eq_span, MergePolicy.span_eq_error_iff]
  constructor
  · rintro (_ | ⟨leads, back⟩)
    exact ⟨_, ⟨_, _, leads, back, rfl⟩, rfl⟩
  · rintro ⟨_, ⟨lower, upper, leads, back, rfl⟩, rfl⟩
    exact .inverted leads back

theorem Fails.unique (fails : hurdle.Fails worker controller now volume error)
    (again : hurdle.Fails worker controller now volume other) : error = other := by
  cases hurdle with
  | ask query =>
    obtain ⟨cause, refused, rfl⟩ := fails_ask_iff.1 fails
    obtain ⟨_, alsoRefused, rfl⟩ := fails_ask_iff.1 again
    cases refused.symm.trans alsoRefused
    rfl
  | merge diffs =>
    obtain ⟨cause, refused, rfl⟩ := fails_merge_iff.1 fails
    obtain ⟨_, alsoRefused, rfl⟩ := fails_merge_iff.1 again
    cases refused.symm.trans alsoRefused
    rfl

theorem Fails.volume_eq (fails : hurdle.Fails worker controller now volume error) :
    error.volume = volume := by
  cases fails <;> rfl

theorem passed_ask_iff :
    (Hurdle.ask query).Passed worker controller now volume ↔
      ∃ answer, controller.answer query = .ok answer := by
  simp only [Passed, fails_ask_iff]
  cases controller.answer query <;> simp

theorem not_firstFailure_nil : ¬ FirstFailure worker controller now volume [] error := by
  rintro ⟨before, hurdle, after, shape, -⟩
  simp at shape

theorem firstFailure_cons_iff :
    FirstFailure worker controller now volume (hurdle :: hurdles) error ↔
      hurdle.Fails worker controller now volume error ∨
        hurdle.Passed worker controller now volume ∧
          FirstFailure worker controller now volume hurdles error := by
  constructor
  · rintro ⟨_ | ⟨head, before⟩, failing, after, shape, fails, passed⟩
    · cases shape
      exact .inl fails
    · cases shape
      rw [List.forall_mem_cons] at passed
      exact .inr ⟨passed.1, before, failing, after, rfl, fails, passed.2⟩
  · rintro (fails | ⟨passed, before, failing, after, rfl, fails, others⟩)
    · exact ⟨[], hurdle, hurdles, rfl, fails, by simp⟩
    · exact ⟨hurdle :: before, failing, after, rfl, fails, List.forall_mem_cons.2 ⟨passed, others⟩⟩

namespace Course

/-- A course ends with the error of the first hurdle that is not passed. -/
theorem failure_eq_some_iff (course : Course worker controller now volume hurdles asked failure) :
    failure = some error ↔ FirstFailure worker controller now volume hurdles error := by
  induction course with
  | done => exact iff_of_false nofun not_firstFailure_nil
  | passed passed _ ih =>
    rw [firstFailure_cons_iff, or_iff_right (passed error), and_iff_right passed, ih]
  | stopped fails =>
    rw [firstFailure_cons_iff, Option.some.injEq]
    constructor
    · rintro rfl
      exact .inl fails
    · rintro (again | ⟨passed, -⟩)
      · exact fails.unique again
      · exact absurd fails (passed _)

/-- Of what was asked something is not answered exactly if that is how the course ends. -/
theorem unanswered_iff (course : Course worker controller now volume hurdles asked failure) :
    (∃ query ∈ asked, ∃ cause, controller.answer query = .error cause) ↔
      ∃ cause, failure = some (.query volume cause) := by
  induction course with
  | done => simp
  | @passed hurdle rest asked failure passed onward ih =>
    rw [← ih]
    cases hurdle with
    | ask query =>
      obtain ⟨answer, answered⟩ := passed_ask_iff.1 passed
      simp [asks, answered]
    | merge diffs => simp [asks]
  | stopped fails =>
    cases fails with
    | unanswered refused => simp [asks, refused]
    | inverted leads back => simp [asks]

theorem append (course : Course worker controller now volume hurdles asked none)
    (onward : Course worker controller now volume more alsoAsked failure) :
    Course worker controller now volume (hurdles ++ more) (asked ++ alsoAsked) failure := by
  induction hurdles generalizing asked with
  | nil =>
    cases course
    exact onward
  | cons hurdle rest ih =>
    cases course with
    | passed passed course =>
      rw [List.append_assoc]
      exact .passed passed (ih course)

/-- What would have come after a hurdle that is not passed plays no part. -/
theorem stopped_append (course : Course worker controller now volume hurdles asked (some error)) :
    Course worker controller now volume (hurdles ++ more) asked (some error) := by
  induction hurdles generalizing asked with
  | nil => cases course
  | cons hurdle rest ih =>
    cases course with
    | passed passed course => exact .passed passed (ih course)
    | stopped fails => exact .stopped fails

end Course

end Hurdle

end ArchiveUpkeep
