import ArchiveUpkeep.Proofs.Selecting
import ArchiveUpkeep.Worker.Tick

/-! What the events of a worker tell of its executions. Listing the volumes and proposing tasks
reports much, but never that an execution began or ended. -/
namespace ArchiveUpkeep

namespace Event

/-- The task whose execution begins with this event. -/
def started? : Event → Option Task
  | taskStarted task => some task
  | _ => none

/-- The task whose execution ends with this event, and how. -/
def ended? : Event → Option (Task × Outcome)
  | taskCompleted task => some (task, .completed)
  | taskFailed error => some (error.task, .failed error.cause)
  | _ => none

/-- Tells nothing of an execution. -/
def Aside (event : Event) : Prop := event.started? = none ∧ event.ended? = none

theorem filterMap_started_of_aside {events : List Event} (aside : ∀ event ∈ events, event.Aside) :
    events.filterMap started? = [] :=
  List.filterMap_eq_nil_iff.2 fun event reported => (aside event reported).1

theorem filterMap_ended_of_aside {events : List Event} (aside : ∀ event ∈ events, event.Aside) :
    events.filterMap ended? = [] :=
  List.filterMap_eq_nil_iff.2 fun event reported => (aside event reported).2

end Event

namespace Traced
variable {α β : Type}

/-- Reports nothing of an execution. -/
def Quiet (x : Traced α) : Prop := ∀ event ∈ x.events, event.Aside

theorem Quiet.pure (a : α) : (Pure.pure a : Traced α).Quiet := by
  simp [Quiet]

theorem Quiet.ask (controller : Controller) (query : Query) : (controller.ask query).Quiet := by
  simp [Quiet]

theorem Quiet.note {event : Event} (aside : event.Aside) : (note event).Quiet := by
  simpa [Quiet] using aside

theorem Quiet.map {x : Traced α} (quiet : x.Quiet) (f : α → β) : (f <$> x).Quiet := quiet

theorem Quiet.bind {first : Traced α} {next : α → Traced β} (quiet : first.Quiet)
    (thenQuiet : ∀ a, (next a).Quiet) : (first >>= next).Quiet := by
  intro event reported
  rw [bind_events, List.mem_append] at reported
  rcases reported with reported | reported
  · exact quiet event reported
  · exact thenQuiet _ event reported

end Traced

namespace Selecting
variable {α β : Type} {controller : Controller} {volume : String}

theorem quiet_bind {first : Selecting α} {next : α → Selecting β} (quiet : first.run.Quiet)
    (thenQuiet : ∀ a, (next a).run.Quiet) : (first >>= next).run.Quiet := by
  intro event reported
  rw [events_bind, List.mem_append] at reported
  rcases reported with reported | reported
  · exact quiet event reported
  · cases given : first.run.value with
    | error error => simp [given] at reported
    | ok a => exact thenQuiet a event (by simpa [given] using reported)

theorem quiet_require (query : Query) : (controller.require volume query).run.Quiet := by
  simp [Traced.Quiet]

theorem quiet_consistent (result : Except ChainError α) : (consistent volume result).run.Quiet := by
  simp [Traced.Quiet]

end Selecting

namespace Worker
open Traced Selecting
variable (worker : Worker) (controller : Controller) (volume : String) (now : Instant)

theorem quiet_freshApply (state : MetaState) :
    (worker.freshApply controller volume state now).run.Quiet := by
  unfold freshApply
  dsimp only
  split
  · refine quiet_bind (quiet_require _) fun points => ?_
    split
    · exact .pure _
    · refine quiet_bind (quiet_consistent _) fun range => ?_
      refine quiet_bind (quiet_require _) fun count => ?_
      exact quiet_bind (quiet_require _) fun size => .pure _
  · exact .pure _

theorem quiet_merge : (worker.merge controller volume now).run.Quiet := by
  unfold merge
  dsimp only
  refine quiet_bind (quiet_require _) fun count => ?_
  refine quiet_bind (quiet_require _) fun size => ?_
  split
  · refine quiet_bind (quiet_require _) fun diffs => ?_
    exact quiet_bind (quiet_consistent _) fun scope => .pure _
  · exact .pure _

theorem quiet_cleanup (state : MetaState) :
    (worker.cleanup controller volume state now).run.Quiet := by
  unfold cleanup
  refine quiet_bind (quiet_require _) fun points => ?_
  split
  · exact .pure _
  · exact quiet_bind (quiet_require _) fun count => .pure _

theorem quiet_waiting (newest : RestorePoint) (targets : List Target) :
    (waiting controller volume newest now targets).Quiet := by
  induction targets with
  | nil => exact .pure _
  | cons target rest ih =>
    unfold waiting
    refine .bind (.ask _ _) fun answer => ?_
    split
    · exact .bind (.note ⟨rfl, rfl⟩) fun _ => ih
    · refine .bind ih fun others => ?_
      split <;> exact .pure _

theorem quiet_replication : (worker.replication controller volume now).Quiet := by
  unfold replication
  split
  · exact .pure _
  · refine .bind (.ask _ _) fun answer => ?_
    split
    · exact .bind (.note ⟨rfl, rfl⟩) fun _ => .pure _
    · split
      · exact .pure _
      · exact .bind (quiet_waiting _ _ _ _ _) fun targets => .pure _

theorem quiet_proposals : (worker.proposals controller now volume).run.Quiet := by
  unfold proposals
  refine quiet_bind (quiet_require _) fun state => ?_
  split
  · refine quiet_bind (.note ⟨rfl, rfl⟩) fun _ => ?_
    exact quiet_bind (.map (quiet_replication _ _ _ _) _) fun _ => .pure _
  · refine quiet_bind (quiet_freshApply _ _ _ _ _) fun apply => ?_
    refine quiet_bind (quiet_merge _ _ _ _) fun merge => ?_
    refine quiet_bind (.map (quiet_replication _ _ _ _) _) fun replication => ?_
    exact quiet_bind (quiet_cleanup _ _ _ _ _) fun cleanup => .pure _

theorem quiet_proposalsOrNone : (worker.proposalsOrNone controller now volume).Quiet := by
  unfold proposalsOrNone
  refine .bind (quiet_proposals _ _ _ _) fun result => ?_
  split
  · exact .pure _
  · exact .bind (.note ⟨rfl, rfl⟩) fun _ => .pure _

theorem quiet_candidates (volumes : List String) :
    (worker.candidates controller now volumes).Quiet := by
  refine .map ?_ _
  induction volumes with
  | nil => exact .pure _
  | cons volume rest ih => exact .bind (quiet_proposalsOrNone _ _ _ _) fun tasks => .map ih _

theorem quiet_archived (listed : List String) : (worker.archived controller listed).Quiet := by
  induction listed with
  | nil => exact .pure _
  | cons volume rest ih =>
    unfold archived
    refine .bind (.ask _ _) fun answer => ?_
    split
    · split
      · exact .map ih _
      · exact .bind (.note ⟨rfl, rfl⟩) fun _ => ih
    · exact .bind (.note ⟨rfl, rfl⟩) fun _ => ih

end Worker

end ArchiveUpkeep
