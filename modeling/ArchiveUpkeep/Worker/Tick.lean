import ArchiveUpkeep.Worker.Executions
import ArchiveUpkeep.Worker.Proposals

/-! A tick lists the volumes, keeps the archived ones, and starts what they need as far as there are
slots. It fails only with the listing, and then changes nothing. -/
namespace ArchiveUpkeep

/-- What one tick amounted to. -/
structure TickReport where
  /-- The number of archived volumes. -/
  volumes : Nat
  candidates : Nat
  intake : IntakeReport
deriving DecidableEq, Repr

namespace Worker

/-- A worker that has not started anything yet. -/
def idle (worker : Worker) : Executions := { slots := { capacity := worker.capacity } }

/-- The volumes among those listed whose state is that of an archived volume. A volume whose state
is not known is passed over. -/
def archived (worker : Worker) (controller : Controller) : List String → Traced (List String)
  | [] => return []
  | volume :: rest => do
    match ← controller.ask (.state worker.primary volume) with
    | .ok state =>
      if state = archivedState then
        (volume :: ·) <$> worker.archived controller rest
      else
        Traced.note (.notArchived volume state)
        worker.archived controller rest
    | .error error =>
      Traced.note (.stateFailed volume error)
      worker.archived controller rest

/-- Looks after the volumes of a listing at the time `now`. -/
def attend (worker : Worker) (controller : Controller) (now : Instant) (executions : Executions)
    (listed : List String) : Traced (TickReport × Executions) := do
  let volumes ← worker.archived controller listed
  let candidates ← worker.candidates controller now volumes
  let (report, after) ← executions.intake candidates
  Traced.note (.tickComplete volumes.length candidates.length report.admitted.length
    report.busy.length report.dropped.length after.slots.count)
  return ({ volumes := volumes.length, candidates := candidates.length, intake := report }, after)

/-- One round of upkeep at the time `now`. -/
def tick (worker : Worker) (controller : Controller) (now : Instant) (executions : Executions) :
    Traced (Except ControllerError TickReport × Executions) := do
  match ← controller.ask (.volumes worker.primary) with
  | .error error => return (.error error, executions)
  | .ok listed =>
    let (report, after) ← worker.attend controller now executions listed
    return (.ok report, after)

end Worker

end ArchiveUpkeep
