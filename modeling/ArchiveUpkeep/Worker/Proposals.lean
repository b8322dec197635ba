import ArchiveUpkeep.Policy.Retention
import ArchiveUpkeep.Worker.Basic
import ArchiveUpkeep.Worker.Traced

/-! The tasks that the volumes of the archive need, derived from what the controller answers.
Nothing is remembered between two derivations, so a worker that starts anew proposes what its
predecessor would have proposed. -/
namespace ArchiveUpkeep

/-- Proposing tasks for a volume: with a trace, and given up at the first query that fails and at
the first answer that cannot be right. -/
abbrev Selecting := ExceptT SelectionError Traced

namespace Controller

/-- Asks a query about a volume whose failure ends the selection for it. -/
def require (controller : Controller) (volume : String) (query : Query) : Selecting query.Answer :=
  ExceptT.mk ((·.mapError (SelectionError.query volume)) <$> controller.ask query)

end Controller

/-- Accepts ids reported for a volume, unless they cannot be right. -/
def consistent {α : Type} (volume : String) (result : Except ChainError α) : Selecting α :=
  ExceptT.mk (pure (result.mapError (.inconsistent volume)))

/-- The tasks by kind, in the order in which the kinds are served. Tasks of one kind stay in the
order in which they were proposed. -/
def serviceOrder (tasks : List Task) : List Task :=
  [TaskKind.apply, .merge, .replicate, .cleanup, .backup].flatMap fun kind =>
    tasks.filter (·.kind = kind)

/-- Whether a target that was last served at `last` has waited longer than one that was last served
at `other`. One that was never served has waited longest. -/
def waitedLonger : Option Instant → Option Instant → Bool
  | none, other => other.isSome
  | some last, some other => last < other
  | some _, none => false

/-- The target that has waited longest, and of several such targets the first. -/
def mostOverdue? (waiting : List (Target × Option Instant)) : Option Target :=
  (waiting.foldl longer none).map Prod.fst
where
  /-- The later of two targets is chosen only if it has waited longer. -/
  longer : Option (Target × Option Instant) → Target × Option Instant →
      Option (Target × Option Instant)
    | none, target => some target
    | some best, target => if waitedLonger target.2 best.2 then some target else some best

namespace Worker

/-- A task for the managed archive. -/
def task (worker : Worker) (volume : String) (action : Action) : Task :=
  { volume, server := worker.primary, action }

/-- The apply that is due because enough diffs lie between the base and a restore point that is old
enough. -/
def freshApply (worker : Worker) (controller : Controller) (volume : String) (state : MetaState)
    (now : Instant) : Selecting (Option Task) := do
  let policy := worker.config.apply
  if policy.freshEnabled then
    let points ← controller.require volume (.restorable worker.primary volume .all)
    match state.freshApplyTarget? points policy.keepPeriod now with
    | none => return none
    | some target =>
      let range ← consistent volume (GidRange.between state.base.lower target)
      let count ← controller.require volume (.diffCount worker.primary volume range)
      let size ← controller.require volume (.diffSize worker.primary volume range)
      return if policy.freshDue count size then some (worker.task volume (.apply target)) else none
  else return none

/-- The merge that is due because the volume has too many diffs, or too large ones. -/
def merge (worker : Worker) (controller : Controller) (volume : String) (now : Instant) :
    Selecting (Option Task) := do
  let policy := worker.config.merge
  let count ← controller.require volume (.diffCount worker.primary volume .all)
  let size ← controller.require volume (.diffSize worker.primary volume .all)
  if policy.due count size then
    let diffs ← controller.require volume (.applicableDiffs worker.primary volume Gid.top)
    let scope ← consistent volume (policy.scope now diffs)
    return scope.map fun range =>
      worker.task volume (.merge range.start range.stop policy.maxSize)
  else return none

/-- The targets that are due for a volume, each with the time of the newest restore point that it
holds. A target that does not answer is left out. -/
def waiting (controller : Controller) (volume : String) (newest : RestorePoint) (now : Instant) :
    List Target → Traced (List (Target × Option Instant))
  | [] => return []
  | target :: rest => do
    match ← controller.ask (.restorable target.server volume .narrow) with
    | .error error =>
      Traced.note (.targetFailed volume target.name error)
      waiting controller volume newest now rest
    | .ok points =>
      let held := newestPoint? points
      let others ← waiting controller volume newest now rest
      if replicationDue newest held target.policy.interval now then
        return (target, held.map RestorePoint.time) :: others
      else return others

/-- The replication to the target that has waited longest. Replication stands apart from the other
tasks: a query that fails costs the volume this task alone. -/
def replication (worker : Worker) (controller : Controller) (volume : String) (now : Instant) :
    Traced (Option Task) := do
  if worker.targets.isEmpty then return none
  else match ← controller.ask (.restorable worker.primary volume .narrow) with
    | .error error =>
      Traced.note (.restorePointsFailed volume error)
      return none
    | .ok points =>
      match newestPoint? points with
      | none => return none
      | some newest =>
        let targets ← waiting controller volume newest now worker.targets
        return (mostOverdue? targets).map fun target =>
          worker.task volume (.replicate target.name target.server target.policy.compression
            target.policy.bulkSize target.policy.maxMergeSize)

/-- The deletion of diffs that are folded into the base and past the keep period. -/
def cleanup (worker : Worker) (controller : Controller) (volume : String) (state : MetaState)
    (now : Instant) : Selecting (Option Task) := do
  let points ← controller.require volume (.restorable worker.primary volume .all)
  match state.cleanupTarget? points worker.config.apply.keepPeriod now with
  | none => return none
  | some target =>
    let count ← controller.require volume (.diffCount worker.primary volume (.below target))
    return if count = 0 then none else some (worker.task volume (.cleanup target))

/-- The tasks of one volume, after one reading of its progress. While an apply is interrupted its
diffs stay untouched, so only a replication is proposed beside it. -/
def proposals (worker : Worker) (controller : Controller) (now : Instant) (volume : String) :
    Selecting (List Task) := do
  let state ← controller.require volume (.base worker.primary volume)
  match state.resumeGid? with
  | some gid =>
    Traced.note (.applyResumed volume state)
    let replication ← worker.replication controller volume now
    return worker.task volume (.apply gid) :: replication.toList
  | none =>
    let apply ← worker.freshApply controller volume state now
    let merge ← worker.merge controller volume now
    let replication ← worker.replication controller volume now
    let cleanup ← worker.cleanup controller volume state now
    return apply.toList ++ merge.toList ++ replication.toList ++ cleanup.toList

/-- The tasks of one volume, or none if they cannot be told. -/
def proposalsOrNone (worker : Worker) (controller : Controller) (now : Instant) (volume : String) :
    Traced (List Task) := do
  match ← (worker.proposals controller now volume).run with
  | .ok tasks => return tasks
  | .error error =>
    Traced.note (.selectionFailed error)
    return []

/-- The tasks of several volumes, volume after volume. -/
def allProposals (worker : Worker) (controller : Controller) (now : Instant) :
    List String → Traced (List Task)
  | [] => return []
  | volume :: rest => do
    let tasks ← worker.proposalsOrNone controller now volume
    (tasks ++ ·) <$> worker.allProposals controller now rest

/-- The tasks of several volumes in the order in which they are served. -/
def candidates (worker : Worker) (controller : Controller) (now : Instant)
    (volumes : List String) : Traced (List Task) :=
  serviceOrder <$> worker.allProposals controller now volumes

end Worker

end ArchiveUpkeep
