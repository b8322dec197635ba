import ArchiveUpkeep.Simulation.Archive
import ArchiveUpkeep.Worker.Description
import ArchiveUpkeep.Worker.Tick

/-! A worker tried step by step on servers in memory. Time does not pass between the steps: a step
says what the time is, and an execution ends when a step ends it. -/
namespace ArchiveUpkeep.Simulation

/-- How a step ends an execution. -/
inductive Finish where
  | completed
  | failed (failure : Failure)
  | crashed

/-- The outcome of the execution of a task, which fails as a command to the server of the task. -/
def Finish.outcome (task : Task) : Finish → Outcome
  | completed => .completed
  | failed (some text) => .failed (.remote task.kind.name task.server.name text)
  | failed none => .failed (.unavailable task.server.name)
  | crashed => .crashed

inductive Step where
  | tick (now : Instant)
  /-- Proposes tasks for the volumes without starting any. -/
  | propose (volumes : List String) (now : Instant)
  | proposeMerge (volume : String) (now : Instant)
  | proposeReplication (volume : String) (now : Instant)
  /-- Ends the execution in flight for a volume. -/
  | finish (volume : String) (how : Finish)
  | setVolume (volume : Volume)
  | removeVolume (name : String)
  | setListing (listing : Option (List String))
  | setListingFailure (failure : Option Failure)
  | describe

/-- What a step gives back. -/
inductive Answer where
  | tick (result : Except ControllerError TickReport)
  | tasks (tasks : List Task)
  | merge (result : Except SelectionError (Option Task))
  | replication (task : Option Task)
  /-- Whether there was something for the step to work on. -/
  | found (found : Bool)
  | description (text : String)
  | nothing

/-- The tasks that were started by a step with this answer. -/
def Answer.started : Answer → List Task
  | tick (.ok report) => report.intake.admitted
  | _ => []

structure Scenario where
  worker : Worker
  archive : Archive
  executions : Executions

namespace Scenario

/-- A scenario in which nothing has happened. -/
def start (worker : Worker) (archive : Archive) : Scenario :=
  { worker, archive, executions := worker.idle }

def perform (scenario : Scenario) (step : Step) : Traced (Answer × Scenario) :=
  let worker := scenario.worker
  let archive := scenario.archive
  match step with
  | .tick now => do
    let (result, executions) ← worker.tick archive.controller now scenario.executions
    return (.tick result, { scenario with executions })
  | .propose volumes now => do
    return (.tasks (← worker.candidates archive.controller now volumes), scenario)
  | .proposeMerge volume now => do
    return (.merge (← (worker.merge archive.controller volume now).run), scenario)
  | .proposeReplication volume now => do
    return (.replication (← worker.replication archive.controller volume now), scenario)
  | .finish volume how =>
    let finished? := do
      let execution ← scenario.executions.find? volume
      scenario.executions.finish? volume (how.outcome execution.task)
    match finished? with
    | none => return (.found false, scenario)
    | some finished => do return (.found true, { scenario with executions := ← finished })
  | .setVolume volume =>
    return (.found (archive.find? volume.name).isSome,
      { scenario with archive := archive.setVolume volume })
  | .removeVolume name =>
    return (.found (archive.find? name).isSome,
      { scenario with archive := archive.removeVolume name })
  | .setListing listing => return (.nothing, { scenario with archive := { archive with listing } })
  | .setListingFailure listingFailure =>
    return (.nothing, { scenario with archive := { archive with listingFailure } })
  | .describe => return (.description (worker.describe scenario.executions), scenario)

end Scenario

end ArchiveUpkeep.Simulation
