import ArchiveUpkeep.Logging.Level
import ArchiveUpkeep.Worker.Error

/-! The events that a worker reports. An event is a value, so that runs can be compared by what they
report; its level, its message and its fields are what a log shows of it. -/
namespace ArchiveUpkeep

inductive Event where
  | workerStarting (archive : Server) (capacity targets tickSeconds : Nat)
  | workerStopping (running : Nat)
  | listingFailed (archive : Server) (error : ControllerError)
  | notArchived (volume state : String)
  | stateFailed (volume : String) (error : ControllerError)
  | selectionFailed (error : SelectionError)
  | applyResumed (volume : String) (state : MetaState)
  | restorePointsFailed (volume : String) (error : ControllerError)
  | targetFailed (volume target : String) (error : ControllerError)
  | taskStarted (task : Task)
  | volumeBusy (task : Task)
  | capReached (dropped capacity : Nat)
  | tickComplete (volumes candidates admitted busy dropped running : Nat)
  | taskCompleted (task : Task)
  | taskFailed (error : ExecutionError)
deriving DecidableEq

namespace Event

/-- Failures are warnings, what starts and ends is information, and the rest is for debugging. -/
def level : Event → Level
  | listingFailed .. | stateFailed .. | selectionFailed .. | restorePointsFailed ..
  | targetFailed .. | taskFailed .. => .warn
  | workerStarting .. | workerStopping .. | taskStarted .. | taskCompleted .. => .info
  | notArchived .. | applyResumed .. | volumeBusy .. | capReached .. | tickComplete .. => .debug

def message : Event → String
  | workerStarting .. => "Worker starting"
  | workerStopping .. => "Worker shutting down"
  | listingFailed .. => "Failed to list volumes, skipping tick"
  | notArchived .. => "Volume not archived, skipping"
  | stateFailed .. => "Failed to get volume state, skipping"
  | selectionFailed .. => "Selection failed, skipping volume"
  | applyResumed .. => "Resuming interrupted apply"
  | restorePointsFailed .. => "Failed to query restore points, skipping replication"
  | targetFailed .. => "Failed to query replication target"
  | taskStarted .. => "Task started"
  | volumeBusy .. => "Volume busy, skipping"
  | capReached .. => "Concurrency cap reached, dropping remaining candidates"
  | tickComplete .. => "Tick complete"
  | taskCompleted .. => "Task completed"
  | taskFailed .. => "Task failed"

/-- The named values of an event, in the order in which they are reported. -/
def fields : Event → List (String × String)
  | workerStarting archive capacity targets tickSeconds =>
    [("archive", toString archive), ("max_concurrent_tasks", toString capacity),
      ("repl_targets", toString targets), ("tick_interval_secs", toString tickSeconds)]
  | workerStopping running => [("running", toString running)]
  | listingFailed archive error => [("archive", toString archive), ("error", toString error)]
  | notArchived volume state => [("vol", volume), ("state", state)]
  | stateFailed volume error | restorePointsFailed volume error =>
    [("vol", volume), ("error", toString error)]
  | selectionFailed error => [("vol", error.volume), ("error", toString error)]
  | applyResumed volume state => [("vol", volume), ("state", toString state)]
  | targetFailed volume target error =>
    [("vol", volume), ("target", target), ("error", toString error)]
  | taskStarted task | volumeBusy task | taskCompleted task => [("task", toString task)]
  | capReached dropped capacity =>
    [("dropped", toString dropped), ("capacity", toString capacity)]
  | tickComplete volumes candidates admitted busy dropped running =>
    [("volumes", toString volumes), ("candidates", toString candidates),
      ("admitted", toString admitted), ("busy", toString busy), ("dropped", toString dropped),
      ("running", toString running)]
  | taskFailed error => [("error", toString error)]

end Event

end ArchiveUpkeep
