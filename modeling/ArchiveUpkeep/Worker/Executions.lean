import ArchiveUpkeep.Worker.Slots
import ArchiveUpkeep.Worker.Traced

/-! The executions in flight. Each holds the slot that its task was admitted to and gives it back
when it ends, whatever its outcome. Candidates that find no slot are dropped and not queued: if they
are still needed, they are proposed again. -/
namespace ArchiveUpkeep

/-- A task that is being carried out. -/
structure Execution where
  task : Task
  slot : Slot
deriving DecidableEq, Repr

/-- How an execution ends. -/
inductive Outcome where
  | completed
  | failed (cause : ControllerError)
  /-- The execution broke off without an answer. -/
  | crashed
deriving DecidableEq, Repr

/-- What became of the candidates of one tick. -/
structure IntakeReport where
  admitted : List Task := []
  /-- Passed over because a task of their volume was running. -/
  busy : List Task := []
  /-- Given up because every slot was taken. -/
  dropped : List Task := []
deriving DecidableEq, Repr

/-- What a worker remembers between two ticks. -/
structure Executions where
  slots : Slots
  /-- The executions in flight, in the order in which they began. -/
  running : List Execution := []

namespace Executions

/-- Begins the execution of a task, if there is a slot for it. -/
def start (executions : Executions) (task : Task) : Except Refusal Executions :=
  (executions.slots.occupy task).map fun (slot, slots) =>
    { slots, running := executions.running ++ [{ task, slot }] }

/-- Begins the execution of as many candidates as there are slots for, in the order given. The first
candidate that finds all slots taken is dropped together with all that follow it. -/
def intake (executions : Executions) : List Task → Traced (IntakeReport × Executions)
  | [] => return ({}, executions)
  | task :: rest =>
    match executions.start task with
    | .ok started => do
      Traced.note (.taskStarted task)
      let (report, after) ← started.intake rest
      return ({ report with admitted := task :: report.admitted }, after)
    | .error .volumeBusy => do
      Traced.note (.volumeBusy task)
      let (report, after) ← executions.intake rest
      return ({ report with busy := task :: report.busy }, after)
    | .error .full => do
      Traced.note (.capReached (rest.length + 1) executions.slots.capacity)
      return ({ dropped := task :: rest }, executions)

/-- The execution in flight for a volume. -/
def find? (executions : Executions) (volume : String) : Option Execution :=
  executions.running.find? (·.task.volume = volume)

/-- What is reported of the end of an execution. One that broke off is not reported. -/
def ending (task : Task) : Outcome → List Event
  | .completed => [.taskCompleted task]
  | .failed cause => [.taskFailed { task, cause }]
  | .crashed => []

/-- Ends the execution in flight for a volume, if there is one. Its slot is free before its end is
reported. -/
def finish? (executions : Executions) (volume : String) (outcome : Outcome) :
    Option (Traced Executions) :=
  (executions.find? volume).map fun execution =>
    { value :=
        { slots := executions.slots.release execution.slot
          running := executions.running.erase execution }
      events := ending execution.task outcome }

end Executions

end ArchiveUpkeep
