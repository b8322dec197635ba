import ArchiveUpkeep.Worker.Tick

/-! A run of the worker on a clock of milliseconds, from its start until it is told to shut down.
The loop looks for the shutdown between two ticks only, so a tick that has begun is carried through,
and executions in flight when the loop ends are left to end on their own. -/
namespace ArchiveUpkeep

/-- A timer of ticks that are to be some interval apart. -/
structure Timer where
  /-- When the tick after one that was scheduled for a time and began at another is scheduled. -/
  next (interval scheduled began : Nat) : Nat
  lt_next {interval scheduled began : Nat} :
    0 < interval → scheduled ≤ began → scheduled < next interval scheduled began
  next_le {interval scheduled began : Nat} :
    scheduled ≤ began → next interval scheduled began ≤ began + interval

namespace Timer

/-- A tick that is late by no more than this is taken to be on time. -/
def lateness : Nat := 5

/-- The timer whose schedule is moved by a tick that was late. -/
def delaying : Timer where
  next interval scheduled began :=
    if scheduled + lateness < began then began + interval else scheduled + interval
  lt_next positive due := by split <;> omega
  next_le due := by split <;> omega

end Timer

/-- What a run meets with. Times count from its start. -/
structure Surroundings where
  /-- By which the ticks come due. -/
  timer : Timer
  /-- The answers that the tick with this number gets. -/
  controller : Nat → Controller
  /-- The time that the listing of the tick with this number takes. -/
  listingTime : Nat → Nat
  /-- How long an execution that begins at a time lasts and how it ends, unless it never does. -/
  execution : Nat → Task → Option (Nat × Outcome)
  /-- The wall clock. -/
  wallClock : Nat → Instant
  /-- When the worker is told to shut down. -/
  shutdown : Nat

/-- The end of the execution in flight for a volume. -/
structure Ending where
  time : Nat
  volume : String
  outcome : Outcome
deriving DecidableEq, Repr

/-- Puts an ending behind all that are not later. -/
def Ending.insert (ending : Ending) : List Ending → List Ending
  | [] => [ending]
  | first :: rest =>
    if first.time ≤ ending.time then first :: ending.insert rest else ending :: first :: rest

/-- Where a run stands. -/
structure Course where
  executions : Executions
  /-- The ends of the executions in flight that have one, soonest first. -/
  endings : List Ending := []

namespace Course

/-- Lets the executions that end by the time `limit` end. -/
def settle (limit : Nat) (executions : Executions) : List Ending → Traced Course
  | [] => return { executions }
  | ending :: rest =>
    if ending.time ≤ limit then
      match executions.finish? ending.volume ending.outcome with
      | some finished => do
        let after ← finished
        settle limit after rest
      | none => settle limit executions rest
    else return { executions, endings := ending :: rest }

/-- The course at the time `limit`. -/
def advance (course : Course) (limit : Nat) : Traced Course :=
  settle limit course.executions course.endings

/-- The endings after a task has been started at a time. -/
def schedule (surroundings : Surroundings) (time : Nat) (endings : List Ending) (task : Task) :
    List Ending :=
  match surroundings.execution time task with
  | some (lasting, outcome) =>
    Ending.insert { time := time + lasting, volume := task.volume, outcome } endings
  | none => endings

end Course

/-- What a run amounted to. -/
structure Run where
  /-- When each tick began. -/
  ticks : List Nat := []
  /-- The executions that were begun, and when. -/
  started : List (Nat × Task) := []
  stoppedAt : Nat
  /-- Where the run stood when the loop ended. -/
  course : Course

namespace Worker

/-- The tick with number `index`, which begins at the time `began`. Gives the tasks that it starts
once the volumes are listed. A listing that fails is reported and costs this tick alone. -/
def round (worker : Worker) (surroundings : Surroundings) (index began : Nat) (course : Course) :
    Traced (List Task × Course) := do
  let listed := began + surroundings.listingTime index
  let course ← course.advance listed
  let (result, executions) ←
    worker.tick (surroundings.controller index) (surroundings.wallClock began) course.executions
  match result with
  | .error error =>
    Traced.note (.listingFailed worker.primary error)
    return ([], { course with executions })
  | .ok report =>
    let admitted := report.intake.admitted
    let endings := admitted.foldl (Course.schedule surroundings listed) course.endings
    return (admitted, { executions, endings })

/-- The rounds of a run from the time `now` on, of which the next has the number `index`. The worker
waits for the time for which that round is scheduled, or for the shutdown if it comes first. -/
def rounds (worker : Worker) (surroundings : Surroundings) (positive : 0 < worker.tickInterval)
    (index now scheduled : Nat) (course : Course) : Traced Run :=
  if _ : max now scheduled < surroundings.shutdown then do
    let began := max now scheduled
    let listed := began + surroundings.listingTime index
    let (admitted, course) ← worker.round surroundings index began course
    let record (rest : Run) : Run := { rest with
      ticks := began :: rest.ticks
      started := admitted.map (listed, ·) ++ rest.started }
    record <$> worker.rounds surroundings positive (index + 1) listed
      (surroundings.timer.next worker.tickInterval scheduled (max now scheduled)) course
  else do
    let stoppedAt := max now surroundings.shutdown
    let course ← course.advance stoppedAt
    Traced.note (.workerStopping course.executions.slots.count)
    return { stoppedAt, course }
termination_by surroundings.shutdown - scheduled
decreasing_by
  have later := surroundings.timer.lt_next positive (Nat.le_max_right now scheduled)
  omega

/-- A run of a worker whose ticks are some time apart. The first tick is scheduled for the start. -/
def run (worker : Worker) (surroundings : Surroundings) (positive : 0 < worker.tickInterval) :
    Traced Run := do
  Traced.note (.workerStarting worker.primary worker.capacity worker.targets.length
    (worker.tickInterval / 1000))
  worker.rounds surroundings positive 0 0 0 { executions := worker.idle }

end Worker

end ArchiveUpkeep
