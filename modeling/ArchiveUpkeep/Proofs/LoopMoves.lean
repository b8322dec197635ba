import ArchiveUpkeep.Proofs.EndedExecutions
import ArchiveUpkeep.Proofs.TickAccounting

/-! The loop of a worker, one move at a time. Between two ticks the loop waits for the shutdown and
for the next tick to come due, and whenever it comes round it looks for the shutdown first and then
for the tick. A tick asks about the volumes, and then offers its candidates to the slots one by one.
All else may happen between any two moves of the loop, also while a tick is under way and after the
loop has ended: the shutdown is told, the next tick comes due, an execution ends. -/
namespace ArchiveUpkeep

namespace Executions
variable {executions after : Executions} {capacity : Nat} {task : Task} {rest : List Task}

theorem intake_cons_of_ok (started : executions.start task = .ok after) :
    (executions.intake (task :: rest)).value =
      let taken := (after.intake rest).value
      ({ taken.1 with admitted := task :: taken.1.admitted }, taken.2) := by
  simp [intake, started]

theorem intake_cons_of_busy (busy : executions.start task = .error .volumeBusy) :
    (executions.intake (task :: rest)).value =
      let taken := (executions.intake rest).value
      ({ taken.1 with busy := task :: taken.1.busy }, taken.2) := by
  simp [intake, busy]

theorem intake_cons_of_full (full : executions.start task = .error .full) :
    (executions.intake (task :: rest)).value = ({ dropped := task :: rest }, executions) := by
  simp [intake, full]

theorem Orderly.start (orderly : executions.Orderly capacity)
    (started : executions.start task = .ok after) : after.Orderly capacity := by
  have taken := orderly.intake [task]
  rw [intake_cons_of_ok started] at taken
  exact taken

end Executions

namespace IntakeReport

/-- Two reports of one intake, one after the other. -/
def append (first second : IntakeReport) : IntakeReport where
  admitted := first.admitted ++ second.admitted
  busy := first.busy ++ second.busy
  dropped := first.dropped ++ second.dropped

/-- Every candidate that a report tells of. -/
def tasks (report : IntakeReport) : List Task := report.admitted ++ report.busy ++ report.dropped

theorem tasks_append_perm (first second : IntakeReport) :
    (first.append second).tasks.Perm (first.tasks ++ second.tasks) := by
  refine List.perm_iff_count.2 fun task => ?_
  simp only [tasks, append, List.count_append]
  omega

end IntakeReport

def TickReport.add (report : TickReport) (intake : IntakeReport) : TickReport :=
  { report with intake := report.intake.append intake }

/-- Where the loop of a worker stands. -/
inductive Stage where
  /-- Waits, and looks for the shutdown when it comes round. -/
  | waiting
  /-- Came round, found no shutdown, and looks for the next tick. -/
  | passing
  /-- Has begun a tick, and waits for its answers. -/
  | asking
  /-- Has some candidates of a tick left, and tells in a report of the others. -/
  | dispatching (report : TickReport) (left : List Task)
  | stopped
deriving DecidableEq, Repr

/-- Whether a tick is under way. -/
def Stage.UnderWay : Stage → Bool
  | asking | dispatching .. => true
  | waiting | passing | stopped => false

/-- What the tick under way has admitted. -/
def Stage.admitted : Stage → List Task
  | dispatching report _ => report.intake.admitted
  | waiting | passing | asking | stopped => []

/-- What happens around a loop, and what the loop does about it. -/
inductive Move where
  /-- The worker is told to shut down. -/
  | shutdown
  /-- The next tick comes due. -/
  | due
  /-- The loop goes on: it looks for what it waits for, or offers a slot to the next candidate. -/
  | go
  /-- The tick under way has its answers. -/
  | answer (controller : Controller) (now : Instant)
  /-- The execution in flight for a volume ends. -/
  | ending (volume : String) (outcome : Outcome)

def Move.IsGo : Move → Bool
  | go => true
  | shutdown | due | answer .. | ending .. => false

/-- A loop and what it has come to. -/
structure RunLoop where
  stage : Stage := .waiting
  /-- Whether the worker has been told to shut down. It stays told. -/
  told : Bool := false
  /-- Whether the next tick is due. -/
  due : Bool := false
  /-- The number of ticks that have begun. -/
  begun : Nat := 0
  /-- What became of the ticks that were carried through. -/
  results : List (Except ControllerError TickReport) := []
  executions : Executions
  admitted : List Task := []
  ended : List (Task × Outcome) := []

namespace RunLoop

/-- A tick that lists some volumes has all its candidates left. -/
def dispatch (worker : Worker) (controller : Controller) (now : Instant) (listed : List String) :
    Stage :=
  let volumes := (worker.archived controller listed).value
  let candidates := (worker.candidates controller now volumes).value
  .dispatching
    { volumes := volumes.length, candidates := candidates.length, intake := {} } candidates

/-- The loop with the first candidate of a dispatch offered a slot. -/
def offer (loop : RunLoop) (report : TickReport) (task : Task) (rest : List Task) : RunLoop :=
  match loop.executions.start task with
  | .ok started => { loop with
      stage := .dispatching (report.add { admitted := [task] }) rest
      executions := started
      admitted := loop.admitted ++ [task] }
  | .error .volumeBusy => { loop with stage := .dispatching (report.add { busy := [task] }) rest }
  | .error .full => { loop with stage := .dispatching (report.add { dropped := task :: rest }) [] }

/-- The loop after a move. One that is not for the stage it is in changes nothing. -/
def step (worker : Worker) (loop : RunLoop) : Move → RunLoop
  | .shutdown => { loop with told := true }
  | .due => { loop with due := true }
  | .go =>
    match loop.stage with
    | .waiting =>
      if loop.told then { loop with stage := .stopped } else { loop with stage := .passing }
    | .passing =>
      if loop.due then { loop with stage := .asking, due := false, begun := loop.begun + 1 }
      else { loop with stage := .waiting }
    | .dispatching report (task :: rest) => loop.offer report task rest
    | .dispatching report [] =>
      { loop with stage := .waiting, results := loop.results ++ [.ok report] }
    | .asking | .stopped => loop
  | .answer controller now =>
    match loop.stage with
    | .asking =>
      match controller.answer (.volumes worker.primary) with
      | .error error =>
        { loop with stage := .waiting, results := loop.results ++ [.error error] }
      | .ok listed => { loop with stage := dispatch worker controller now listed }
    | .waiting | .passing | .dispatching .. | .stopped => loop
  | .ending volume outcome => { loop with
      executions := loop.executions.ended volume outcome
      ended := loop.ended ++ (loop.executions.ending? volume outcome).toList }

def after (worker : Worker) (loop : RunLoop) (moves : List Move) : RunLoop :=
  moves.foldl (step worker) loop

/-- A loop that is about to wait for its first tick. -/
def start (worker : Worker) : RunLoop := { executions := worker.idle }

variable {worker : Worker} {loop : RunLoop} {move : Move} {moves : List Move}

@[simp] theorem after_nil : loop.after worker [] = loop := rfl

@[simp] theorem after_cons :
    loop.after worker (move :: moves) = (loop.step worker move).after worker moves := rfl

theorem after_append (others : List Move) :
    loop.after worker (moves ++ others) = (loop.after worker moves).after worker others :=
  List.foldl_append

/-- All that a move can do to a loop. -/
inductive Effect (worker : Worker) (loop : RunLoop) : Move → RunLoop → Prop where
  | tells : Effect worker loop .shutdown { loop with told := true }
  | comesDue : Effect worker loop .due { loop with due := true }
  | stops (waiting : loop.stage = .waiting) (told : loop.told) :
      Effect worker loop .go { loop with stage := .stopped }
  | passes (waiting : loop.stage = .waiting) (untold : ¬ loop.told) :
      Effect worker loop .go { loop with stage := .passing }
  | begins (passing : loop.stage = .passing) (due : loop.due) :
      Effect worker loop .go
        { loop with stage := .asking, due := false, begun := loop.begun + 1 }
  | waits (passing : loop.stage = .passing) :
      Effect worker loop .go { loop with stage := .waiting }
  | fails {controller : Controller} {now : Instant} {error : ControllerError}
      (asking : loop.stage = .asking)
      (refused : controller.answer (.volumes worker.primary) = .error error) :
      Effect worker loop (.answer controller now)
        { loop with stage := .waiting, results := loop.results ++ [.error error] }
  | lists {controller : Controller} {now : Instant} {listed : List String}
      (asking : loop.stage = .asking)
      (listing : controller.answer (.volumes worker.primary) = .ok listed) :
      Effect worker loop (.answer controller now)
        { loop with stage := dispatch worker controller now listed }
  | admits {report : TickReport} {task : Task} {rest : List Task} {started : Executions}
      (dispatching : loop.stage = .dispatching report (task :: rest))
      (room : loop.executions.start task = .ok started) :
      Effect worker loop .go { loop with
        stage := .dispatching (report.add { admitted := [task] }) rest
        executions := started
        admitted := loop.admitted ++ [task] }
  | skips {report : TickReport} {task : Task} {rest : List Task}
      (dispatching : loop.stage = .dispatching report (task :: rest))
      (busy : loop.executions.start task = .error .volumeBusy) :
      Effect worker loop .go
        { loop with stage := .dispatching (report.add { busy := [task] }) rest }
  | drops {report : TickReport} {task : Task} {rest : List Task}
      (dispatching : loop.stage = .dispatching report (task :: rest))
      (full : loop.executions.start task = .error .full) :
      Effect worker loop .go
        { loop with stage := .dispatching (report.add { dropped := task :: rest }) [] }
  | finishes {report : TickReport} (dispatching : loop.stage = .dispatching report []) :
      Effect worker loop .go
        { loop with stage := .waiting, results := loop.results ++ [.ok report] }
  | ends (volume : String) (outcome : Outcome) :
      Effect worker loop (.ending volume outcome) { loop with
        executions := loop.executions.ended volume outcome
        ended := loop.ended ++ (loop.executions.ending? volume outcome).toList }
  | idles (away : loop.stage = .asking ∨ loop.stage = .stopped) : Effect worker loop .go loop
  | unasked (apart : loop.stage ≠ .asking) (controller : Controller) (now : Instant) :
      Effect worker loop (.answer controller now) loop

theorem effect_step (worker : Worker) (loop : RunLoop) (move : Move) :
    Effect worker loop move (loop.step worker move) := by
  cases move with
  | shutdown => exact .tells
  | due => exact .comesDue
  | go =>
    simp only [step]
    cases stage : loop.stage with
    | waiting =>
      dsimp only
      split
      next told => exact .stops stage told
      next untold => exact .passes stage untold
    | passing =>
      dsimp only
      split
      next due => exact .begins stage due
      next => exact .waits stage
    | dispatching report left =>
      cases left with
      | nil => exact .finishes stage
      | cons task rest =>
        dsimp only [offer]
        split
        next room => exact .admits stage room
        next busy => exact .skips stage busy
        next full => exact .drops stage full
    | asking => exact .idles (.inl stage)
    | stopped => exact .idles (.inr stage)
  | answer controller now =>
    simp only [step]
    cases stage : loop.stage with
    | asking =>
      cases answer : controller.answer (.volumes worker.primary) with
      | error error => exact .fails stage answer
      | ok listed => exact .lists stage answer
    | waiting => exact .unasked (by simp [stage]) controller now
    | passing => exact .unasked (by simp [stage]) controller now
    | dispatching report left => exact .unasked (by simp [stage]) controller now
    | stopped => exact .unasked (by simp [stage]) controller now
  | ending volume outcome => exact .ends volume outcome

/-- What every effect keeps, every run keeps. -/
theorem after_keeps {P : RunLoop → Prop}
    (kept : ∀ {loop move next}, Effect worker loop move next → P loop → P next)
    (holds : P loop) (moves : List Move) : P (loop.after worker moves) := by
  induction moves generalizing loop with
  | nil => exact holds
  | cons move rest ih => exact ih (kept (effect_step worker loop move) holds)

/-- What is in flight holds the slots, and all that was admitted has ended or is in flight. Every
tick that has begun has a result, but for the one under way, and what was admitted is what the
ticks tell of. -/
structure Sound (worker : Worker) (loop : RunLoop) : Prop where
  orderly : loop.executions.Orderly worker.capacity
  admitted_perm : loop.admitted.Perm
    (loop.ended.map Prod.fst ++ loop.executions.running.map Execution.task)
  admitted_eq : loop.admitted = loop.results.flatMap admittedIn ++ loop.stage.admitted
  begun_eq : loop.begun = loop.results.length + loop.stage.UnderWay.toNat

theorem start_sound (worker : Worker) : (start worker).Sound worker :=
  ⟨History.Accounted.initial.orderly, .refl _, rfl, rfl⟩

section Effects
variable {next : RunLoop} (effect : Effect worker loop move next)
include effect

theorem Effect.orderly (orderly : loop.executions.Orderly worker.capacity) :
    next.executions.Orderly worker.capacity := by
  cases effect with
  | ends volume outcome => exact orderly.ended
  | admits _ room => exact orderly.start room
  | _ => exact orderly

theorem Effect.admitted_perm
    (accounted : loop.admitted.Perm
      (loop.ended.map Prod.fst ++ loop.executions.running.map Execution.task)) :
    next.admitted.Perm (next.ended.map Prod.fst ++ next.executions.running.map Execution.task) := by
  cases effect with
  | ends volume outcome =>
    have left := loop.executions.tasks_ended_perm volume outcome
    simpa using accounted.trans (left.append_left _)
  | admits _ room =>
    have running := (Executions.start_eq_ok_iff.1 room).2.2.2
    simpa [running] using accounted.append_right _
  | _ => exact accounted

theorem Effect.admitted_eq
    (told : loop.admitted = loop.results.flatMap admittedIn ++ loop.stage.admitted) :
    next.admitted = next.results.flatMap admittedIn ++ next.stage.admitted := by
  cases effect with
  | stops stage | passes stage | begins stage | waits stage | lists stage =>
    rw [stage] at told
    exact told
  | admits stage | skips stage | drops stage =>
    rw [stage] at told
    simp [told, Stage.admitted, TickReport.add, IntakeReport.append]
  | fails stage | finishes stage =>
    rw [stage] at told
    simp [told, Stage.admitted, admittedIn]
  | _ => exact told

theorem Effect.begun_eq (counted : loop.begun = loop.results.length + loop.stage.UnderWay.toNat) :
    next.begun = next.results.length + next.stage.UnderWay.toNat := by
  cases effect with
  | stops stage | passes stage | waits stage | lists stage | admits stage | skips stage
  | drops stage =>
    rw [stage] at counted
    exact counted
  | begins stage =>
    rw [stage] at counted
    exact congrArg (· + 1) counted
  | fails stage | finishes stage =>
    rw [stage] at counted
    simpa [Stage.UnderWay] using counted
  | _ => exact counted

theorem Effect.sound (sound : loop.Sound worker) : next.Sound worker where
  orderly := effect.orderly sound.orderly
  admitted_perm := effect.admitted_perm sound.admitted_perm
  admitted_eq := effect.admitted_eq sound.admitted_eq
  begun_eq := effect.begun_eq sound.begun_eq

end Effects

end RunLoop

end ArchiveUpkeep
