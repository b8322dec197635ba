import ArchiveUpkeep.Proofs.LoopShutdown

/-! Runs on a clock against the moves of a loop. Whatever the surroundings, a run goes through moves
of the loop that stops when it looks for the shutdown, so what holds after any moves holds of it.
The clock adds when: no tick begins at or after the time of the shutdown, a tick that lasts beyond
that time is the last, and what is in flight at the end of the loop still ends at its own time. -/
namespace ArchiveUpkeep

/-- The move of a loop that an ending is. -/
def Ending.move (ending : Ending) : Move := .ending ending.volume ending.outcome

/-- The answers that a move brings to a tick, and the time that the tick takes for now. -/
def Move.answer? : Move → Option (Controller × Instant)
  | .answer controller now => some (controller, now)
  | .shutdown | .due | .go | .ending .. => none

theorem Ending.answer?_move (endings : List Ending) :
    (endings.map Ending.move).filterMap Move.answer? = [] := by
  simp [Ending.move, Move.answer?]

namespace RunLoop
variable {loop : RunLoop}

theorem exists_after_endings (worker : Worker) (loop : RunLoop) (endings : List Ending) :
    ∃ ended, loop.after worker (endings.map Ending.move) =
      { loop with executions := loop.executions.endedBy endings, ended } := by
  induction endings generalizing loop with
  | nil => exact ⟨loop.ended, rfl⟩
  | cons ending rest ih => exact ih (loop.step worker ending.move)

/-- A loop that waits can go through a tick with these answers, which some executions end before. -/
theorem exists_round (worker : Worker) (waiting : loop.stage = .waiting) (untold : ¬ loop.told)
    (endings : List Ending) (controller : Controller) (now : Instant) :
    let ticked := (worker.tick controller now (loop.executions.endedBy endings)).value
    ∃ moves ended, moves.filterMap Move.answer? = [(controller, now)] ∧
      loop.after worker moves = { loop with
        due := false
        begun := loop.begun + 1
        results := loop.results ++ [ticked.1]
        executions := ticked.2
        admitted := loop.admitted ++ admittedIn ticked.1
        ended } := by
  intro ticked
  let begun : RunLoop :=
    { loop with stage := .asking, due := false, begun := loop.begun + 1 }
  have begins : loop.after worker [.due, .go, .go] = begun := by simp [step, waiting, untold, begun]
  obtain ⟨ended, settled⟩ := exists_after_endings worker begun endings
  let asking : RunLoop := { begun with executions := loop.executions.endedBy endings, ended }
  obtain ⟨gos, carried⟩ := exists_tick worker (show asking.stage = .asking from rfl) controller now
  refine ⟨[.due, .go, .go] ++ endings.map Ending.move ++
    .answer controller now :: List.replicate gos .go, ended, ?_, ?_⟩
  · have answered : Move.answer? (.answer controller now) = some (controller, now) := rfl
    have unanswered : Move.answer? .go = none := rfl
    rw [List.filterMap_append, List.filterMap_append, Ending.answer?_move,
      List.filterMap_cons_some answered, List.filterMap_replicate_of_none unanswered]
    rfl
  · rw [after_append, after_append, begins, settled, carried]
    simp [asking, begun, waiting, ticked]

/-- A loop that waits can be told to shut down and stop, after some executions have ended. -/
theorem exists_stop (worker : Worker) (waiting : loop.stage = .waiting)
    (endings : List Ending) :
    ∃ moves ended, moves.filterMap Move.answer? = [] ∧
      loop.after worker moves = { loop with
        stage := .stopped
        told := true
        executions := loop.executions.endedBy endings
        ended } := by
  obtain ⟨ended, settled⟩ := exists_after_endings worker loop endings
  refine ⟨endings.map Ending.move ++ [.shutdown, .go], ended, ?_, ?_⟩
  · rw [List.filterMap_append, Ending.answer?_move]
    rfl
  · rw [after_append, settled]
    simp [step, waiting]

end RunLoop

/-- The answers that the ticks of a run got, of which the first had the number `index`. -/
def Run.answers (surroundings : Surroundings) (index : Nat) (run : Run) :
    List (Controller × Instant) :=
  (run.ticks.zipIdx index).map fun (began, number) =>
    (surroundings.controller number, surroundings.wallClock began)

namespace Worker
variable {worker : Worker} {surroundings : Surroundings} {index began now scheduled : Nat}
  {course : Course} {run : Run}

/-- A tick whose listing fails admits nothing, so a round has the same value either way. -/
theorem round_value (worker : Worker) (surroundings : Surroundings) (index began : Nat)
    (course : Course) :
    let listed := began + surroundings.listingTime index
    let settled := (course.advance listed).value
    let ticked := (worker.tick (surroundings.controller index) (surroundings.wallClock began)
      settled.executions).value
    (worker.round surroundings index began course).value =
      (admittedIn ticked.1,
        { executions := ticked.2
          endings := (admittedIn ticked.1).foldl (Course.schedule surroundings listed)
            settled.endings }) := by
  intro listed settled ticked
  simp only [round, Traced.bind_value, ticked, settled, listed]
  split
  next error failed =>
    simp only [failed, admittedIn]
    rfl
  next report succeeded =>
    simp only [succeeded, admittedIn]
    rfl

/-- All that a run can do from the time `now` on: it stops, or it goes through a round and does the
same again. -/
inductive Rounds (worker : Worker) (surroundings : Surroundings) :
    Nat → Nat → Nat → Course → Run → Prop where
  | stops {index now scheduled : Nat} {course : Course}
      (told : surroundings.shutdown ≤ max now scheduled) :
      Rounds worker surroundings index now scheduled course
        { stoppedAt := max now surroundings.shutdown
          course := (course.advance (max now surroundings.shutdown)).value }
  | goes {index now scheduled began listed : Nat} {course : Course} {rest : Run}
      (untold : began < surroundings.shutdown)
      (began_eq : began = max now scheduled)
      (listed_eq : listed = began + surroundings.listingTime index)
      (later : Rounds worker surroundings (index + 1) listed
        (surroundings.timer.next worker.tickInterval scheduled began)
        (worker.round surroundings index began course).value.2 rest) :
      Rounds worker surroundings index now scheduled course { rest with
        ticks := began :: rest.ticks
        started := (worker.round surroundings index began course).value.1.map (listed, ·) ++
          rest.started }

theorem rounds_taken (positive : 0 < worker.tickInterval) :
    Rounds worker surroundings index now scheduled course
      (worker.rounds surroundings positive index now scheduled course).value := by
  induction index, now, scheduled, course using rounds.induct worker surroundings positive with
  | case1 index now scheduled course early began listed ih =>
    rw [Worker.rounds, dif_pos early]
    exact .goes early rfl rfl (ih _)
  | case2 index now scheduled course late =>
    rw [Worker.rounds, dif_neg late]
    exact .stops (Nat.le_of_not_lt late)

/-- The ticks of a run, of which the first has the number `index`, seen from the time of the
shutdown. Each begins before it. One that lasts up to it or beyond is the last, and one that ends
before it, with the tick after it due before it too, is not. -/
structure Timely (worker : Worker) (surroundings : Surroundings) (index : Nat)
    (ticks : List Nat) : Prop where
  before_shutdown : ∀ began ∈ ticks, began < surroundings.shutdown
  last : ∀ began number, (began, number) ∈ ticks.zipIdx index →
    surroundings.shutdown ≤ began + surroundings.listingTime number →
    number + 1 = index + ticks.length
  not_last : ∀ began number, (began, number) ∈ ticks.zipIdx index →
    began + surroundings.listingTime number < surroundings.shutdown →
    began + worker.tickInterval < surroundings.shutdown →
    number + 1 < index + ticks.length

namespace Rounds

theorem ticks_eq_nil_iff (rounds : Rounds worker surroundings index now scheduled course run) :
    run.ticks = [] ↔ surroundings.shutdown ≤ max now scheduled := by
  cases rounds with
  | stops told => exact iff_of_true rfl told
  | goes untold began_eq =>
    exact iff_of_false (List.cons_ne_nil _ _) (Nat.not_le.2 (began_eq ▸ untold))

theorem timely (rounds : Rounds worker surroundings index now scheduled course run) :
    Timely worker surroundings index run.ticks := by
  induction rounds with
  | stops => exact ⟨by simp, by simp, by simp⟩
  | @goes index now scheduled began listed course rest untold began_eq listed_eq later ih =>
    have ended_iff : rest.ticks = [] ↔ surroundings.shutdown ≤
        max listed (surroundings.timer.next worker.tickInterval scheduled began) :=
      later.ticks_eq_nil_iff
    have soon : surroundings.timer.next worker.tickInterval scheduled began ≤
        began + worker.tickInterval :=
      surroundings.timer.next_le (began_eq ▸ Nat.le_max_right now scheduled)
    refine ⟨List.forall_mem_cons.2 ⟨untold, ih.before_shutdown⟩, ?_, ?_⟩
    · intro tick number inside long
      rw [List.length_cons]
      rcases List.mem_cons.1 inside with own | inside
      · cases own
        have none_left : rest.ticks = [] := ended_iff.2 (by omega)
        rw [none_left, List.length_nil]
      · have := ih.last tick number inside long
        omega
    · intro tick number inside short due
      rw [List.length_cons]
      rcases List.mem_cons.1 inside with own | inside
      · cases own
        have some_left : rest.ticks ≠ [] := fun none_left => by
          have := ended_iff.1 none_left
          omega
        have := List.length_pos_iff.2 some_left
        omega
      · have := ih.not_last tick number inside short due
        omega

theorem kept_round (index : Nat) {started : List (Nat × Task)}
    (kept : course.Kept worker surroundings now started) (later : now ≤ began) :
    let listed := began + surroundings.listingTime index
    let rounded := (worker.round surroundings index began course).value
    rounded.2.Kept worker surroundings listed (started ++ rounded.1.map (listed, ·)) := by
  intro listed rounded
  obtain ⟨tasks, left, admitted, -⟩ := tick_is_intake worker (surroundings.controller index)
    (surroundings.wallClock began) (course.advance listed).value.executions
  have listedLater : now ≤ listed := Nat.le_add_right_of_le later
  have taken := (kept.advance listedLater).intake tasks
  simp only [rounded, round_value]
  rw [left, admitted]
  exact taken

theorem kept {started : List (Nat × Task)}
    (rounds : Rounds worker surroundings index now scheduled course run)
    (kept : course.Kept worker surroundings now started) :
    run.course.Kept worker surroundings run.stoppedAt (started ++ run.started) := by
  induction rounds generalizing started with
  | stops => simpa using kept.advance (Nat.le_max_left _ _)
  | @goes index now scheduled began listed course rest untold began_eq listed_eq later ih =>
    have rounded := kept_round index kept (began_eq ▸ Nat.le_max_left now scheduled)
    rw [← listed_eq] at rounded
    simpa using ih rounded

/-- A loop that waits can go through what a run goes through. -/
theorem exists_moves (rounds : Rounds worker surroundings index now scheduled course run)
    {loop : RunLoop} (waiting : loop.stage = .waiting) (untold : ¬ loop.told)
    (same : loop.executions = course.executions) :
    ∃ moves, let ended := loop.after worker moves
      ended.stage = .stopped ∧
        ended.begun = loop.begun + run.ticks.length ∧
        ended.executions = run.course.executions ∧
        ended.admitted = loop.admitted ++ run.started.map Prod.snd ∧
        moves.filterMap Move.answer? = run.answers surroundings index := by
  induction rounds generalizing loop with
  | @stops index now scheduled course told =>
    obtain ⟨moves, ended, unanswered, stopped⟩ := RunLoop.exists_stop worker waiting
      (course.endings.takeWhile (·.time ≤ max now surroundings.shutdown))
    refine ⟨moves, ?_⟩
    rw [stopped]
    refine ⟨rfl, rfl, ?_, (List.append_nil _).symm, unanswered⟩
    simp only [same, Course.advance, Course.settle_value]
  | @goes index now scheduled began listed course rest early began_eq listed_eq later ih =>
    obtain ⟨moves, ended, answered, next_eq⟩ := RunLoop.exists_round worker waiting
      untold (course.endings.takeWhile (·.time ≤ listed)) (surroundings.controller index)
      (surroundings.wallClock began)
    have left : loop.executions.endedBy (course.endings.takeWhile (·.time ≤ listed)) =
        (course.advance listed).value.executions := by
      rw [same, Course.advance, Course.settle_value]
    rw [left] at next_eq
    have sameNext : (loop.after worker moves).executions =
        (worker.round surroundings index began course).value.2.executions := by
      rw [next_eq, round_value, listed_eq]
    obtain ⟨others, stopped, begun, sameEnd, admitted, answers⟩ :=
      ih (by rw [next_eq]; exact waiting) (by rw [next_eq]; exact untold) sameNext
    refine ⟨moves ++ others, ?_⟩
    rw [RunLoop.after_append]
    refine ⟨stopped, ?_, sameEnd, ?_, ?_⟩
    · rw [begun, next_eq, List.length_cons]
      exact (Nat.add_right_comm _ _ _).trans (Nat.add_assoc _ _ _)
    · rw [admitted, next_eq, round_value, listed_eq]
      simp [Function.comp_def]
    · rw [List.filterMap_append, answered, answers]
      rfl

end Rounds

/-- A run is what a loop comes to by some moves that bring its ticks the same answers, and what is
in flight ends after the run as it does after the loop. -/
def IsOfLoop (worker : Worker) (surroundings : Surroundings) (run : Run) : Prop :=
  ∃ moves, let loop := (RunLoop.start worker).after worker moves
    loop.stage = .stopped ∧
      loop.begun = run.ticks.length ∧
      loop.executions = run.course.executions ∧
      loop.admitted = run.started.map Prod.snd ∧
      moves.filterMap Move.answer? = run.answers surroundings 0 ∧
      ∀ limit, ∃ endings : List Ending, (run.course.advance limit).value.executions =
        (loop.after worker (endings.map Ending.move)).executions

/-- What is in flight after a run is what the run began and has not ended in its own time. -/
def LeavesToEnd (surroundings : Surroundings) (run : Run) : Prop :=
  ∀ limit, run.stoppedAt ≤ limit → ∀ execution,
    execution ∈ (run.course.advance limit).value.executions.running ↔
      execution.slot = ⟨execution.task.volume⟩ ∧
        ∃ time, (time, execution.task) ∈ run.started ∧
          surroundings.Lasts time execution.task limit

/-- Whatever moves a loop has made, it heeds the shutdown before it begins a tick, carries through
the tick that is under way, outlives ticks that fail, and when it has stopped, lets what is in
flight finish, each execution once and whatever the order. A run on a clock is a run of this loop,
whatever its surroundings and its timer: no tick begins at the time of the shutdown or after it,
only the last lasts beyond it, and what it leaves in flight ends in its own time. -/
theorem shutdown_takes_effect_between_ticks (worker : Worker) :
    (∀ moves,
      let loop := (RunLoop.start worker).after worker moves
      RunLoop.HeedsShutdown worker loop ∧ RunLoop.CarriesThrough worker loop ∧
        RunLoop.OutlivesFailures worker loop ∧
        (loop.stage = .stopped →
          ∀ later, RunLoop.LetsFinish loop later (loop.after worker later))) ∧
    ∀ surroundings, ∀ positive : 0 < worker.tickInterval,
      let run := (worker.run surroundings positive).value
      Timely worker surroundings 0 run.ticks ∧ (run.ticks = [] ↔ surroundings.shutdown = 0) ∧
        IsOfLoop worker surroundings run ∧ LeavesToEnd surroundings run := by
  constructor
  · intro moves loop
    have sound : loop.Sound worker := RunLoop.after_keeps
      (fun effect sound => effect.sound sound) (RunLoop.start_sound worker) moves
    exact ⟨RunLoop.heedsShutdown worker loop, sound.carriesThrough,
      RunLoop.outlivesFailures worker loop, sound.letsFinish⟩
  · intro surroundings positive run
    have rounds : Rounds worker surroundings 0 0 0 { executions := worker.idle } run :=
      rounds_taken positive
    have kept : run.course.Kept worker surroundings run.stoppedAt run.started :=
      rounds.kept .initial
    have idle : run.ticks = [] ↔ surroundings.shutdown = 0 :=
      rounds.ticks_eq_nil_iff.trans Nat.le_zero
    refine ⟨rounds.timely, idle, ?_, fun _ later _ => kept.mem_running_iff later⟩
    obtain ⟨moves, stopped, begun, same, admitted, answers⟩ :=
      rounds.exists_moves (show (RunLoop.start worker).stage = .waiting from rfl)
        Bool.false_ne_true rfl
    refine ⟨moves, stopped, begun.trans (Nat.zero_add _), same, admitted, answers, fun limit =>
      ⟨run.course.endings.takeWhile (·.time ≤ limit), ?_⟩⟩
    obtain ⟨ended, settled⟩ := RunLoop.exists_after_endings worker
      ((RunLoop.start worker).after worker moves) (run.course.endings.takeWhile (·.time ≤ limit))
    rw [settled, same, Course.advance, Course.settle_value]

/-- Two ticks at the resting archive, which cannot be listed at first. The worker is told to shut
down while the second tick waits for its listing. -/
def shutDownWhileListing : Surroundings where
  timer := .delaying
  controller index := if index = 0 then unlistedArchive else restingArchive
  listingTime index := if index = 0 then 500 else 7000
  execution _ _ := some (1000, .completed)
  wallClock _ := .ofSeconds 100000
  shutdown := 15000

/-- A proof of its own, so that runs which rest on it are the same by their text. -/
theorem tickInterval_pos_of_eagerWorker : 0 < eagerWorker.tickInterval := by decide

/-- The tick that is under way at the shutdown starts its task, though another tick has come due by
then. The task ends after the loop. -/
theorem shutdown_takes_effect_between_ticks_while_listing :
    let now : Instant := .ofSeconds 100000
    let apply := eagerWorker.task "volume" (.apply 12)
    let loop := (RunLoop.start eagerWorker).after eagerWorker
      [.due, .go, .go, .shutdown, .answer restingArchive now, .due, .go, .go, .go, .go]
    let run := (eagerWorker.run shutDownWhileListing tickInterval_pos_of_eagerWorker).value
    0 < eagerWorker.tickInterval ∧ loop.stage = .stopped ∧
      loop.executions.running = [⟨apply, ⟨"volume"⟩⟩] ∧
      (∀ moves, (loop.after eagerWorker moves).begun = 1) ∧
      (∀ outcome, ⟨apply, ⟨"volume"⟩⟩ ∉
        (loop.after eagerWorker [.due, .go, .ending "volume" outcome]).executions.running) ∧
      run.ticks = [0, 10000] ∧ run.started = [(17000, apply)] ∧
      ∀ limit, 17000 ≤ limit →
        (⟨apply, ⟨"volume"⟩⟩ ∈ (run.course.advance limit).value.executions.running ↔
          limit < 18000) := by
  intro now apply loop run
  obtain ⟨moved, clocked⟩ := shutdown_takes_effect_between_ticks eagerWorker
  obtain ⟨-, -, -, finish⟩ := moved
    [.due, .go, .go, .shutdown, .answer restingArchive now, .due, .go, .go, .go, .go]
  have stopped : loop.stage = .stopped := by decide
  have running : loop.executions.running = [⟨apply, ⟨"volume"⟩⟩] := by decide
  have begun : loop.begun = 1 := by decide
  have ticks : run.ticks = [0, 10000] := by decide +kernel
  have started : run.started = [(17000, apply)] := by decide +kernel
  have stoppedAt : run.stoppedAt = 17000 := by decide +kernel
  have leaves : LeavesToEnd shutDownWhileListing run :=
    (clocked shutDownWhileListing tickInterval_pos_of_eagerWorker).2.2.2
  refine ⟨tickInterval_pos_of_eagerWorker, stopped, running,
    fun moves => (finish stopped moves).begun_eq.trans begun, ?_, ticks, started, ?_⟩
  · intro outcome still
    have unended := (((finish stopped _).running_iff _).1 still).2 outcome
    simp [apply, eagerWorker, task] at unended
  · intro limit later
    rw [leaves limit (stoppedAt ▸ later)]
    simp [started, shutDownWhileListing, Surroundings.Lasts, apply, task]

end Worker

end ArchiveUpkeep
