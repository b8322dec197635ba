import ArchiveUpkeep.Proofs.DistinctKeys
import ArchiveUpkeep.Proofs.ReportedExecutions
import Mathlib.Data.List.Perm.Basic

/-! Every task that a worker takes on is executed once and then forgotten. Ticks and ends of
executions may come in any order, with any answers and any outcomes: what is in flight is what
holds a slot, and what was ever admitted has either ended or is in flight. -/
namespace ArchiveUpkeep

namespace Executions

/-- What is in flight is what the slots are taken by. -/
structure Orderly (capacity : Nat) (executions : Executions) : Prop where
  capacity_eq : executions.slots.capacity = capacity
  count_le : executions.slots.count ≤ capacity
  slot_eq : ∀ execution ∈ executions.running, execution.slot = ⟨execution.task.volume⟩
  taken_eq : executions.slots.taken =
    executions.running.map fun execution => (execution.task.volume, execution.task)

/-- What an intake leaves: it begins the executions of the admitted tasks, in their order, behind
those in flight, and reports each of them once. -/
structure Intaken (executions : Executions) (taken : Traced (IntakeReport × Executions)) :
    Prop where
  capacity_eq : taken.value.2.slots.capacity = executions.slots.capacity
  count_le : executions.slots.count ≤ executions.slots.capacity →
    taken.value.2.slots.count ≤ executions.slots.capacity
  taken_eq : taken.value.2.slots.taken =
    executions.slots.taken ++ taken.value.1.admitted.map fun task => (task.volume, task)
  running_eq : taken.value.2.running =
    executions.running ++ taken.value.1.admitted.map fun task => ⟨task, ⟨task.volume⟩⟩
  started_eq : taken.events.filterMap Event.started? = taken.value.1.admitted
  ended_eq : taken.events.filterMap Event.ended? = []

variable {executions after : Executions} {task : Task} {capacity : Nat}

theorem Orderly.within (orderly : executions.Orderly capacity) :
    executions.slots.count ≤ executions.slots.capacity :=
  orderly.capacity_eq.symm ▸ orderly.count_le

theorem start_eq_ok_iff :
    executions.start task = .ok after ↔
      (¬ executions.slots.IsRunning task.volume ∧
        executions.slots.count < executions.slots.capacity) ∧
      after.slots.capacity = executions.slots.capacity ∧
      after.slots.taken = executions.slots.taken ++ [(task.volume, task)] ∧
      after.running = executions.running ++ [⟨task, ⟨task.volume⟩⟩] := by
  unfold start
  cases result : executions.slots.occupy task with
  | error refusal =>
    simp only [Except.map, reduceCtorEq, false_iff]
    rintro ⟨free, -⟩
    cases refusal with
    | volumeBusy => exact free.1 (Slots.occupy_eq_volumeBusy_iff.1 result)
    | full => exact absurd (Slots.occupy_eq_full_iff.1 result).2 (Nat.not_le.2 free.2)
  | ok granted =>
    obtain ⟨slot, slots⟩ := granted
    obtain ⟨free, rfl, sameCapacity, taken⟩ := Slots.occupy_eq_ok_iff.1 result
    simp only [Except.map, Except.ok.injEq]
    constructor
    · rintro rfl
      exact ⟨free, sameCapacity, taken, rfl⟩
    · rintro ⟨-, otherCapacity, otherTaken, running⟩
      obtain ⟨otherSlots, otherRunning⟩ := after
      have sameSlots : slots = otherSlots := by
        cases slots
        cases otherSlots
        simp_all
      rw [sameSlots, ← running]

theorem intake_intaken (executions : Executions) (tasks : List Task) :
    Intaken executions (executions.intake tasks) := by
  induction tasks generalizing executions with
  | nil => exact ⟨rfl, id, by simp [intake], by simp [intake], rfl, rfl⟩
  | cons task rest ih =>
    unfold intake
    split
    next started result =>
      obtain ⟨⟨_, room⟩, sameCapacity, taken, running⟩ := start_eq_ok_iff.1 result
      have later := ih started
      have within : started.slots.count ≤ started.slots.capacity := by
        rw [sameCapacity]
        simpa [Slots.count, taken] using Nat.succ_le_of_lt room
      exact
        { capacity_eq := later.capacity_eq.trans sameCapacity
          count_le := fun _ => sameCapacity ▸ later.count_le within
          taken_eq := by simpa [taken] using later.taken_eq
          running_eq := by simpa [running] using later.running_eq
          started_eq := by simpa [Event.started?] using later.started_eq
          ended_eq := by simpa [Event.ended?] using later.ended_eq }
    next result =>
      have later := ih executions
      exact
        { capacity_eq := later.capacity_eq
          count_le := later.count_le
          taken_eq := later.taken_eq
          running_eq := later.running_eq
          started_eq := by simpa [List.filterMap_cons, Event.started?] using later.started_eq
          ended_eq := by simpa [List.filterMap_cons, Event.ended?] using later.ended_eq }
    next result => exact ⟨rfl, id, by simp, by simp, rfl, rfl⟩

/-- The intake leaves what is in flight in order. -/
theorem Orderly.intake (orderly : executions.Orderly capacity) (tasks : List Task) :
    (executions.intake tasks).value.2.Orderly capacity := by
  have intaken := intake_intaken executions tasks
  exact
    { capacity_eq := intaken.capacity_eq.trans orderly.capacity_eq
      count_le := by
        have within := intaken.count_le orderly.within
        rwa [orderly.capacity_eq] at within
      slot_eq := by
        rw [intaken.running_eq]
        intro execution inFlight
        rcases List.mem_append.1 inFlight with before | begun
        · exact orderly.slot_eq execution before
        · obtain ⟨task, -, rfl⟩ := List.mem_map.1 begun
          rfl
      taken_eq := by
        rw [intaken.taken_eq, intaken.running_eq, orderly.taken_eq]
        simp [Function.comp_def] }

namespace Orderly
variable (orderly : executions.Orderly capacity)
include orderly

theorem volumes_eq :
    executions.slots.volumes = executions.running.map fun execution => execution.task.volume := by
  simp [Slots.volumes, orderly.taken_eq, Function.comp_def]

theorem nodup_volumes : (executions.running.map fun execution => execution.task.volume).Nodup :=
  orderly.volumes_eq ▸ executions.slots.nodup_volumes

theorem find?_eq_some {execution : Execution} (inFlight : execution ∈ executions.running) :
    executions.find? execution.task.volume = some execution :=
  (DistinctKeys.find?_eq_some_iff orderly.nodup_volumes).2 ⟨inFlight, rfl⟩

/-- Ending an execution takes away what is in flight for its volume, which is itself alone. -/
theorem erase_eq_filter {execution : Execution} (inFlight : execution ∈ executions.running) :
    executions.running.erase execution =
      executions.running.filter fun other => other.task.volume ≠ execution.task.volume := by
  rw [orderly.nodup_volumes.of_map.erase_eq_filter]
  refine List.filter_congr fun other otherInFlight => ?_
  by_cases same : other = execution
  · simp [same]
  · have different : other.task.volume ≠ execution.task.volume := fun sameVolume =>
      same (List.inj_on_of_nodup_map orderly.nodup_volumes otherInFlight inFlight sameVolume)
    simp [same, different]

/-- Whatever its outcome, an execution that ends gives back its own slot and no other. -/
theorem taken_release_eq {execution : Execution} (inFlight : execution ∈ executions.running) :
    (executions.slots.release execution.slot).taken =
      (executions.running.erase execution).map fun other => (other.task.volume, other.task) := by
  rw [orderly.erase_eq_filter inFlight, orderly.slot_eq execution inFlight]
  simp [Slots.release, orderly.taken_eq, List.filter_map, Function.comp_def]

theorem release {execution : Execution} (inFlight : execution ∈ executions.running) :
    Orderly capacity
      { slots := executions.slots.release execution.slot
        running := executions.running.erase execution } where
  capacity_eq := orderly.capacity_eq
  count_le := Nat.le_trans (List.length_filter_le _ _) orderly.count_le
  slot_eq other left := orderly.slot_eq other (List.mem_of_mem_erase left)
  taken_eq := orderly.taken_release_eq inFlight

end Orderly

end Executions

/-- What happens to a worker: a tick at some time, with the answers that it gets, or the end of the
execution in flight for a volume. -/
inductive Happening where
  | tick (controller : Controller) (now : Instant)
  | ending (volume : String) (outcome : Outcome)

/-- What a worker has come to: what it has in flight, the tasks that its ticks reported as admitted,
the executions that ended and how, and all its events. -/
structure History where
  executions : Executions
  admitted : List Task := []
  ended : List (Task × Outcome) := []
  events : List Event := []

/-- The tasks that a tick reports as admitted. -/
def admittedIn : Except ControllerError TickReport → List Task
  | .ok report => report.intake.admitted
  | .error _ => []

namespace History

/-- A volume that has nothing in flight has nothing that could end. -/
def extend (worker : Worker) (history : History) : Happening → History
  | .tick controller now =>
    let ticked := worker.tick controller now history.executions
    { history with
      executions := ticked.value.2
      admitted := history.admitted ++ admittedIn ticked.value.1
      events := history.events ++ ticked.events }
  | .ending volume outcome =>
    match history.executions.find? volume, history.executions.finish? volume outcome with
    | some execution, some finished =>
      { history with
        executions := finished.value
        ended := history.ended ++ [(execution.task, outcome)]
        events := history.events ++ finished.events }
    | _, _ => history

/-- The history of a worker that started with nothing in flight. -/
def run (worker : Worker) (happenings : List Happening) : History :=
  happenings.foldl (extend worker) { executions := worker.idle }

/-- Every task that was admitted has ended or is in flight, and the events say so. -/
structure Accounted (worker : Worker) (history : History) : Prop where
  orderly : history.executions.Orderly worker.capacity
  admitted_perm : history.admitted.Perm
    (history.ended.map Prod.fst ++ history.executions.running.map Execution.task)
  started_eq : history.events.filterMap Event.started? = history.admitted
  ended_eq : history.events.filterMap Event.ended? =
    history.ended.filter fun ending => ending.2 ≠ .crashed

end History

section Tick
variable (worker : Worker) (controller : Controller) (now : Instant) (executions : Executions)

/-- Whatever a tick is told, it is an intake of some tasks, and reports of executions what that
intake reports. One whose listing fails takes in nothing. -/
theorem tick_is_intake : ∃ tasks,
    (worker.tick controller now executions).value.2 = (executions.intake tasks).value.2 ∧
    admittedIn (worker.tick controller now executions).value.1 =
      (executions.intake tasks).value.1.admitted ∧
    (worker.tick controller now executions).events.filterMap Event.started? =
      (executions.intake tasks).events.filterMap Event.started? ∧
    (worker.tick controller now executions).events.filterMap Event.ended? =
      (executions.intake tasks).events.filterMap Event.ended? := by
  cases answer : controller.answer (.volumes worker.primary) with
  | error error =>
    refine ⟨[], ?_⟩
    simp [Worker.tick, answer, Executions.intake, admittedIn]
  | ok listed =>
    refine ⟨(worker.candidates controller now (worker.archived controller listed).value).value, ?_⟩
    have quietly := worker.quiet_archived controller listed
    have proposed :=
      worker.quiet_candidates controller now (worker.archived controller listed).value
    simp only [Worker.tick, Worker.attend, Traced.bind_value, Traced.bind_events,
      Controller.ask_value, Controller.ask_events, answer, admittedIn, Traced.pure_value,
      Traced.pure_events, Traced.note_events, List.filterMap_append, List.append_nil,
      List.nil_append, Event.filterMap_started_of_aside quietly,
      Event.filterMap_ended_of_aside quietly, Event.filterMap_started_of_aside proposed,
      Event.filterMap_ended_of_aside proposed]
    simp [List.filterMap_cons, Event.started?, Event.ended?]

end Tick

namespace History
variable {worker : Worker} {history : History}

theorem Accounted.initial : Accounted worker { executions := worker.idle } where
  orderly := ⟨rfl, Nat.zero_le _, by simp [Worker.idle], rfl⟩
  admitted_perm := .refl _
  started_eq := rfl
  ended_eq := rfl

namespace Accounted
variable (accounted : Accounted worker history)
include accounted

theorem extend_tick (controller : Controller) (now : Instant) :
    Accounted worker (history.extend worker (.tick controller now)) := by
  obtain ⟨tasks, after, admitted, started, ended⟩ :=
    tick_is_intake worker controller now history.executions
  have intaken := Executions.intake_intaken history.executions tasks
  simp only [extend]
  exact
    { orderly := by
        rw [after]
        exact accounted.orderly.intake tasks
      admitted_perm := by
        rw [after, admitted, intaken.running_eq, List.map_append, List.map_map, ← List.append_assoc]
        simpa [Function.comp_def] using accounted.admitted_perm.append_right _
      started_eq := by
        rw [List.filterMap_append, accounted.started_eq, started, intaken.started_eq, admitted]
      ended_eq := by
        rw [List.filterMap_append, accounted.ended_eq, ended, intaken.ended_eq, List.append_nil] }

theorem extend_ending (volume : String) (outcome : Outcome) :
    Accounted worker (history.extend worker (.ending volume outcome)) := by
  simp only [extend, Executions.finish?]
  cases found : history.executions.find? volume with
  | none => exact accounted
  | some execution =>
    have inFlight : execution ∈ history.executions.running := List.mem_of_find?_eq_some found
    simp only [Option.map_some]
    exact
      { orderly := accounted.orderly.release inFlight
        admitted_perm := by
          have left := (List.perm_cons_erase inFlight).map Execution.task
          refine accounted.admitted_perm.trans ?_
          rw [List.map_append, List.append_assoc]
          exact left.append_left _
        started_eq := by
          rw [List.filterMap_append, accounted.started_eq]
          cases outcome <;> simp [Executions.ending, Event.started?]
        ended_eq := by
          rw [List.filterMap_append, accounted.ended_eq, List.filter_append]
          cases outcome <;> simp [Executions.ending, Event.ended?] }

end Accounted

/-- Every history of a worker adds up. -/
theorem run_accounted (worker : Worker) (happenings : List Happening) :
    Accounted worker (run worker happenings) := by
  have carried (history : History) (accounted : Accounted worker history) :
      Accounted worker (happenings.foldl (extend worker) history) := by
    induction happenings generalizing history with
    | nil => exact accounted
    | cons happening rest ih =>
      cases happening with
      | tick controller now => exact ih _ (accounted.extend_tick controller now)
      | ending volume outcome => exact ih _ (accounted.extend_ending volume outcome)
  exact carried _ .initial

end History

/-- Whatever its outcome, an execution in flight that ends gives back its own slot and leaves all
else that is in flight as it is. -/
def FreesOwnSlot (executions : Executions) : Prop :=
  ∀ execution ∈ executions.running, ∀ outcome, ∃ finished,
    executions.finish? execution.task.volume outcome = some finished ∧
      finished.value.running = executions.running.erase execution ∧
      finished.value.slots.taken =
        (executions.running.erase execution).map (fun other => (other.task.volume, other.task)) ∧
      ¬ finished.value.slots.IsRunning execution.task.volume ∧
      finished.value.slots.available = executions.slots.available + 1

namespace Executions.Orderly
variable {executions : Executions} {capacity : Nat}

theorem finish?_eq_some (orderly : executions.Orderly capacity) {execution : Execution}
    (inFlight : execution ∈ executions.running) (outcome : Outcome) :
    executions.finish? execution.task.volume outcome = some
      { value :=
          { slots := executions.slots.release execution.slot
            running := executions.running.erase execution }
        events := ending execution.task outcome } := by
  rw [finish?, orderly.find?_eq_some inFlight, Option.map_some]

theorem freesOwnSlot (orderly : executions.Orderly capacity) : FreesOwnSlot executions := by
  intro execution inFlight outcome
  refine ⟨_, orderly.finish?_eq_some inFlight outcome, rfl, ?_, ?_, ?_⟩
  · exact orderly.taken_release_eq inFlight
  · rw [orderly.slot_eq execution inFlight]
    simp [Slots.IsRunning]
  · have before := orderly.count_le
    have countBefore : executions.slots.count = executions.running.length := by
      rw [Slots.count, orderly.taken_eq, List.length_map]
    have countAfter : (executions.slots.release execution.slot).count =
        executions.running.length - 1 := by
      rw [Slots.count, orderly.taken_release_eq inFlight, List.length_map,
        List.length_erase_of_mem inFlight]
    have positive := List.length_pos_of_mem inFlight
    have sameCapacity := orderly.capacity_eq
    simp only [Slots.available, Slots.capacity_release, countBefore, countAfter] at before ⊢
    omega

end Executions.Orderly

/-- Whatever happens to a worker, in whatever order: what is in flight is what holds a slot, within
the bound and one for each volume; what was admitted has ended or is in flight, each task as often
as it was admitted; an end frees its slot whatever the outcome; and each beginning and each end with
an answer is reported once. -/
theorem admitted_tasks_are_executed_once (worker : Worker) (happenings : List Happening) :
    let history := History.run worker happenings
    let running := history.executions.running
    history.executions.slots.taken =
        running.map (fun execution => (execution.task.volume, execution.task)) ∧
      running.length ≤ worker.config.general.maxConcurrentTasks.toNat ∧
      (running.map fun execution => execution.task.volume).Nodup ∧
      history.admitted.Perm (history.ended.map Prod.fst ++ running.map Execution.task) ∧
      FreesOwnSlot history.executions ∧
      history.events.filterMap Event.started? = history.admitted ∧
      history.events.filterMap Event.ended? =
        history.ended.filter fun ending => ending.2 ≠ .crashed := by
  have accounted := History.run_accounted worker happenings
  have orderly := accounted.orderly
  have within := orderly.count_le
  rw [Slots.count, orderly.taken_eq, List.length_map] at within
  exact ⟨orderly.taken_eq, within, orderly.nodup_volumes, accounted.admitted_perm,
    orderly.freesOwnSlot, accounted.started_eq, accounted.ended_eq⟩

end ArchiveUpkeep
