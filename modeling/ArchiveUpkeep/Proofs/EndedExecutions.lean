import ArchiveUpkeep.Proofs.ExecutionAccounting
import ArchiveUpkeep.Worker.Run

/-! Executions that end. Each end takes the execution in flight for its volume and gives back its
slot. On a clock the ends are taken in the order of their times, and what is in flight at a time is
what was begun and lasts beyond it: nothing is lost, and nothing ends before its time. -/
namespace ArchiveUpkeep

namespace Executions

/-- What is left in flight after an end for a volume, if there was anything to end. -/
def ended (executions : Executions) (volume : String) (outcome : Outcome) : Executions :=
  match executions.finish? volume outcome with
  | some finished => finished.value
  | none => executions

/-- The task that an end for a volume ends, and how. -/
def ending? (executions : Executions) (volume : String) (outcome : Outcome) :
    Option (Task × Outcome) :=
  (executions.find? volume).map fun execution => (execution.task, outcome)

variable {executions : Executions} {capacity : Nat} {volume : String} {outcome : Outcome}

namespace Orderly
variable (orderly : executions.Orderly capacity)
include orderly

theorem ended : (executions.ended volume outcome).Orderly capacity := by
  unfold Executions.ended finish?
  cases found : executions.find? volume with
  | none => exact orderly
  | some execution => exact orderly.release (List.mem_of_find?_eq_some found)

/-- An end takes what is in flight for its volume and nothing else. -/
theorem running_ended : (executions.ended volume outcome).running =
    executions.running.filter fun execution => execution.task.volume ≠ volume := by
  unfold Executions.ended finish?
  cases found : executions.find? volume with
  | none =>
    have idle := List.find?_eq_none.1 found
    exact (List.filter_eq_self.2 fun execution inFlight => by simpa using idle _ inFlight).symm
  | some execution =>
    obtain rfl : execution.task.volume = volume := by simpa using List.find?_some found
    exact orderly.erase_eq_filter (List.mem_of_find?_eq_some found)

end Orderly

theorem tasks_ended_perm (executions : Executions) (volume : String) (outcome : Outcome) :
    (executions.running.map Execution.task).Perm
      ((executions.ending? volume outcome).toList.map Prod.fst ++
        (executions.ended volume outcome).running.map Execution.task) := by
  unfold ended ending? finish?
  cases found : executions.find? volume with
  | none => exact .refl _
  | some execution =>
    exact (List.perm_cons_erase (List.mem_of_find?_eq_some found)).map Execution.task

end Executions

namespace Surroundings

/-- The end of the execution of a task that begins at a time, if it has one. -/
def ending? (surroundings : Surroundings) (time : Nat) (task : Task) : Option Ending :=
  (surroundings.execution time task).map fun (lasting, outcome) =>
    { time := time + lasting, volume := task.volume, outcome }

/-- The execution of a task that begins at a time does not end by the time `limit`. -/
def Lasts (surroundings : Surroundings) (time : Nat) (task : Task) (limit : Nat) : Prop :=
  ∀ lasting outcome, surroundings.execution time task = some (lasting, outcome) →
    limit < time + lasting

variable {surroundings : Surroundings} {time limit : Nat} {task : Task} {ending : Ending}

theorem volume_of_ending? (own : surroundings.ending? time task = some ending) :
    ending.volume = task.volume := by
  obtain ⟨_, -, rfl⟩ := Option.map_eq_some_iff.1 own
  rfl

theorem lasts_iff : surroundings.Lasts time task limit ↔
    ∀ ending, surroundings.ending? time task = some ending → limit < ending.time := by
  constructor
  · intro lasts ending own
    obtain ⟨⟨lasting, outcome⟩, found, rfl⟩ := Option.map_eq_some_iff.1 own
    exact lasts lasting outcome found
  · exact fun later lasting outcome found => later _ (Option.map_eq_some_iff.2 ⟨_, found, rfl⟩)

theorem Lasts.of_le {sooner : Nat} (lasts : surroundings.Lasts time task limit)
    (le : sooner ≤ limit) : surroundings.Lasts time task sooner :=
  fun lasting outcome found => Nat.lt_of_le_of_lt le (lasts lasting outcome found)

end Surroundings

namespace Ending
variable {ending other : Ending} {endings : List Ending} {limit : Nat}

/-- In the order of their times. -/
def Sorted (endings : List Ending) : Prop :=
  endings.Pairwise fun earlier later => earlier.time ≤ later.time

theorem mem_insert_iff : other ∈ ending.insert endings ↔ other = ending ∨ other ∈ endings := by
  induction endings with
  | nil => simp [insert]
  | cons first rest ih =>
    unfold insert
    split
    · rw [List.mem_cons, ih, List.mem_cons]
      exact or_left_comm
    · exact List.mem_cons

theorem Sorted.insert (sorted : Sorted endings) : Sorted (ending.insert endings) := by
  induction endings with
  | nil => exact List.pairwise_singleton _ _
  | cons first rest ih =>
    obtain ⟨least, ordered⟩ := List.pairwise_cons.1 sorted
    unfold Ending.insert
    split
    next notLater =>
      refine List.pairwise_cons.2 ⟨fun later inside => ?_, ih ordered⟩
      rcases mem_insert_iff.1 inside with rfl | inside
      · exact notLater
      · exact least later inside
    next later =>
      have sooner := Nat.le_of_not_le later
      refine List.pairwise_cons.2 ⟨List.forall_mem_cons.2 ⟨sooner, fun other inside => ?_⟩, sorted⟩
      exact Nat.le_trans sooner (least other inside)

/-! What is due by a time stands in front. -/

theorem Sorted.takeWhile_eq_filter (sorted : Sorted endings) :
    endings.takeWhile (·.time ≤ limit) = endings.filter (·.time ≤ limit) := by
  induction endings with
  | nil => rfl
  | cons first rest ih =>
    obtain ⟨least, ordered⟩ := List.pairwise_cons.1 sorted
    by_cases due : first.time ≤ limit
    · simp [due, ih ordered]
    · have none_due : rest.filter (·.time ≤ limit) = [] := by
        refine List.filter_eq_nil_iff.2 fun ending inside => ?_
        have := least ending inside
        simp only [decide_eq_true_eq]
        omega
      simp [due, none_due]

theorem Sorted.dropWhile_eq_filter (sorted : Sorted endings) :
    endings.dropWhile (·.time ≤ limit) = endings.filter (limit < ·.time) := by
  induction endings with
  | nil => rfl
  | cons first rest ih =>
    obtain ⟨least, ordered⟩ := List.pairwise_cons.1 sorted
    by_cases due : first.time ≤ limit
    · simp [due, ih ordered, Nat.not_lt.2 due]
    · have all_later : rest.filter (limit < ·.time) = rest := by
        refine List.filter_eq_self.2 fun ending inside => ?_
        have := least ending inside
        simp only [decide_eq_true_eq]
        omega
      simp [due, all_later, Nat.lt_of_not_le due]

end Ending

namespace Executions
variable {executions : Executions} {capacity : Nat} {endings : List Ending}

/-- What is left in flight after some ends. -/
def endedBy (executions : Executions) (endings : List Ending) : Executions :=
  endings.foldl (fun left ending => left.ended ending.volume ending.outcome) executions

theorem Orderly.endedBy (orderly : executions.Orderly capacity) :
    (executions.endedBy endings).Orderly capacity := by
  induction endings generalizing executions with
  | nil => exact orderly
  | cons ending rest ih => exact ih orderly.ended

theorem Orderly.mem_running_endedBy_iff (orderly : executions.Orderly capacity)
    {execution : Execution} :
    execution ∈ (executions.endedBy endings).running ↔
      execution ∈ executions.running ∧
        ∀ ending ∈ endings, ending.volume ≠ execution.task.volume := by
  induction endings generalizing executions with
  | nil => simp [Executions.endedBy]
  | cons ending rest ih =>
    rw [Executions.endedBy, List.foldl_cons, ← Executions.endedBy, ih orderly.ended,
      orderly.running_ended, List.mem_filter, decide_eq_true_eq, and_assoc, List.forall_mem_cons,
      ne_comm]

end Executions

namespace Course
variable {worker : Worker} {surroundings : Surroundings} {course : Course}
  {executions : Executions} {endings : List Ending} {ending : Ending} {tasks : List Task}
  {task : Task} {now limit time : Nat} {started : List (Nat × Task)}

theorem settle_value :
    (settle limit executions endings).value =
      { executions := executions.endedBy (endings.takeWhile (·.time ≤ limit))
        endings := endings.dropWhile (·.time ≤ limit) } := by
  induction endings generalizing executions with
  | nil => rfl
  | cons ending rest ih =>
    unfold settle
    by_cases due : ending.time ≤ limit
    · rw [if_pos due, List.takeWhile_cons_of_pos (by simpa using due),
        List.dropWhile_cons_of_pos (by simpa using due), Executions.endedBy, List.foldl_cons,
        ← Executions.endedBy, Executions.ended]
      cases executions.finish? ending.volume ending.outcome with
      | none => exact ih
      | some finished => exact ih
    · rw [if_neg due, List.takeWhile_cons_of_neg (by simpa using due),
        List.dropWhile_cons_of_neg (by simpa using due)]
      rfl

theorem mem_schedule_iff :
    ending ∈ schedule surroundings time endings task ↔
      ending ∈ endings ∨ surroundings.ending? time task = some ending := by
  unfold schedule Surroundings.ending?
  cases surroundings.execution time task with
  | none => simp
  | some outcome => simp [Ending.mem_insert_iff, or_comm, eq_comm]

theorem mem_foldl_schedule_iff :
    ending ∈ tasks.foldl (schedule surroundings time) endings ↔
      ending ∈ endings ∨ ∃ task ∈ tasks, surroundings.ending? time task = some ending := by
  induction tasks generalizing endings with
  | nil => simp
  | cons task rest ih => simp [ih, mem_schedule_iff, or_assoc]

theorem sorted_foldl_schedule (sorted : Ending.Sorted endings) :
    Ending.Sorted (tasks.foldl (schedule surroundings time) endings) := by
  induction tasks generalizing endings with
  | nil => exact sorted
  | cons task rest ih =>
    refine ih ?_
    unfold schedule
    split
    · exact sorted.insert
    · exact sorted

/-- An execution of a task that began at a time has its own ending ahead of it, if it has one, and
no other. -/
def Awaits (surroundings : Surroundings) (endings : List Ending) (time : Nat) (task : Task) :
    Prop :=
  ∀ ending, ending ∈ endings ∧ ending.volume = task.volume ↔
    surroundings.ending? time task = some ending

/-- Tasks of other volumes do not touch it. -/
theorem Awaits.schedule {begun : Nat} (awaits : Awaits surroundings endings begun task)
    (apart : ∀ other ∈ tasks, other.volume ≠ task.volume) :
    Awaits surroundings (tasks.foldl (schedule surroundings time) endings) begun task := by
  intro ending
  rw [← awaits ending, mem_foldl_schedule_iff]
  refine and_congr_left fun about => or_iff_left ?_
  rintro ⟨other, listed, own⟩
  exact apart other listed ((Surroundings.volume_of_ending? own).symm.trans about)

theorem awaits_of_scheduled (listed : task ∈ tasks) (distinct : (tasks.map Task.volume).Nodup)
    (free : ∀ ending ∈ endings, ending.volume ≠ task.volume) :
    Awaits surroundings (tasks.foldl (schedule surroundings time) endings) time task := by
  intro ending
  rw [mem_foldl_schedule_iff]
  constructor
  · rintro ⟨held | ⟨other, otherListed, own⟩, about⟩
    · exact absurd about (free ending held)
    · have same : other = task := List.inj_on_of_nodup_map distinct otherListed listed
        ((Surroundings.volume_of_ending? own).symm.trans about)
      exact same ▸ own
  · exact fun own => ⟨.inr ⟨task, listed, own⟩, Surroundings.volume_of_ending? own⟩

/-- What is known at the time `now` of a course on which the executions in `started` were begun.
Each that is in flight is one of them and awaits its ending, nothing else is to end, and each that
lasts beyond this time is in flight. -/
structure Kept (worker : Worker) (surroundings : Surroundings) (now : Nat)
    (started : List (Nat × Task)) (course : Course) : Prop where
  orderly : course.executions.Orderly worker.capacity
  sorted : Ending.Sorted course.endings
  owned : ∀ ending ∈ course.endings, ∃ execution ∈ course.executions.running,
    execution.task.volume = ending.volume
  awaited : ∀ execution ∈ course.executions.running, ∃ time, (time, execution.task) ∈ started ∧
    Awaits surroundings course.endings time execution.task
  lasting : ∀ time task, (time, task) ∈ started → surroundings.Lasts time task now →
    ⟨task, ⟨task.volume⟩⟩ ∈ course.executions.running ∧
      Awaits surroundings course.endings time task

theorem Kept.initial : Kept worker surroundings now [] { executions := worker.idle } where
  orderly := History.Accounted.initial.orderly
  sorted := List.Pairwise.nil
  owned := by simp
  awaited := by simp [Worker.idle]
  lasting := by simp

namespace Kept
variable (kept : Kept worker surroundings now started course)
include kept

theorem mem_running_advance_iff {execution : Execution} :
    execution ∈ (course.advance limit).value.executions.running ↔
      execution ∈ course.executions.running ∧
        ∀ ending ∈ course.endings, ending.volume = execution.task.volume → limit < ending.time := by
  rw [advance, settle_value, kept.orderly.mem_running_endedBy_iff, kept.sorted.takeWhile_eq_filter]
  refine and_congr_right fun _ => forall_congr' fun ending => ?_
  rw [List.mem_filter, decide_eq_true_eq, and_imp, ← Nat.not_le]
  exact imp_congr_right fun _ => imp_not_comm

theorem mem_endings_advance_iff :
    ending ∈ (course.advance limit).value.endings ↔
      ending ∈ course.endings ∧ limit < ending.time := by
  rw [advance, settle_value, kept.sorted.dropWhile_eq_filter, List.mem_filter, decide_eq_true_eq]

/-- What is in flight and awaits an ending is in flight until that ending. -/
theorem mem_running_advance_iff_lasts {execution : Execution}
    (inFlight : execution ∈ course.executions.running)
    (awaits : Awaits surroundings course.endings time execution.task) :
    execution ∈ (course.advance limit).value.executions.running ↔
      surroundings.Lasts time execution.task limit := by
  rw [kept.mem_running_advance_iff, Surroundings.lasts_iff, and_iff_right inFlight]
  simp only [← awaits _, and_imp]

theorem awaits_advance (awaits : Awaits surroundings course.endings time task)
    (lasts : surroundings.Lasts time task limit) :
    Awaits surroundings (course.advance limit).value.endings time task := by
  intro ending
  rw [kept.mem_endings_advance_iff, and_right_comm, awaits ending, and_iff_left_iff_imp]
  exact Surroundings.lasts_iff.1 lasts ending

theorem advance (later : now ≤ limit) :
    Kept worker surroundings limit started (course.advance limit).value where
  orderly := by
    rw [Course.advance, settle_value]
    exact kept.orderly.endedBy
  sorted := by
    rw [Course.advance, settle_value]
    exact kept.sorted.sublist (List.dropWhile_sublist _)
  owned ending inside := by
    obtain ⟨inside, later⟩ := kept.mem_endings_advance_iff.1 inside
    obtain ⟨execution, inFlight, same⟩ := kept.owned ending inside
    obtain ⟨time, -, awaits⟩ := kept.awaited execution inFlight
    refine ⟨execution, (kept.mem_running_advance_iff_lasts inFlight awaits).2 ?_, same⟩
    -- an execution has one ending, so it is this one
    refine Surroundings.lasts_iff.2 fun other own => ?_
    have this_one := own.symm.trans ((awaits ending).1 ⟨inside, same.symm⟩)
    exact (Option.some.inj this_one).symm ▸ later
  awaited execution inFlight := by
    have before := (kept.mem_running_advance_iff.1 inFlight).1
    obtain ⟨time, begun, awaits⟩ := kept.awaited execution before
    have lasts := (kept.mem_running_advance_iff_lasts before awaits).1 inFlight
    exact ⟨time, begun, kept.awaits_advance awaits lasts⟩
  lasting time task begun lasts := by
    obtain ⟨inFlight, awaits⟩ := kept.lasting time task begun (lasts.of_le later)
    exact ⟨(kept.mem_running_advance_iff_lasts inFlight awaits).2 lasts,
      kept.awaits_advance awaits lasts⟩

/-- From this time on, what is in flight is what was begun and lasts. -/
theorem mem_running_iff (later : now ≤ limit) {execution : Execution} :
    execution ∈ (course.advance limit).value.executions.running ↔
      execution.slot = ⟨execution.task.volume⟩ ∧
        ∃ time, (time, execution.task) ∈ started ∧
          surroundings.Lasts time execution.task limit := by
  constructor
  · intro still
    have inFlight := (kept.mem_running_advance_iff.1 still).1
    obtain ⟨time, begun, awaits⟩ := kept.awaited execution inFlight
    exact ⟨kept.orderly.slot_eq execution inFlight, time, begun,
      (kept.mem_running_advance_iff_lasts inFlight awaits).1 still⟩
  · rintro ⟨own, time, begun, lasts⟩
    obtain ⟨inFlight, awaits⟩ := kept.lasting time execution.task begun (lasts.of_le later)
    rw [← own] at inFlight
    exact (kept.mem_running_advance_iff_lasts inFlight awaits).2 lasts

/-- An intake begins executions of volumes that had nothing in flight. Each awaits its own ending,
and none of the others is touched. -/
theorem intake (tasks : List Task) :
    let taken := (course.executions.intake tasks).value
    Kept worker surroundings now (started ++ taken.1.admitted.map (now, ·))
      { executions := taken.2
        endings := taken.1.admitted.foldl (schedule surroundings now) course.endings } := by
  intro taken
  have running : taken.2.running =
      course.executions.running ++ taken.1.admitted.map fun task => ⟨task, ⟨task.volume⟩⟩ :=
    (Executions.intake_intaken course.executions tasks).running_eq
  have orderly : taken.2.Orderly worker.capacity := kept.orderly.intake tasks
  have distinct := orderly.nodup_volumes
  rw [running, List.map_append, List.map_map, List.nodup_append'] at distinct
  obtain ⟨-, distinctAdmitted, apart⟩ := distinct
  have fresh {execution : Execution} (inFlight : execution ∈ course.executions.running)
      {task : Task} (admitted : task ∈ taken.1.admitted) : task.volume ≠ execution.task.volume :=
    fun same => apart (List.mem_map_of_mem inFlight) (List.mem_map.2 ⟨task, admitted, same⟩)
  have awaits {task : Task} (admitted : task ∈ taken.1.admitted) : Awaits surroundings
      (taken.1.admitted.foldl (schedule surroundings now) course.endings) now task := by
    refine awaits_of_scheduled admitted distinctAdmitted fun ending held => ?_
    obtain ⟨execution, inFlight, same⟩ := kept.owned ending held
    exact same ▸ (fresh inFlight admitted).symm
  exact
    { orderly
      sorted := sorted_foldl_schedule kept.sorted
      owned := by
        intro ending inside
        simp only [running, List.mem_append, List.mem_map]
        rcases mem_foldl_schedule_iff.1 inside with before | ⟨task, admitted, own⟩
        · obtain ⟨execution, inFlight, same⟩ := kept.owned ending before
          exact ⟨execution, .inl inFlight, same⟩
        · exact ⟨_, .inr ⟨task, admitted, rfl⟩, (Surroundings.volume_of_ending? own).symm⟩
      awaited := by
        simp only [running, List.mem_append, List.mem_map]
        rintro execution (before | ⟨task, admitted, rfl⟩)
        · obtain ⟨begun, listed, awaited⟩ := kept.awaited execution before
          exact ⟨begun, .inl listed, awaited.schedule fun _ => fresh before⟩
        · exact ⟨now, .inr ⟨task, admitted, rfl⟩, awaits admitted⟩
      lasting := by
        simp only [running, List.mem_append, List.mem_map]
        rintro time task (begun | ⟨_, admitted, ⟨⟩⟩) lasts
        · obtain ⟨inFlight, awaited⟩ := kept.lasting time task begun lasts
          exact ⟨.inl inFlight, awaited.schedule fun _ => fresh inFlight⟩
        · exact ⟨.inr ⟨task, admitted, rfl⟩, awaits admitted⟩ }

end Kept

end Course

end ArchiveUpkeep
