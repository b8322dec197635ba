import ArchiveUpkeep.Proofs.ExecutionAccounting
import Mathlib.Data.Finset.Card
import Mathlib.Data.Finset.Dedup

/-! An intake is greedy. The first candidate of a volume of which nothing is running is a newcomer,
and newcomers get the free slots in their order. The first of them that finds no slot ends the
intake: it is dropped with all that follow it, and what stands before it was busy or got a slot.
A list of candidates may hold equal tasks, so candidates are told apart by their places. -/
namespace ArchiveUpkeep

theorem Executions.start_eq_error_iff {executions : Executions} {task : Task} {refusal : Refusal} :
    executions.start task = .error refusal ↔ executions.slots.occupy task = .error refusal := by
  unfold start
  cases executions.slots.occupy task <;> simp [Except.map]

namespace GreedyIntake

/-- The candidate at a place is the first of its volume, and nothing of that volume is running. -/
def Newcomer (running : List String) (tasks : List Task) (place : Nat) : Prop :=
  ∃ task ∈ tasks[place]?, task.volume ∉ running ∧ task.volume ∉ (tasks.take place).map Task.volume

instance (running : List String) (tasks : List Task) (place : Nat) :
    Decidable (Newcomer running tasks place) :=
  inferInstanceAs (Decidable (∃ task ∈ tasks[place]?, task.volume ∉ running ∧
    task.volume ∉ (tasks.take place).map Task.volume))

/-- The places of the newcomers. -/
def newcomers (running : List String) (tasks : List Task) : List Nat :=
  (List.range tasks.length).filter fun place => Newcomer running tasks place

/-- The places of the newcomers that get one of `free` slots. -/
def granted (running : List String) (free : Nat) (tasks : List Task) : List Nat :=
  (newcomers running tasks).take free

/-- The place of the first newcomer that finds no slot, or the end of the list. -/
def cut (running : List String) (free : Nat) (tasks : List Task) : Nat :=
  (newcomers running tasks)[free]?.getD tasks.length

/-- The places before the cut that get no slot. -/
def passedOver (running : List String) (free : Nat) (tasks : List Task) : List Nat :=
  (List.range (cut running free tasks)).filter fun place => place ∉ granted running free tasks

/-- The tasks at some places. -/
def tasksAt (tasks : List Task) (places : List Nat) : List Task :=
  places.filterMap fun place => tasks[place]?

variable {running : List String} {free : Nat} {task : Task} {tasks rest : List Task}
  {places : List Nat}

theorem newcomer_zero_iff : Newcomer running (task :: rest) 0 ↔ task.volume ∉ running := by
  simp [Newcomer]

theorem newcomer_succ_iff {place : Nat} :
    Newcomer running (task :: rest) (place + 1) ↔
      Newcomer (running ++ [task.volume]) rest place := by
  simp [Newcomer, and_assoc]

theorem newcomers_congr {other : List String}
    (same : ∀ volume, volume ∈ running ↔ volume ∈ other) :
    newcomers running tasks = newcomers other tasks := by
  refine List.filter_congr fun place _ => decide_eq_decide.2 ?_
  simp only [Newcomer, same]

theorem newcomers_cons_idle (idle : task.volume ∉ running) :
    newcomers running (task :: rest) =
      0 :: (newcomers (running ++ [task.volume]) rest).map (· + 1) := by
  simp [newcomers, List.range_succ_eq_map, newcomer_zero_iff, newcomer_succ_iff, idle,
    List.filter_map, Function.comp_def]

theorem newcomers_cons_busy (busy : task.volume ∈ running) :
    newcomers running (task :: rest) = (newcomers running rest).map (· + 1) := by
  have same (volume : String) : volume ∈ running ↔ volume ∈ running ++ [task.volume] := by
    simp only [List.mem_append, List.mem_singleton]
    exact (or_iff_left_of_imp fun own => own ▸ busy).symm
  have unchanged : newcomers running rest = newcomers (running ++ [task.volume]) rest :=
    newcomers_congr same
  rw [unchanged]
  simp [newcomers, List.range_succ_eq_map, newcomer_zero_iff, newcomer_succ_iff, busy,
    List.filter_map, Function.comp_def]

/-- Where every volume has something running, there are no newcomers. -/
theorem newcomers_eq_nil (busy : ∀ task ∈ tasks, task.volume ∈ running) :
    newcomers running tasks = [] := by
  refine List.filter_eq_nil_iff.2 fun place _ => ?_
  rw [decide_eq_true_eq]
  rintro ⟨task, found, idle, -⟩
  exact idle (busy task (List.mem_of_getElem? found))

/-- Each volume that is not running yet has one newcomer. -/
theorem card_volumes (distinct : running.Nodup) :
    (running.toFinset ∪ (tasks.map Task.volume).toFinset).card =
      running.length + (newcomers running tasks).length := by
  induction tasks generalizing running with
  | nil => simp [newcomers, List.toFinset_card_of_nodup distinct]
  | cons task rest ih =>
    rw [List.map_cons, List.toFinset_cons, Finset.union_insert]
    by_cases busy : task.volume ∈ running
    · have inside : task.volume ∈ running.toFinset ∪ (rest.map Task.volume).toFinset :=
        Finset.mem_union_left _ (List.mem_toFinset.2 busy)
      rw [Finset.insert_eq_of_mem inside, ih distinct, newcomers_cons_busy busy, List.length_map]
    · have extended : (running ++ [task.volume]).Nodup := by
        rw [List.nodup_append]
        refine ⟨distinct, List.nodup_singleton _, fun volume found other single same => busy ?_⟩
        exact List.mem_singleton.1 single ▸ same ▸ found
      have moved : insert task.volume (running.toFinset ∪ (rest.map Task.volume).toFinset) =
          (running ++ [task.volume]).toFinset ∪ (rest.map Task.volume).toFinset := by
        simp
      rw [moved, ih extended, newcomers_cons_idle busy, List.length_cons, List.length_map,
        List.length_append, List.length_singleton]
      omega

theorem tasksAt_nil : tasksAt [] places = [] := by
  simp [tasksAt]

@[simp] theorem tasksAt_cons_succ :
    tasksAt (task :: rest) (places.map (· + 1)) = tasksAt rest places := by
  simp [tasksAt, List.filterMap_map]

@[simp] theorem tasksAt_cons_zero :
    tasksAt (task :: rest) (0 :: places) = task :: tasksAt (task :: rest) places := by
  simp [tasksAt]

theorem tasksAt_range (tasks : List Task) : tasksAt tasks (List.range tasks.length) = tasks := by
  induction tasks with
  | nil => rfl
  | cons task rest ih =>
    rw [List.length_cons, List.range_succ_eq_map, tasksAt_cons_zero, tasksAt_cons_succ, ih]

theorem tasksAt_range' (tasks : List Task) (start : Nat) :
    tasksAt tasks (List.range' start (tasks.length - start)) = tasks.drop start := by
  induction tasks generalizing start with
  | nil => exact tasksAt_nil.trans List.drop_nil.symm
  | cons task rest ih =>
    cases start with
    | zero =>
      rw [Nat.sub_zero, ← List.range_eq_range', tasksAt_range, List.drop_zero]
    | succ start =>
      have moved : List.range' (start + 1) (rest.length - start) =
          (List.range' start (rest.length - start)).map (· + 1) := by
        simpa [Nat.add_comm] using (@List.map_add_range' 1 start (rest.length - start) 1).symm
      rw [List.length_cons, Nat.add_sub_add_right, moved, tasksAt_cons_succ, ih, List.drop_succ_cons]

theorem tasksAt_append (places others : List Nat) :
    tasksAt tasks (places ++ others) = tasksAt tasks places ++ tasksAt tasks others :=
  List.filterMap_append

theorem length_tasksAt (inside : ∀ place ∈ places, place < tasks.length) :
    (tasksAt tasks places).length = places.length := by
  induction places with
  | nil => rfl
  | cons place rest ih =>
    obtain ⟨here, later⟩ := List.forall_mem_cons.1 inside
    rw [tasksAt, List.filterMap_cons, List.getElem?_eq_getElem here, List.length_cons,
      List.length_cons, ← tasksAt, ih later]

theorem tasksAt_sublist (sub : places.Sublist (List.range tasks.length)) :
    (tasksAt tasks places).Sublist tasks := by
  have kept := sub.filterMap fun place => tasks[place]?
  rwa [← tasksAt, ← tasksAt, tasksAt_range] at kept

/-! How the places of a list follow from those of its tail, one task at a time. -/

theorem granted_cons_idle (idle : task.volume ∉ running) :
    granted running (free + 1) (task :: rest) =
      0 :: (granted (running ++ [task.volume]) free rest).map (· + 1) := by
  rw [granted, newcomers_cons_idle idle, List.take_succ_cons, granted, List.map_take]

theorem granted_cons_busy (busy : task.volume ∈ running) :
    granted running free (task :: rest) = (granted running free rest).map (· + 1) := by
  rw [granted, newcomers_cons_busy busy, granted, List.map_take]

private theorem getD_map_succ (places : List Nat) (index last : Nat) :
    (places.map (· + 1))[index]?.getD (last + 1) = places[index]?.getD last + 1 := by
  rw [List.getElem?_map]
  cases places[index]? <;> rfl

theorem cut_cons_full (idle : task.volume ∉ running) : cut running 0 (task :: rest) = 0 := by
  rw [cut, newcomers_cons_idle idle]
  rfl

theorem cut_cons_idle (idle : task.volume ∉ running) :
    cut running (free + 1) (task :: rest) = cut (running ++ [task.volume]) free rest + 1 := by
  rw [cut, newcomers_cons_idle idle, List.getElem?_cons_succ, List.length_cons, getD_map_succ, cut]

theorem cut_cons_busy (busy : task.volume ∈ running) :
    cut running free (task :: rest) = cut running free rest + 1 := by
  rw [cut, newcomers_cons_busy busy, List.length_cons, getD_map_succ, cut]

private theorem filter_range_succ (accept : Nat → Bool) (last : Nat) :
    (List.range (last + 1)).filter accept =
      (if accept 0 then [0] else []) ++
        ((List.range last).filter fun place => accept (place + 1)).map (· + 1) := by
  rw [List.range_succ_eq_map, List.filter_cons, List.filter_map]
  cases accept 0 <;> rfl

private theorem succ_mem_map_succ_iff {place : Nat} :
    place + 1 ∈ places.map (· + 1) ↔ place ∈ places := by
  simp

theorem passedOver_cons_idle (idle : task.volume ∉ running) :
    passedOver running (free + 1) (task :: rest) =
      (passedOver (running ++ [task.volume]) free rest).map (· + 1) := by
  rw [passedOver, cut_cons_idle idle, granted_cons_idle idle, filter_range_succ]
  simp only [List.mem_cons, succ_mem_map_succ_iff, Nat.succ_ne_zero, false_or]
  simp [passedOver]

theorem passedOver_cons_busy (busy : task.volume ∈ running) :
    passedOver running free (task :: rest) = 0 :: (passedOver running free rest).map (· + 1) := by
  rw [passedOver, cut_cons_busy busy, granted_cons_busy busy, filter_range_succ]
  simp only [succ_mem_map_succ_iff]
  simp [passedOver]

/-- What an intake makes of the candidates, by their places. -/
structure Shared (running : List String) (free : Nat) (tasks : List Task) (report : IntakeReport) :
    Prop where
  admitted_eq : report.admitted = tasksAt tasks (granted running free tasks)
  busy_eq : report.busy = tasksAt tasks (passedOver running free tasks)
  dropped_eq : report.dropped = tasks.drop (cut running free tasks)

theorem intake_shared (executions : Executions) (tasks : List Task) :
    Shared executions.slots.volumes executions.slots.available tasks
      (executions.intake tasks).value.1 := by
  induction tasks generalizing executions with
  | nil => exact ⟨tasksAt_nil.symm, tasksAt_nil.symm, List.drop_nil.symm⟩
  | cons task rest ih =>
    unfold Executions.intake
    split
    next started result =>
      obtain ⟨⟨idle, room⟩, sameCapacity, taken, -⟩ := Executions.start_eq_ok_iff.1 result
      have volumes : started.slots.volumes = executions.slots.volumes ++ [task.volume] := by
        simp [Slots.volumes, taken]
      have available : executions.slots.available = started.slots.available + 1 := by
        simp only [Slots.available, Slots.count, sameCapacity, taken, List.length_append,
          List.length_singleton] at room ⊢
        omega
      have later := volumes ▸ ih started
      rw [available]
      exact
        { admitted_eq := by
            rw [granted_cons_idle idle, tasksAt_cons_zero, tasksAt_cons_succ]
            exact congrArg (task :: ·) later.admitted_eq
          busy_eq := by
            rw [passedOver_cons_idle idle, tasksAt_cons_succ]
            exact later.busy_eq
          dropped_eq := by
            rw [cut_cons_idle idle]
            exact later.dropped_eq }
    next result =>
      have busy := Slots.occupy_eq_volumeBusy_iff.1 (Executions.start_eq_error_iff.1 result)
      have later := ih executions
      exact
        { admitted_eq := by
            rw [granted_cons_busy busy, tasksAt_cons_succ]
            exact later.admitted_eq
          busy_eq := by
            rw [passedOver_cons_busy busy, tasksAt_cons_zero, tasksAt_cons_succ]
            exact congrArg (task :: ·) later.busy_eq
          dropped_eq := by
            rw [cut_cons_busy busy]
            exact later.dropped_eq }
    next result =>
      obtain ⟨idle, full⟩ :=
        Slots.occupy_eq_full_iff.1 (Executions.start_eq_error_iff.1 result)
      have none_free : executions.slots.available = 0 := Nat.sub_eq_zero_of_le full
      rw [none_free]
      exact
        { admitted_eq := rfl
          busy_eq := by
            rw [passedOver, cut_cons_full idle]
            rfl
          dropped_eq := by
            rw [cut_cons_full idle]
            rfl }

theorem newcomers_sublist : (newcomers running tasks).Sublist (List.range tasks.length) :=
  List.filter_sublist

theorem newcomers_ascending : (newcomers running tasks).Pairwise (· < ·) :=
  List.pairwise_lt_range.sublist newcomers_sublist

theorem granted_sublist : (granted running free tasks).Sublist (List.range tasks.length) :=
  (List.take_sublist _ _).trans newcomers_sublist

theorem cut_le_length : cut running free tasks ≤ tasks.length := by
  unfold cut
  cases found : (newcomers running tasks)[free]? with
  | none => exact Nat.le_refl _
  | some place =>
    have inside := newcomers_sublist.subset (List.mem_of_getElem? found)
    exact Nat.le_of_lt (List.mem_range.1 inside)

/-- Newcomers that get a slot stand before the first one that finds none. -/
theorem lt_cut_of_granted {place : Nat} (given : place ∈ granted running free tasks) :
    place < cut running free tasks := by
  obtain ⟨index, within, rfl⟩ := List.mem_take_iff_getElem.1 given
  unfold cut
  cases found : (newcomers running tasks)[free]? with
  | none => exact List.mem_range.1 (newcomers_sublist.subset (List.getElem_mem _))
  | some last =>
    obtain ⟨inside, rfl⟩ := List.getElem?_eq_some_iff.1 found
    exact List.pairwise_iff_getElem.1 newcomers_ascending _ _ _ _ (by omega)

/-- Every place is granted a slot, passed over or cut off, and no two of these. -/
theorem places_perm (running : List String) (free : Nat) (tasks : List Task) :
    (granted running free tasks ++ passedOver running free tasks ++
      List.range' (cut running free tasks) (tasks.length - cut running free tasks)).Perm
        (List.range tasks.length) := by
  have before_cut : (granted running free tasks ++ passedOver running free tasks).Perm
      (List.range (cut running free tasks)) := by
    have distinct : (granted running free tasks ++ passedOver running free tasks).Nodup := by
      refine List.nodup_append.2 ⟨List.nodup_range.sublist granted_sublist,
        List.nodup_range.sublist List.filter_sublist, ?_⟩
      rintro place given _ passed rfl
      exact of_decide_eq_true (List.mem_filter.1 passed).2 given
    refine (List.perm_ext_iff_of_nodup distinct List.nodup_range).2 fun place => ?_
    simp only [List.mem_append, passedOver, List.mem_filter, List.mem_range, decide_eq_true_eq]
    constructor
    · rintro (given | ⟨before, -⟩)
      · exact lt_cut_of_granted given
      · exact before
    · intro before
      by_cases given : place ∈ granted running free tasks
      · exact .inl given
      · exact .inr ⟨before, given⟩
  have whole : List.range (cut running free tasks) ++
      List.range' (cut running free tasks) (tasks.length - cut running free tasks) =
        List.range tasks.length := by
    have added := @List.range'_append_1 0 (cut running free tasks)
      (tasks.length - cut running free tasks)
    rw [Nat.zero_add, Nat.add_sub_cancel' cut_le_length] at added
    simpa [List.range_eq_range'] using added
  rw [← whole]
  exact before_cut.append_right _

namespace Shared
variable {report : IntakeReport} (shared : Shared running free tasks report)
include shared

theorem admitted_sublist : report.admitted.Sublist tasks := by
  rw [shared.admitted_eq]
  exact tasksAt_sublist granted_sublist

theorem busy_sublist : report.busy.Sublist tasks := by
  rw [shared.busy_eq]
  exact tasksAt_sublist (List.filter_sublist.trans (List.range_sublist.2 cut_le_length))

theorem dropped_sublist : report.dropped.Sublist tasks := by
  rw [shared.dropped_eq]
  exact List.drop_sublist _ _

theorem length_admitted :
    report.admitted.length = min free (newcomers running tasks).length := by
  have inside (place : Nat) (given : place ∈ granted running free tasks) : place < tasks.length :=
    List.mem_range.1 (granted_sublist.subset given)
  rw [shared.admitted_eq, length_tasksAt inside, granted, List.length_take]

theorem perm_tasks : (report.admitted ++ report.busy ++ report.dropped).Perm tasks := by
  have moved := (places_perm running free tasks).filterMap fun place => tasks[place]?
  rwa [← tasksAt, ← tasksAt, tasksAt_range, tasksAt_append, tasksAt_append, tasksAt_range',
    ← shared.admitted_eq, ← shared.busy_eq, ← shared.dropped_eq] at moved

/-- An admitted task stands before the cut, and no task of its volume stands before it. -/
theorem place_of_admitted (admitted : task ∈ report.admitted) :
    ∃ place < cut running free tasks, tasks[place]? = some task ∧
      task.volume ∉ (tasks.take place).map Task.volume := by
  rw [shared.admitted_eq, tasksAt, List.mem_filterMap] at admitted
  obtain ⟨place, given, found⟩ := admitted
  have newcomer := (List.mem_filter.1 ((List.take_sublist _ _).subset given)).2
  obtain ⟨same, foundAgain, -, fresh⟩ := of_decide_eq_true newcomer
  cases found.symm.trans foundAgain
  exact ⟨place, lt_cut_of_granted given, found, fresh⟩

theorem rel_of_dropped {R : Task → Task → Prop} (ordered : tasks.Pairwise R) {other : Task}
    (admitted : task ∈ report.admitted) (dropped : other ∈ report.dropped) : R task other := by
  obtain ⟨place, before, found, -⟩ := shared.place_of_admitted admitted
  rw [← List.take_append_drop (cut running free tasks) tasks] at ordered
  have inHead : task ∈ tasks.take (cut running free tasks) := by
    rw [← List.getElem?_take_of_lt before] at found
    exact List.mem_of_getElem? found
  exact (List.pairwise_append.1 ordered).2.2 task inHead other (shared.dropped_eq ▸ dropped)

theorem eq_or_rel_of_volume {R : Task → Task → Prop} (ordered : tasks.Pairwise R) {other : Task}
    (admitted : task ∈ report.admitted) (listed : other ∈ tasks)
    (same : other.volume = task.volume) : task = other ∨ R task other := by
  obtain ⟨place, -, found, fresh⟩ := shared.place_of_admitted admitted
  obtain ⟨inside, rfl⟩ := List.getElem?_eq_some_iff.1 found
  obtain ⟨index, within, rfl⟩ := List.getElem_of_mem listed
  rcases Nat.lt_trichotomy index place with before | rfl | after
  · have inHead : tasks[index] ∈ tasks.take place :=
      List.mem_take_iff_getElem.2 ⟨index, by omega, rfl⟩
    exact absurd (List.mem_map.2 ⟨tasks[index], inHead, same⟩) fresh
  · exact .inl rfl
  · exact .inr (List.pairwise_iff_getElem.1 ordered place index inside within after)

/-- A task is dropped only when there are more newcomers than free slots. -/
theorem lt_length_newcomers_of_dropped (dropped : report.dropped ≠ []) :
    free < (newcomers running tasks).length := by
  by_contra enough
  have none_left : (newcomers running tasks)[free]? = none :=
    List.getElem?_eq_none (Nat.not_lt.1 enough)
  have at_end : cut running free tasks = tasks.length := by
    rw [cut, none_left, Option.getD_none]
  rw [shared.dropped_eq, at_end, List.drop_length] at dropped
  exact dropped rfl

end Shared

section Intake
variable (executions : Executions) (tasks : List Task)

theorem volumes_intake :
    (executions.intake tasks).value.2.slots.volumes =
      executions.slots.volumes ++ (executions.intake tasks).value.1.admitted.map Task.volume := by
  have intaken := Executions.intake_intaken executions tasks
  simp [Slots.volumes, intaken.taken_eq, Function.comp_def]

theorem nodup_volumes_admitted :
    ((executions.intake tasks).value.1.admitted.map Task.volume).Nodup := by
  have distinct := Slots.nodup_volumes (executions.intake tasks).value.2.slots
  rw [volumes_intake] at distinct
  exact (List.nodup_append.1 distinct).2.1

/-- An intake that drops a task leaves every slot taken. -/
theorem count_intake_of_dropped (within : executions.slots.count ≤ executions.slots.capacity)
    (dropped : (executions.intake tasks).value.1.dropped ≠ []) :
    (executions.intake tasks).value.2.slots.count = executions.slots.capacity := by
  have shared := intake_shared executions tasks
  have more := shared.lt_length_newcomers_of_dropped dropped
  have filled : (executions.intake tasks).value.1.admitted.length = executions.slots.available := by
    rw [shared.length_admitted, Nat.min_eq_left (Nat.le_of_lt more)]
  rw [Slots.count, (Executions.intake_intaken executions tasks).taken_eq, List.length_append,
    List.length_map, filled, Slots.available, ← Slots.count]
  omega

/-- After an intake as many volumes have something running as could have. -/
theorem length_volumes_intake (within : executions.slots.count ≤ executions.slots.capacity) :
    (executions.intake tasks).value.2.slots.volumes.length =
      min executions.slots.capacity
        (executions.slots.volumes.toFinset ∪ (tasks.map Task.volume).toFinset).card := by
  have running : executions.slots.volumes.length = executions.slots.count := List.length_map _
  rw [volumes_intake, List.length_append, List.length_map,
    (intake_shared executions tasks).length_admitted, card_volumes executions.slots.nodup_volumes,
    running, Slots.available]
  omega

/-- An intake that leaves a slot free leaves no volume of a candidate without a running task. -/
theorem isRunning_of_available (within : executions.slots.count ≤ executions.slots.capacity)
    (room : 0 < (executions.intake tasks).value.2.slots.available) :
    ∀ task ∈ tasks, (executions.intake tasks).value.2.slots.IsRunning task.volume := by
  have covered : (executions.intake tasks).value.2.slots.volumes.toFinset =
      executions.slots.volumes.toFinset ∪ (tasks.map Task.volume).toFinset := by
    refine Finset.eq_of_subset_of_card_le ?_ ?_
    · rw [volumes_intake, List.toFinset_append]
      refine Finset.union_subset_union_right fun volume found => ?_
      rw [List.mem_toFinset] at found ⊢
      exact ((intake_shared executions tasks).admitted_sublist.map Task.volume).subset found
    · have counted := length_volumes_intake executions tasks within
      have running : (executions.intake tasks).value.2.slots.volumes.length =
        (executions.intake tasks).value.2.slots.count := List.length_map _
      rw [Slots.available, (Executions.intake_intaken executions tasks).capacity_eq] at room
      rw [List.toFinset_card_of_nodup (Slots.nodup_volumes _)]
      omega
  intro task listed
  rw [Slots.IsRunning, ← List.mem_toFinset, covered]
  exact Finset.mem_union_right _ (List.mem_toFinset.2 (List.mem_map_of_mem listed))

/-- A second intake of the same candidates finds no free slot or no newcomer. -/
theorem admitted_intake_again (within : executions.slots.count ≤ executions.slots.capacity) :
    ((executions.intake tasks).value.2.intake tasks).value.1.admitted = [] := by
  rw [(intake_shared (executions.intake tasks).value.2 tasks).admitted_eq, granted]
  rcases Nat.eq_zero_or_pos (executions.intake tasks).value.2.slots.available with full | room
  · rw [full, List.take_zero]
    rfl
  · rw [newcomers_eq_nil (isRunning_of_available executions tasks within room), List.take_nil]
    rfl

end Intake

/-- The first newcomers get the free slots, the first one that finds none is dropped with all that
follow it, and everything else was passed over. As many volumes have something running then as the
slots allow, and a second intake of the same candidates begins nothing. -/
theorem intake_is_greedy (executions : Executions) (tasks : List Task)
    (within : executions.slots.count ≤ executions.slots.capacity) :
    let running := executions.slots.volumes
    let free := executions.slots.capacity - running.length
    let report := (executions.intake tasks).value.1
    let after := (executions.intake tasks).value.2
    report.admitted = tasksAt tasks (granted running free tasks) ∧
      report.dropped = tasks.drop (cut running free tasks) ∧
      report.busy = tasksAt tasks (passedOver running free tasks) ∧
      (granted running free tasks ++ passedOver running free tasks ++
        List.range' (cut running free tasks) (tasks.length - cut running free tasks)).Perm
          (List.range tasks.length) ∧
      report.admitted.Sublist tasks ∧ report.busy.Sublist tasks ∧ report.dropped.Sublist tasks ∧
      (report.admitted ++ report.busy ++ report.dropped).Perm tasks ∧
      after.slots.volumes.length =
        min executions.slots.capacity
          (running.toFinset ∪ (tasks.map Task.volume).toFinset).card ∧
      (after.intake tasks).value.1.admitted = [] := by
  intro running free report after
  have sameFree : free = executions.slots.available := by
    simp only [free, running, Slots.volumes, List.length_map, Slots.available, Slots.count]
  have shared : Shared running free tasks report := sameFree ▸ intake_shared executions tasks
  exact ⟨shared.admitted_eq, shared.dropped_eq, shared.busy_eq, places_perm running free tasks,
    shared.admitted_sublist, shared.busy_sublist, shared.dropped_sublist, shared.perm_tasks,
    length_volumes_intake executions tasks within, admitted_intake_again executions tasks within⟩

/-- A task of a volume at some archive. -/
def applyOf (volume : String) (gid : Gid) : Task :=
  { volume, server := { name := "archive", addr := "127.0.0.1", port := 5000 }
    action := .apply gid }

/-- With two slots free beside a running task, the second candidate of a volume and that of the
running one are passed over, and what follows the third newcomer is dropped whatever its volume. -/
theorem intake_is_greedy_at_the_limit :
    let executions : Executions :=
      { slots := { capacity := 3, taken := [("a", applyOf "a" 1)] }
        running := [⟨applyOf "a" 1, ⟨"a"⟩⟩] }
    let tasks := [applyOf "b" 1, applyOf "a" 2, applyOf "b" 2, applyOf "c" 1, applyOf "d" 1,
      applyOf "b" 3]
    let report := (executions.intake tasks).value.1
    executions.slots.count ≤ executions.slots.capacity ∧
      newcomers ["a"] tasks = [0, 3, 4] ∧ cut ["a"] 2 tasks = 4 ∧
      report.admitted = [applyOf "b" 1, applyOf "c" 1] ∧
      report.busy = [applyOf "a" 2, applyOf "b" 2] ∧
      report.dropped = [applyOf "d" 1, applyOf "b" 3] ∧
      ((executions.intake tasks).value.2.intake tasks).value.1.admitted = [] := by
  intro executions tasks report
  have within : executions.slots.count ≤ executions.slots.capacity := by decide
  obtain ⟨admitted, dropped, busy, -, -, -, -, -, -, again⟩ :=
    intake_is_greedy executions tasks within
  exact ⟨within, by decide, by decide, admitted, busy, dropped, again⟩

end GreedyIntake

end ArchiveUpkeep
