import ArchiveUpkeep.Proofs.CleanupSafety
import ArchiveUpkeep.Proofs.DistinctKeys
import Mathlib.Data.List.Basic

/-! The order of service is the stable sort by kind. So the candidates of some volumes are their
proposals, volume after volume, and then only sorted: none is lost and none is doubled, each volume
has at most one task of a kind, and tasks of one kind stay in the order of their volumes. -/
namespace ArchiveUpkeep

namespace TaskKind
variable {kind other last : TaskKind}

theorem le_trans (first : kind ≤ other) (second : other ≤ last) : kind ≤ last :=
  Nat.le_trans first second

theorem le_total (kind other : TaskKind) : kind ≤ other ∨ other ≤ kind :=
  Nat.le_total kind.rank other.rank

end TaskKind

section ServiceOrder
variable {task : Task} {tasks rest : List Task}

/-- A task that none of the others precedes is served first. -/
theorem serviceOrder_cons (first : ∀ other ∈ rest, task.kind ≤ other.kind) :
    serviceOrder (task :: rest) = task :: serviceOrder rest := by
  have none_before (kind : TaskKind) (before : ¬ task.kind ≤ kind) :
      rest.filter (·.kind = kind) = [] := by
    refine List.filter_eq_nil_iff.2 fun other inRest => ?_
    have different : other.kind ≠ kind := fun same => before (same ▸ first other inRest)
    simpa using different
  simp only [serviceOrder, List.flatMap_cons, List.flatMap_nil, List.append_nil]
  cases same : task.kind with
  | apply => simp [same]
  | merge => simp [same, none_before .apply (by rw [same]; decide)]
  | replicate =>
    simp [same, none_before .apply (by rw [same]; decide),
      none_before .merge (by rw [same]; decide)]
  | cleanup =>
    simp [same, none_before .apply (by rw [same]; decide),
      none_before .merge (by rw [same]; decide), none_before .replicate (by rw [same]; decide)]
  | backup =>
    simp [same, none_before .apply (by rw [same]; decide),
      none_before .merge (by rw [same]; decide), none_before .replicate (by rw [same]; decide),
      none_before .cleanup (by rw [same]; decide)]

theorem serviceOrder_eq_self (sorted : tasks.Pairwise fun task other => task.kind ≤ other.kind) :
    serviceOrder tasks = tasks := by
  induction tasks with
  | nil => rfl
  | cons task rest ih =>
    obtain ⟨first, restSorted⟩ := List.pairwise_cons.1 sorted
    rw [serviceOrder_cons first, ih restSorted]

theorem filter_serviceOrder (accept : Task → Bool) (tasks : List Task) :
    (serviceOrder tasks).filter accept = serviceOrder (tasks.filter accept) := by
  simp only [serviceOrder, List.filter_flatMap, List.filter_filter, Bool.and_comm]

/-- A stable sort by kind keeps the tasks of each kind as they are. -/
theorem filter_mergeSort (kind : TaskKind) (tasks : List Task) :
    (tasks.mergeSort fun task other => task.kind ≤ other.kind).filter (·.kind = kind) =
      tasks.filter (·.kind = kind) := by
  have alike : (tasks.filter (·.kind = kind)).Pairwise
      fun task other => decide (task.kind ≤ other.kind) = true := by
    refine List.pairwise_filter.2 (List.pairwise_of_forall fun task other same alsoSame => ?_)
    rw [of_decide_eq_true same, of_decide_eq_true alsoSame]
    exact decide_eq_true (Nat.le_refl kind.rank)
  have kept : (tasks.filter (·.kind = kind)).Sublist
      (tasks.mergeSort fun task other => task.kind ≤ other.kind) :=
    List.sublist_mergeSort (by simpa using fun _ _ _ => TaskKind.le_trans)
      (by simpa using fun _ _ => TaskKind.le_total _ _) alike List.filter_sublist
  have within := kept.filter (·.kind = kind)
  simp only [List.filter_filter, Bool.and_self] at within
  have sameLength := ((tasks.mergeSort_perm fun task other => task.kind ≤ other.kind).filter
    (·.kind = kind)).length_eq
  exact (within.eq_of_length sameLength.symm).symm

/-- Both lists are sorted by kind, and they hold the same tasks of each kind in the same order. -/
theorem serviceOrder_eq_mergeSort (tasks : List Task) :
    serviceOrder tasks = tasks.mergeSort fun task other => task.kind ≤ other.kind := by
  have sorted : (tasks.mergeSort fun task other => task.kind ≤ other.kind).Pairwise
      fun task other => task.kind ≤ other.kind := by
    have sorted := @List.pairwise_mergeSort Task (fun task other => task.kind ≤ other.kind)
      (by simpa using fun _ _ _ => TaskKind.le_trans)
      (by simpa using fun _ _ => TaskKind.le_total _ _) tasks
    simpa using sorted
  calc serviceOrder tasks
    _ = serviceOrder (tasks.mergeSort fun task other => task.kind ≤ other.kind) := by
      simp only [serviceOrder, filter_mergeSort]
    _ = tasks.mergeSort fun task other => task.kind ≤ other.kind := serviceOrder_eq_self sorted

theorem serviceOrder_perm (tasks : List Task) : (serviceOrder tasks).Perm tasks :=
  serviceOrder_eq_mergeSort tasks ▸ tasks.mergeSort_perm _

end ServiceOrder

namespace Worker
variable {worker : Worker} {controller : Controller} {volume : String} {now : Instant}
  {task : Task} {tasks : List Task}

/-- What is proposed for a volume, which is nothing if it cannot be told. -/
def proposed (worker : Worker) (controller : Controller) (now : Instant) (volume : String) :
    List Task :=
  match (worker.proposals controller now volume).run.value with
  | .ok tasks => tasks
  | .error _ => []

theorem value_proposalsOrNone :
    (worker.proposalsOrNone controller now volume).value =
      worker.proposed controller now volume := by
  rw [proposalsOrNone, proposed, Traced.bind_value]
  cases (worker.proposals controller now volume).run.value <;> rfl

theorem value_allProposals (volumes : List String) :
    (worker.allProposals controller now volumes).value =
      volumes.flatMap (worker.proposed controller now) := by
  induction volumes with
  | nil => rfl
  | cons volume rest ih =>
    rw [allProposals, Traced.bind_value, Traced.map_value, value_proposalsOrNone, ih,
      List.flatMap_cons]

theorem value_candidates (volumes : List String) :
    (worker.candidates controller now volumes).value =
      serviceOrder (volumes.flatMap (worker.proposed controller now)) := by
  rw [candidates, Traced.map_value, value_allProposals]

/-- Every proposal is a task of its volume, for the managed archive, and none is a backup. -/
theorem eq_task_of_proposed (listed : task ∈ worker.proposed controller now volume) :
    ∃ action, task = worker.task volume action ∧ action.kind ≠ .backup := by
  unfold proposed at listed
  split at listed
  next tasks made =>
    obtain ⟨state, -, replicated | ⟨-, rfl⟩ | ⟨-, applied | merged | cleaned⟩⟩ :=
      source_of_proposal made listed
    · obtain ⟨target, rfl⟩ := eq_of_replication_eq_some replicated
      exact ⟨_, rfl, nofun⟩
    · exact ⟨_, rfl, nofun⟩
    · obtain ⟨-, points, target, range, count, size, -, -, -, -, -, -, rfl⟩ :=
        freshApply_eq_some_iff.1 applied
      exact ⟨_, rfl, nofun⟩
    · obtain ⟨range, rfl⟩ := eq_of_merge_eq_some merged
      exact ⟨_, rfl, nofun⟩
    · obtain ⟨points, target, count, -, -, -, -, rfl⟩ := cleanup_eq_some_iff.1 cleaned
      exact ⟨_, rfl, nofun⟩
  next => cases listed

theorem volume_of_proposed (listed : task ∈ worker.proposed controller now volume) :
    task.volume = volume := by
  obtain ⟨action, rfl, -⟩ := eq_task_of_proposed listed
  rfl

theorem kinds_sublist_singleton {found : Option Task} {kind : TaskKind}
    (own : ∀ task, found = some task → task.kind = kind) :
    (found.toList.map Task.kind).Sublist [kind] := by
  cases found with
  | none => exact List.nil_sublist _
  | some task => simp [own task rfl]

/-- A volume has at most one proposal of a kind, and its proposals are of kinds that are served one
after the other. -/
theorem kinds_of_proposed :
    ((worker.proposed controller now volume).map Task.kind).Sublist
      [.apply, .merge, .replicate, .cleanup] := by
  have replication :
      ((worker.replication controller volume now).value.toList.map Task.kind).Sublist
        [.replicate] :=
    kinds_sublist_singleton fun task found => kind_of_replication found
  unfold proposed
  split
  next tasks made =>
    obtain ⟨state, -, ⟨-, rfl⟩ | ⟨-, apply, merge, cleanup, applied, merged, cleaned, rfl⟩⟩ :=
      proposals_eq_ok_iff.1 made
    · have resumed := (List.Sublist.refl [TaskKind.apply]).append
        (replication.trans (List.sublist_append_right [TaskKind.merge] [TaskKind.replicate]))
      simpa [Task.kind, task, Action.kind] using resumed.append (List.nil_sublist [.cleanup])
    · have first : (apply.toList.map Task.kind).Sublist [.apply] :=
        kinds_sublist_singleton fun task found => kind_of_freshApply (found ▸ applied)
      have second : (merge.toList.map Task.kind).Sublist [.merge] :=
        kinds_sublist_singleton fun task found => kind_of_merge (found ▸ merged)
      have last : (cleanup.toList.map Task.kind).Sublist [.cleanup] :=
        kinds_sublist_singleton fun task found => kind_of_cleanup (found ▸ cleaned)
      simpa using ((first.append second).append replication).append last
  next => exact List.nil_sublist _

theorem nodup_kinds_of_proposed :
    ((worker.proposed controller now volume).map Task.kind).Nodup :=
  kinds_of_proposed.nodup (by decide)

theorem proposed_ascending :
    (worker.proposed controller now volume).Pairwise fun task other => task.kind ≤ other.kind :=
  List.pairwise_map.1 (List.Pairwise.sublist kinds_of_proposed (by decide))

/-- The proposals of a kind: of each volume the one that it has, in the order of the volumes. -/
theorem filter_kind_proposed (kind : TaskKind) (volumes : List String) :
    (volumes.flatMap (worker.proposed controller now)).filter (·.kind = kind) =
      volumes.filterMap fun volume =>
        (worker.proposed controller now volume).find? (·.kind = kind) := by
  rw [List.filter_flatMap, List.filterMap_eq_flatMap_toList]
  simp only [DistinctKeys.filter_eq_toList_find? nodup_kinds_of_proposed]

theorem filter_kind_candidates (kind : TaskKind) (volumes : List String) :
    (worker.candidates controller now volumes).value.filter (·.kind = kind) =
      volumes.filterMap fun volume =>
        (worker.proposed controller now volume).find? (·.kind = kind) := by
  rw [value_candidates, serviceOrder_eq_mergeSort, filter_mergeSort, filter_kind_proposed]

/-- The candidates of some volumes, which may repeat, are the stable sort by kind of what is
proposed for one volume after the other. -/
theorem candidates_are_stably_sorted (worker : Worker) (controller : Controller) (now : Instant)
    (volumes : List String) :
    let proposed := worker.proposed controller now
    let candidates := (worker.candidates controller now volumes).value
    candidates =
        (volumes.flatMap proposed).mergeSort (fun task other => task.kind ≤ other.kind) ∧
      candidates.Perm (volumes.flatMap proposed) ∧
      (∀ volume, ((proposed volume).map Task.kind).Nodup ∧
        ∀ task ∈ proposed volume, task.volume = volume) ∧
      (∀ kind, candidates.filter (·.kind = kind) =
        volumes.filterMap fun volume => (proposed volume).find? (·.kind = kind)) ∧
      ∀ task ∈ candidates, task.server = worker.primary ∧ task.kind ≠ .backup := by
  intro proposed candidates
  have ordered : candidates = serviceOrder (volumes.flatMap proposed) := value_candidates volumes
  refine ⟨ordered.trans (serviceOrder_eq_mergeSort _), ordered ▸ serviceOrder_perm _, ?_,
    fun kind => filter_kind_candidates kind volumes, ?_⟩
  · intro volume
    refine ⟨nodup_kinds_of_proposed, fun task listed => ?_⟩
    obtain ⟨action, rfl, -⟩ := eq_task_of_proposed listed
    rfl
  · intro task listed
    rw [ordered, mem_serviceOrder_iff, List.mem_flatMap] at listed
    obtain ⟨volume, -, listed⟩ := listed
    obtain ⟨action, rfl, recurrent⟩ := eq_task_of_proposed listed
    exact ⟨rfl, recurrent⟩

/-- An archive where the apply of one volume was interrupted, which hides its diffs until it is
through, and where another volume is lost. All others are at rest. -/
def troubledArchive : Controller where
  answer
    | .base server volume =>
      if volume = "lost" then .error (.unavailable server.name)
      else if volume = "stalled" then
        .ok { base := .clean 10, applying := some (.clean 12), applying_beyond := by decide }
      else restingArchive.answer (.base server volume)
    | .diffCount server volume range =>
      if volume = "stalled" then .error (.unavailable server.name)
      else restingArchive.answer (.diffCount server volume range)
    | .diffSize server volume range =>
      if volume = "stalled" then .error (.unavailable server.name)
      else restingArchive.answer (.diffSize server volume range)
    | .applicableDiffs server _ _ => .error (.unavailable server.name)
    | .restorable server volume scope =>
      if server.name = "mirror" then .ok []
      else if volume = "stalled" ∧ scope = .all then .error (.unavailable server.name)
      else restingArchive.answer (.restorable server volume scope)
    | query => restingArchive.answer query

/-- The replication of a volume to the mirror of the eager worker. -/
def mirroring (volume : String) : Task :=
  eagerWorker.task volume (.replicate "mirror"
    { name := "mirror", addr := "127.0.0.1", port := 5001 } {} 65536 1073741824)

/-- The lost volume costs no other one its tasks, and a volume listed twice has each of them
twice. -/
theorem candidates_are_stably_sorted_in_trouble :
    let volumes := ["resting", "lost", "stalled", "resting"]
    let now : Instant := .ofSeconds 100000
    let candidates := (eagerWorker.candidates troubledArchive now volumes).value
    candidates =
        [eagerWorker.task "resting" (.apply 12), eagerWorker.task "stalled" (.apply 10),
          eagerWorker.task "resting" (.apply 12), mirroring "resting", mirroring "stalled",
          mirroring "resting", eagerWorker.task "resting" (.cleanup 7),
          eagerWorker.task "resting" (.cleanup 7)] ∧
      candidates = (volumes.flatMap (eagerWorker.proposed troubledArchive now)).mergeSort
        (fun task other => task.kind ≤ other.kind) ∧
      (mirroring "stalled").server = eagerWorker.primary := by
  intro volumes now candidates
  have listed : candidates =
      [eagerWorker.task "resting" (.apply 12), eagerWorker.task "stalled" (.apply 10),
        eagerWorker.task "resting" (.apply 12), mirroring "resting", mirroring "stalled",
        mirroring "resting", eagerWorker.task "resting" (.cleanup 7),
        eagerWorker.task "resting" (.cleanup 7)] := by
    decide
  obtain ⟨sorted, -, -, -, addressed⟩ :=
    candidates_are_stably_sorted eagerWorker troubledArchive now volumes
  exact ⟨listed, sorted, (addressed (mirroring "stalled") (by simp [candidates, listed])).1⟩

end Worker

end ArchiveUpkeep
