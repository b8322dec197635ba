import ArchiveUpkeep.Proofs.AgreeingControllers

/-! What cannot disturb what. The candidates of a listing are told volume by volume, so whatever is
wrong with one volume leaves the tasks of all others as they are, in the same order. And within a
volume a replication only adds itself: the other tasks are those of a worker that has no targets,
whatever the targets are and whatever they or the primary answer about marked restore points. -/
namespace ArchiveUpkeep

/-- A task that works on the diffs of a volume where they are stored: any but a replication or a
backup. -/
def Task.IsUpkeep (task : Task) : Prop :=
  task.kind = .apply ∨ task.kind = .merge ∨ task.kind = .cleanup

instance (task : Task) : Decidable task.IsUpkeep :=
  inferInstanceAs (Decidable (task.kind = .apply ∨ task.kind = .merge ∨ task.kind = .cleanup))

namespace Controller
variable {controller : Controller} {volume : String}

/-- The controller for which one volume is out of reach: no query about it is answered. -/
def losing (controller : Controller) (volume : String) : Controller where
  answer query :=
    if query.volume? = some volume then .error (.unavailable query.server.name)
    else controller.answer query

theorem agreeOn_losing {other : String} (different : other ≠ volume) :
    AgreeOn (fun query => query.volume? = some other) controller (controller.losing volume) := by
  intro query about
  have elsewhere : query.volume? ≠ some volume := by
    rw [about]
    exact fun same => different (Option.some.inj same)
  exact (if_neg elsewhere).symm

/-- The controller for which no server tells of marked restore points. -/
def unmarked (controller : Controller) : Controller where
  answer
    | .restorable server _ .narrow => .error (.unavailable server.name)
    | query => controller.answer query

theorem agreeOn_unmarked :
    AgreeOn (fun query => ¬ query.IsNarrow) controller controller.unmarked := by
  intro query other
  cases query with
  | restorable server volume scope =>
    cases scope with
    | narrow => exact absurd trivial other
    | all => rfl
  | _ => rfl

end Controller

namespace Worker
open Controller Selecting
variable {worker other : Worker} {first second controller : Controller} {volume : String}
  {now : Instant} {volumes : List String} {state : MetaState}

/-- Candidates are picked volume by volume, and the order of service does not mix them. -/
theorem filter_candidates_congr {accept : Task → Bool}
    (alike : ∀ volume ∈ volumes, (worker.proposed first now volume).filter accept =
      (other.proposed second now volume).filter accept) :
    (worker.candidates first now volumes).value.filter accept =
      (other.candidates second now volumes).value.filter accept := by
  have same : (volumes.flatMap fun volume => (worker.proposed first now volume).filter accept) =
      volumes.flatMap fun volume => (other.proposed second now volume).filter accept :=
    List.flatMap_congr alike
  rw [value_candidates, value_candidates, filter_serviceOrder, filter_serviceOrder,
    List.filter_flatMap, List.filter_flatMap, same]

/-- However two controllers differ about one volume, be it that one fails any query about it or
reports what cannot be right, the tasks of all other volumes are the same in the same order. -/
theorem failures_stay_with_their_volume (worker : Worker) (first second : Controller)
    (now : Instant) (volumes : List String) (volume : String)
    (agree : ∀ other, other ≠ volume →
      AgreeOn (fun query => query.volume? = some other) first second) :
    (worker.candidates first now volumes).value.filter (·.volume ≠ volume) =
      (worker.candidates second now volumes).value.filter (·.volume ≠ volume) := by
  refine filter_candidates_congr fun other _ => ?_
  by_cases same : other = volume
  · have none_left (controller : Controller) :
        (worker.proposed controller now other).filter (·.volume ≠ volume) = [] := by
      refine List.filter_eq_nil_iff.2 fun task proposed elsewhere => ?_
      exact of_decide_eq_true elsewhere ((volume_of_proposed proposed).trans same)
    rw [none_left, none_left]
  · have unmoved : worker.proposals first now other = worker.proposals second now other :=
      proposals_congr_of_volume (agree other same)
    rw [proposed, proposed, unmoved]

/-- An archive that has lost a volume costs the others nothing: they keep all that they need. -/
theorem failures_stay_with_the_lost_volume :
    let now : Instant := .ofSeconds 100000
    let volumes := ["first", "lost", "second"]
    let others := [eagerWorker.task "first" (.apply 12), eagerWorker.task "second" (.apply 12),
      eagerWorker.task "first" (.cleanup 7), eagerWorker.task "second" (.cleanup 7)]
    (eagerWorker.proposed restingArchive now "lost").length = 2 ∧
      eagerWorker.proposed (restingArchive.losing "lost") now "lost" = [] ∧
      (∀ other, other ≠ "lost" →
        AgreeOn (fun query => query.volume? = some other) restingArchive
          (restingArchive.losing "lost")) ∧
      (eagerWorker.candidates restingArchive now volumes).value.filter (·.volume ≠ "lost") =
        others ∧
      (eagerWorker.candidates (restingArchive.losing "lost") now volumes).value.filter
        (·.volume ≠ "lost") = others := by
  intro now volumes others
  have owed : (eagerWorker.proposed restingArchive now "lost").length = 2 := by decide
  have listed : (eagerWorker.candidates restingArchive now volumes).value.filter
      (·.volume ≠ "lost") = others := by decide
  have kept := failures_stay_with_their_volume eagerWorker restingArchive
    (restingArchive.losing "lost") now volumes "lost" fun _ => agreeOn_losing
  exact ⟨owed, rfl, fun _ => agreeOn_losing, listed, kept.symm.trans listed⟩

/-- The worker with the same policy and no targets. -/
def alone (worker : Worker) : Worker where
  config := { worker.config with targets := ⟨[], Targets.pairwise_nil⟩ }

theorem filter_upkeep_replication :
    (worker.replication controller volume now).value.toList.filter (·.IsUpkeep) = [] := by
  refine List.filter_eq_nil_iff.2 fun task found => ?_
  have kind := kind_of_replication (Option.mem_toList.1 found)
  simp [Task.IsUpkeep, kind]

theorem filter_upkeep_toList {found : Option Task}
    (own : ∀ task, found = some task → task.IsUpkeep) :
    found.toList.filter (·.IsUpkeep) = found.toList := by
  refine List.filter_eq_self.2 fun task listed => ?_
  exact decide_eq_true (own task (Option.mem_toList.1 listed))

/-- What the selectors find beside a replication is all upkeep. -/
theorem filter_upkeep_append (worker : Worker) {apply merge cleanup : Option Task}
    (applied : (worker.freshApply controller volume state now).run.value = .ok apply)
    (merged : (worker.merge controller volume now).run.value = .ok merge)
    (cleaned : (worker.cleanup controller volume state now).run.value = .ok cleanup) :
    (apply.toList ++ merge.toList ++ (worker.replication controller volume now).value.toList ++
        cleanup.toList).filter (·.IsUpkeep) =
      apply.toList ++ merge.toList ++ cleanup.toList := by
  have first := filter_upkeep_toList fun task (found : apply = some task) =>
    .inl (kind_of_freshApply (found ▸ applied))
  have second := filter_upkeep_toList fun task (found : merge = some task) =>
    .inr (.inl (kind_of_merge (found ▸ merged)))
  have last := filter_upkeep_toList fun task (found : cleanup = some task) =>
    .inr (.inr (kind_of_cleanup (found ▸ cleaned)))
  simp only [List.filter_append, first, second, last, filter_upkeep_replication, List.append_nil]

/-- Without targets a worker proposes for a volume exactly when it does with them, and then what is
left of its proposals without the replication. -/
theorem proposals_alone_eq_ok_iff {others : List Task} :
    (worker.alone.proposals controller now volume).run.value = .ok others ↔
      ∃ tasks, (worker.proposals controller now volume).run.value = .ok tasks ∧
        tasks.filter (·.IsUpkeep) = others := by
  -- without targets no query is asked for the replication, and all else is asked in the same way
  have no_replication : (worker.alone.replication controller volume now).value = none := rfl
  constructor
  · intro made
    obtain ⟨state, read, ⟨started, rfl⟩ |
      ⟨rest, apply, merge, cleanup, applied, merged, cleaned, rfl⟩⟩ := proposals_eq_ok_iff.1 made
    · refine ⟨_, proposals_eq_ok_iff.2 ⟨state, read, .inl ⟨started, rfl⟩⟩, ?_⟩
      rw [List.filter_cons_of_pos (by rfl), filter_upkeep_replication, no_replication]
      rfl
    · refine ⟨_, proposals_eq_ok_iff.2 ⟨state, read,
        .inr ⟨rest, apply, merge, cleanup, applied, merged, cleaned, rfl⟩⟩, ?_⟩
      have kept := filter_upkeep_append worker applied merged cleaned
      rw [kept, no_replication, Option.toList_none, List.append_nil]
  · rintro ⟨tasks, made, rfl⟩
    obtain ⟨state, read, ⟨started, rfl⟩ |
      ⟨rest, apply, merge, cleanup, applied, merged, cleaned, rfl⟩⟩ := proposals_eq_ok_iff.1 made
    · refine proposals_eq_ok_iff.2 ⟨state, read, .inl ⟨started, ?_⟩⟩
      rw [List.filter_cons_of_pos (by rfl), filter_upkeep_replication, no_replication]
      rfl
    · refine proposals_eq_ok_iff.2 ⟨state, read,
        .inr ⟨rest, apply, merge, cleanup, applied, merged, cleaned, ?_⟩⟩
      rw [filter_upkeep_append worker applied merged cleaned, no_replication, Option.toList_none,
        List.append_nil]

/-- Cutting the replication out of the proposals of a volume leaves what a worker without targets
proposes. -/
theorem filter_upkeep_proposed :
    (worker.proposed controller now volume).filter (·.IsUpkeep) =
      worker.alone.proposed controller now volume := by
  cases made : (worker.proposals controller now volume).run.value with
  | ok tasks =>
    have left := proposals_alone_eq_ok_iff.2 ⟨tasks, made, rfl⟩
    simp only [proposed, made, left]
  | error error =>
    cases left : (worker.alone.proposals controller now volume).run.value with
    | ok others =>
      obtain ⟨tasks, again, -⟩ := proposals_alone_eq_ok_iff.1 left
      cases made.symm.trans again
    | error error' => simp only [proposed, made, left, List.filter_nil]

/-- Workers with one policy but for their targets, under controllers that differ at most in what they
answer about marked restore points, have the same applies, merges and cleanups in the same order. -/
theorem replication_stays_apart (worker other : Worker) (targets : Targets)
    (sameElse : other.config = { worker.config with targets }) (first second : Controller)
    (agree : AgreeOn (fun query => ¬ query.IsNarrow) first second) (now : Instant)
    (volumes : List String) :
    (worker.candidates first now volumes).value.filter (·.IsUpkeep) =
      (other.candidates second now volumes).value.filter (·.IsUpkeep) := by
  have sameAlone : other.alone = worker.alone := by rw [alone, alone, sameElse]
  refine filter_candidates_congr fun volume _ => ?_
  have inspected : AgreeOn (Query.Inspects volume) first second := agree.mono fun _ => And.right
  have unmoved : worker.alone.proposals first now volume =
      worker.alone.proposals second now volume := proposals_congr inspected rfl
  rw [filter_upkeep_proposed, filter_upkeep_proposed, sameAlone, proposed, proposed, unmoved]

/-- One worker mirrors both volumes. The other has a vault as its target and gets no answer about
marked restore points, and still it goes on with the interrupted apply and the cleanup. -/
theorem replication_stays_apart_unmarked :
    let now : Instant := .ofSeconds 100000
    let volumes := ["resting", "stalled"]
    let vault : Targets :=
      ⟨[("vault", { addr := "127.0.0.1", port := 5002 })], List.pairwise_singleton _ _⟩
    let other : Worker := { config := { eagerWorker.config with targets := vault } }
    let upkeep := [eagerWorker.task "resting" (.apply 12), eagerWorker.task "stalled" (.apply 10),
      eagerWorker.task "resting" (.cleanup 7)]
    other.config = { eagerWorker.config with targets := vault } ∧
      AgreeOn (fun query => ¬ query.IsNarrow) troubledArchive troubledArchive.unmarked ∧
      mirroring "stalled" ∈ (eagerWorker.candidates troubledArchive now volumes).value ∧
      (eagerWorker.candidates troubledArchive now volumes).value.filter (·.IsUpkeep) = upkeep ∧
      (other.candidates troubledArchive.unmarked now volumes).value.filter (·.IsUpkeep) =
        upkeep := by
  intro now volumes vault other upkeep
  have mirrored : mirroring "stalled" ∈
      (eagerWorker.candidates troubledArchive now volumes).value := by decide
  have listed : (eagerWorker.candidates troubledArchive now volumes).value.filter (·.IsUpkeep) =
      upkeep := by decide
  have kept := replication_stays_apart eagerWorker other vault rfl troubledArchive
    troubledArchive.unmarked agreeOn_unmarked now volumes
  exact ⟨rfl, agreeOn_unmarked, mirrored, listed, kept.symm.trans listed⟩

end Worker

end ArchiveUpkeep
