import ArchiveUpkeep.Proofs.ProposedTasks
import ArchiveUpkeep.Proofs.SelectionFailures

/-! A cleanup deletes nothing that is still needed. What it deletes is folded into the base, older
than the keep period and untouched by any apply that is proposed beside it; and where there is
something to delete, the cleanup is proposed. -/
namespace ArchiveUpkeep

/-- What is known of a volume whose base was read as `state` when the diffs below `gid` may be
deleted. The newest past point within the base is what remains restorable without them. -/
structure Deletable (worker : Worker) (controller : Controller) (now : Instant) (volume : String)
    (state : MetaState) (gid : Gid) : Prop where
  read : controller.answer (.base worker.primary volume) = .ok state
  at_rest : ¬ state.isApplying
  newest : ∃ points, controller.answer (.restorable worker.primary volume .all) = .ok points ∧
    NewestPast points worker.config.apply.keepPeriod now (· ≤ state.base.lower) gid
  worthwhile : ∃ count,
    controller.answer (.diffCount worker.primary volume (.below gid)) = .ok count ∧ 0 < count

namespace Worker
open Selecting
variable {worker : Worker} {controller : Controller} {volume : String} {now : Instant}
  {state : MetaState} {gid target : Gid} {task : Task} {tasks : List Task}
  {volumes : List String}

theorem cleanup_is_deletable
    (listed : task ∈ (worker.candidates controller now volumes).value)
    (about : task.volume = volume) (cleanup : task.action = .cleanup gid) :
    ∃ state, Deletable worker controller now volume state gid := by
  obtain ⟨other, -, tasks, proposed, listed⟩ := mem_candidates_iff.1 listed
  have kind : task.kind = .cleanup := congrArg Action.kind cleanup
  obtain ⟨state, read, rest, found⟩ := source_of_cleanup kind proposed listed
  obtain ⟨points, aimed, count, listing, newest, counted, some_left, rfl⟩ :=
    cleanup_eq_some_iff.1 found
  cases about
  cases cleanup
  have positive : 0 < count := UInt64.pos_iff_ne_zero.2 some_left
  exact ⟨state, read, rest, ⟨points, listing, newest⟩, count, counted, positive⟩

/-- Beside a base at rest an apply goes to the newest past point beyond it. -/
theorem apply_goes_to_newest
    (listed : task ∈ (worker.candidates controller now volumes).value)
    (about : task.volume = volume) (apply : task.action = .apply target)
    (read : controller.answer (.base worker.primary volume) = .ok state)
    (rest : ¬ state.isApplying) :
    ∃ points, controller.answer (.restorable worker.primary volume .all) = .ok points ∧
      NewestPast points worker.config.apply.keepPeriod now (state.base.upper < ·) target := by
  have kind : task.kind = .apply := congrArg Action.kind apply
  obtain ⟨-, points, aimed, range, count, size, listing, newest, -, -, -, -, rfl⟩ :=
    freshApply_eq_some_iff.1 (freshApply_of_candidate read rest listed about kind)
  cases apply
  exact ⟨points, listing, newest⟩

theorem apply_is_beyond
    (listed : task ∈ (worker.candidates controller now volumes).value)
    (about : task.volume = volume) (apply : task.action = .apply target)
    (read : controller.answer (.base worker.primary volume) = .ok state)
    (rest : ¬ state.isApplying) : state.base.upper < target := by
  obtain ⟨points, -, newest⟩ := apply_goes_to_newest listed about apply read rest
  exact newest.accepted

theorem deletable_is_cleaned_up (deletable : Deletable worker controller now volume state gid)
    (listed : volume ∈ volumes)
    (proposed : (worker.proposals controller now volume).run.value = .ok tasks) :
    worker.task volume (.cleanup gid) ∈ (worker.candidates controller now volumes).value := by
  obtain ⟨points, listing, newest⟩ := deletable.newest
  obtain ⟨count, counted, positive⟩ := deletable.worthwhile
  have found : (worker.cleanup controller volume state now).run.value =
      .ok (some (worker.task volume (.cleanup gid))) :=
    cleanup_eq_some_iff.2
      ⟨points, gid, count, listing, newest, counted, UInt64.pos_iff_ne_zero.1 positive, rfl⟩
  exact candidate_of_found deletable.read deletable.at_rest listed proposed (.inr (.inr found))

/-- Whatever a cleanup would delete lies below the base, is past the keep period and is apart from
what any proposed apply folds in. Conversely a volume that is at rest and answers every query is
cleaned up to its newest past point within the base, if there are diffs below that point. -/
theorem cleanup_spares_what_is_needed (worker : Worker) (controller : Controller) (now : Instant)
    (volumes : List String) (volume : String) :
    (∀ gid, ∀ task ∈ (worker.candidates controller now volumes).value, task.volume = volume →
      task.action = .cleanup gid →
      ∃ state, Deletable worker controller now volume state gid ∧
        ∀ other ∈ (worker.candidates controller now volumes).value, other.volume = volume →
          ∀ target, other.action = .apply target →
            gid ≤ state.base.lower ∧ state.base.lower ≤ state.base.upper ∧
            state.base.upper < target ∧
            ∃ folded, GidRange.between state.base.lower target = .ok folded ∧
              ∀ id ∈ GidRange.below gid, id ∉ folded) ∧
    (∀ state points, volume ∈ volumes →
      controller.answer (.base worker.primary volume) = .ok state → ¬ state.isApplying →
      (∀ query ∈ (worker.proposals controller now volume).run.queries,
        ∃ answer, controller.answer query = .ok answer) →
      (∀ lower upper, (worker.merge controller volume now).run.value ≠
        .error (.inconsistent volume (.invertedRange lower upper))) →
      controller.answer (.restorable worker.primary volume .all) = .ok points →
      (∃ point ∈ points, point.gid ≤ state.base.lower ∧
        point.Past worker.config.apply.keepPeriod now) →
      ∃ gid, NewestPast points worker.config.apply.keepPeriod now (· ≤ state.base.lower) gid ∧
        ∀ count, controller.answer (.diffCount worker.primary volume (.below gid)) = .ok count →
          0 < count →
          worker.task volume (.cleanup gid) ∈
            (worker.candidates controller now volumes).value) := by
  constructor
  · intro gid task listed about cleanup
    obtain ⟨state, deletable⟩ := cleanup_is_deletable listed about cleanup
    refine ⟨state, deletable, ?_⟩
    intro other beside same target apply
    obtain ⟨points, -, newest⟩ := deletable.newest
    have beyond := apply_is_beyond beside same apply deletable.read deletable.at_rest
    have ordered : state.base.lower ≤ target :=
      UInt64.le_trans state.base.lower_le_upper (UInt64.le_of_lt beyond)
    refine ⟨newest.accepted, state.base.lower_le_upper, beyond,
      ⟨state.base.lower, target, ordered⟩, by simp [GidRange.between, ordered], ?_⟩
    rintro id ⟨-, below⟩ ⟨above, -⟩
    exact UInt64.not_lt.2 (UInt64.le_trans newest.accepted above) below
  · rintro state points listed read rest answered upright listing ⟨point, held, within, past⟩
    obtain ⟨gid, newest⟩ : ∃ gid, NewestPast points worker.config.apply.keepPeriod now
        (· ≤ state.base.lower) gid := MetaState.newest_past_exists held past within
    refine ⟨gid, newest, ?_⟩
    intro count counted positive
    obtain ⟨tasks, proposed⟩ := proposals_are_made answered upright
    exact deletable_is_cleaned_up
      ⟨read, rest, ⟨points, listing, newest⟩, count, counted, positive⟩ listed proposed

/-- A worker that folds diffs into the base as soon as there is one, and mirrors the archive. -/
def eagerWorker : Worker where
  config :=
    { general := { addr := "127.0.0.1", port := 5000 }
      apply := { thresholdCount := some 1 }
      targets :=
        ⟨[("mirror", { addr := "127.0.0.1", port := 5001 })], List.pairwise_singleton _ _⟩ }

/-- A volume whose base is at generation 10, with restore points on either side of it. -/
def restingArchive : Controller where
  answer
    | .volumes _ => .ok ["volume"]
    | .state .. => .ok archivedState
    | .base .. => .ok { base := .clean 10 }
    | .diffCount .. | .diffSize .. => .ok 1
    | .applicableDiffs .. => .ok []
    | .restorable .. => .ok
      [⟨4, .ofSeconds 0⟩, ⟨7, .ofSeconds 60⟩, ⟨9, .ofSeconds 90000⟩, ⟨12, .ofSeconds 120⟩]

/-- The newest point within the base is too young, so the cleanup stops at the one before it. -/
theorem cleanup_spares_what_is_needed_at_rest :
    let now : Instant := .ofSeconds 100000
    let proposed := (eagerWorker.candidates restingArchive now ["volume"]).value
    proposed = [eagerWorker.task "volume" (.apply 12), eagerWorker.task "volume" (.cleanup 7)] ∧
      (∃ state, Deletable eagerWorker restingArchive now "volume" state 7 ∧
        7 ≤ state.base.lower ∧ state.base.upper < 12) ∧
      ∃ gid, eagerWorker.task "volume" (.cleanup gid) ∈ proposed := by
  intro now proposed
  have listed : proposed =
      [eagerWorker.task "volume" (.apply 12), eagerWorker.task "volume" (.cleanup 7)] := by
    decide
  have cleanup : eagerWorker.task "volume" (.cleanup 7) ∈ proposed := by simp [listed]
  have apply : eagerWorker.task "volume" (.apply 12) ∈ proposed := by simp [listed]
  obtain ⟨spared, found⟩ :=
    cleanup_spares_what_is_needed eagerWorker restingArchive now ["volume"] "volume"
  refine ⟨listed, ?_, ?_⟩
  · obtain ⟨state, deletable, apart⟩ := spared 7 _ cleanup rfl rfl
    obtain ⟨within, -, beyond, -⟩ := apart _ apply rfl 12 rfl
    exact ⟨state, deletable, within, beyond⟩
  · have answered (query : Query) : ∃ answer, restingArchive.answer query = .ok answer := by
      cases query <;> exact ⟨_, rfl⟩
    have merged : (eagerWorker.merge restingArchive "volume" now).run.value = .ok none := rfl
    obtain ⟨gid, -, cleaned⟩ := found { base := .clean 10 } _ (by simp) rfl (by decide)
      (fun query _ => answered query) (by simp [merged]) rfl
      ⟨⟨7, .ofSeconds 60⟩, by simp, by decide, by unfold RestorePoint.Past; decide⟩
    have positive : (0 : UInt64) < 1 := by decide
    exact ⟨gid, cleaned 1 rfl positive⟩

end Worker

end ArchiveUpkeep
