import ArchiveUpkeep.Proofs.CleanupSafety

/-! When an apply is started of its own accord. It goes to the newest point beyond the base that is
past the keep period, and what decides is how many diffs, or how many bytes of them, lie from the
lower end of the base up to that point. -/
namespace ArchiveUpkeep

namespace ApplyPolicy
variable {policy : ApplyPolicy} {count size : UInt64}

theorem freshEnabled_iff :
    policy.freshEnabled ↔
      (∃ threshold, policy.thresholdCount = some threshold) ∨
        ∃ threshold, policy.thresholdSize = some threshold := by
  simp [freshEnabled, Option.isSome_iff_exists]

theorem freshDue_iff :
    policy.freshDue count size ↔
      (∃ threshold, policy.thresholdCount = some threshold ∧ threshold ≤ count) ∨
        ∃ threshold, policy.thresholdSize = some threshold ∧ threshold ≤ size := by
  simp [freshDue, Option.any_eq_true]

end ApplyPolicy

/-- Fresh applies are configured, the target is the newest past point beyond the base, and what
lies from the lower end of the base up to it reaches a threshold. -/
structure FreshlyDue (worker : Worker) (controller : Controller) (now : Instant) (volume : String)
    (state : MetaState) (target : Gid) : Prop where
  configured : (∃ threshold, worker.config.apply.thresholdCount = some threshold) ∨
    ∃ threshold, worker.config.apply.thresholdSize = some threshold
  newest : ∃ points, controller.answer (.restorable worker.primary volume .all) = .ok points ∧
    NewestPast points worker.config.apply.keepPeriod now (state.base.upper < ·) target
  reached : ∃ (ordered : state.base.lower ≤ target) (count size : UInt64),
    let folded : GidRange := ⟨state.base.lower, target, ordered⟩
    controller.answer (.diffCount worker.primary volume folded) = .ok count ∧
      controller.answer (.diffSize worker.primary volume folded) = .ok size ∧
      ((∃ threshold, worker.config.apply.thresholdCount = some threshold ∧ threshold ≤ count) ∨
        ∃ threshold, worker.config.apply.thresholdSize = some threshold ∧ threshold ≤ size)

namespace Worker
open Selecting
variable {worker : Worker} {controller : Controller} {volume : String} {now : Instant}
  {state : MetaState} {task : Task}

/-- An apply is found exactly if it is due. -/
theorem freshApply_eq_some_iff_due :
    (worker.freshApply controller volume state now).run.value = .ok (some task) ↔
      ∃ target, FreshlyDue worker controller now volume state target ∧
        task = worker.task volume (.apply target) := by
  rw [freshApply_eq_some_iff, ApplyPolicy.freshEnabled_iff]
  constructor
  · rintro ⟨configured, points, target, ⟨_, _, ordered⟩, count, size, listing, newest, between,
      counted, sized, due, rfl⟩
    obtain ⟨rfl, rfl⟩ := GidRange.between_eq_ok_iff.1 between
    exact ⟨_, ⟨configured, ⟨points, listing, newest⟩, ordered, count, size, counted, sized,
      ApplyPolicy.freshDue_iff.1 due⟩, rfl⟩
  · rintro ⟨target, ⟨configured, ⟨points, listing, newest⟩, ordered, count, size, counted, sized,
      due⟩, rfl⟩
    exact ⟨configured, points, target, _, count, size, listing, newest, dif_pos ordered, counted,
      sized, ApplyPolicy.freshDue_iff.2 due, rfl⟩

/-- For a volume at rest that answers every query an apply is proposed exactly if one is due, and
then it goes to the target that is due, of which there is only one. Whatever target is looked at
lies beyond the whole base, so the range that is counted for it is never inverted. -/
theorem fresh_apply_is_proposed_iff_due (worker : Worker) (controller : Controller) (now : Instant)
    {volumes : List String} {volume : String} {state : MetaState} (listed : volume ∈ volumes)
    (read : controller.answer (.base worker.primary volume) = .ok state)
    (rest : ¬ state.isApplying)
    (answered : ∀ query ∈ (worker.proposals controller now volume).run.queries,
      ∃ answer, controller.answer query = .ok answer)
    (upright : ∀ lower upper, (worker.merge controller volume now).run.value ≠
      .error (.inconsistent volume (.invertedRange lower upper))) :
    let candidates := (worker.candidates controller now volumes).value
    let due := FreshlyDue worker controller now volume state
    ((∃ task ∈ candidates, task.volume = volume ∧ task.kind = .apply) ↔ ∃ target, due target) ∧
      (∀ task ∈ candidates, task.volume = volume → task.kind = .apply →
        ∃ target, due target ∧ task = worker.task volume (.apply target)) ∧
      (∀ target, due target →
        worker.task volume (.apply target) ∈ candidates ∧ ∀ other, due other → other = target) ∧
      ∀ points target,
        state.freshApplyTarget? points worker.config.apply.keepPeriod now = some target →
        state.base.lower ≤ state.base.upper ∧ state.base.upper < target ∧
          ∃ folded, GidRange.between state.base.lower target = .ok folded := by
  intro candidates due
  have only_due : ∀ task ∈ candidates, task.volume = volume → task.kind = .apply →
      ∃ target, due target ∧ task = worker.task volume (.apply target) := by
    intro task proposed about apply
    exact freshApply_eq_some_iff_due.1 (freshApply_of_candidate read rest proposed about apply)
  have all_due : ∀ target, due target → worker.task volume (.apply target) ∈ candidates := by
    intro target isDue
    obtain ⟨tasks, proposed⟩ := proposals_are_made answered upright
    exact candidate_of_found read rest listed proposed
      (.inl (freshApply_eq_some_iff_due.2 ⟨target, isDue, rfl⟩))
  refine ⟨⟨?_, ?_⟩, only_due, fun target isDue => ⟨all_due target isDue, ?_⟩, ?_⟩
  · rintro ⟨task, proposed, about, apply⟩
    obtain ⟨target, isDue, -⟩ := only_due task proposed about apply
    exact ⟨target, isDue⟩
  · rintro ⟨target, isDue⟩
    exact ⟨_, all_due target isDue, rfl, rfl⟩
  · intro other alsoDue
    obtain ⟨points, listing, newest⟩ := isDue.newest
    obtain ⟨others, again, alsoNewest⟩ := alsoDue.newest
    cases listing.symm.trans again
    exact alsoNewest.unique newest
  · intro points target aimed
    have ordered := MetaState.lower_le_freshApplyTarget aimed
    exact ⟨state.base.lower_le_upper, (MetaState.freshApplyTarget?_eq_some_iff.1 aimed).accepted,
      ⟨_, _, ordered⟩, dif_pos ordered⟩

/-- A worker that starts an apply for five diffs, or for a byte of them. -/
def thriftyWorker : Worker where
  config :=
    { general := { addr := "127.0.0.1", port := 5000 }
      apply := { thresholdCount := some 5, thresholdSize := some 1 }
      targets := .empty }

/-- A volume that has a diff for each generation, all of them empty, and whose base spans several
generations. -/
def dirtyArchive : Controller where
  answer
    | .volumes _ => .ok ["volume"]
    | .state .. => .ok archivedState
    | .base .. => .ok { base := ⟨7, 10, by decide⟩ }
    | .diffCount _ _ range => .ok (range.stop - range.start)
    | .diffSize .. => .ok 0
    | .applicableDiffs .. => .ok []
    | .restorable .. => .ok
      [⟨9, .ofSeconds 60⟩, ⟨12, .ofSeconds 120⟩, ⟨11, .ofSeconds 180⟩, ⟨14, .ofSeconds 90000⟩]

/-- There are only two diffs beyond the base, but five from its lower end on, which is enough. -/
theorem fresh_apply_is_proposed_iff_due_from_lower_end :
    let now : Instant := .ofSeconds 100000
    let state : MetaState := { base := ⟨7, 10, by decide⟩ }
    let candidates := (thriftyWorker.candidates dirtyArchive now ["volume"]).value
    candidates = [thriftyWorker.task "volume" (.apply 12)] ∧
      ∀ target, FreshlyDue thriftyWorker dirtyArchive now "volume" state target ↔ target = 12 := by
  intro now state candidates
  have listed : candidates = [thriftyWorker.task "volume" (.apply 12)] := by decide
  have answered (query : Query) : ∃ answer, dirtyArchive.answer query = .ok answer := by
    cases query <;> exact ⟨_, rfl⟩
  have merged : (thriftyWorker.merge dirtyArchive "volume" now).run.value = .ok none := rfl
  obtain ⟨-, only_due, all_due, -⟩ := fresh_apply_is_proposed_iff_due thriftyWorker dirtyArchive now
    (List.mem_singleton_self "volume") rfl (by decide) (fun query _ => answered query)
    (by simp [merged])
  obtain ⟨target, isDue, same⟩ := only_due _ (listed ▸ List.mem_singleton_self _) rfl rfl
  cases same
  refine ⟨listed, fun target => ⟨(all_due 12 isDue).2 target, ?_⟩⟩
  rintro rfl
  exact isDue

end Worker

end ArchiveUpkeep
