import ArchiveUpkeep.Proofs.RetentionTargets
import ArchiveUpkeep.Proofs.Selecting

/-! Where a proposed task comes from. A task among the candidates is one of the proposals of a
volume that was asked about, and a proposal says which answers it rests on. -/
namespace ArchiveUpkeep

theorem mem_serviceOrder_iff {task : Task} {tasks : List Task} :
    task ∈ serviceOrder tasks ↔ task ∈ tasks := by
  simp only [serviceOrder, List.mem_flatMap, List.mem_filter, decide_eq_true_eq]
  constructor
  · rintro ⟨kind, -, proposed, -⟩
    exact proposed
  · intro proposed
    refine ⟨task.kind, ?_, proposed, rfl⟩
    cases task.kind <;> simp

namespace Worker
open Selecting
variable {worker : Worker} {controller : Controller} {volume : String} {now : Instant}
  {state : MetaState} {task : Task} {tasks : List Task}

theorem mem_proposalsOrNone_iff :
    task ∈ (worker.proposalsOrNone controller now volume).value ↔
      ∃ tasks, (worker.proposals controller now volume).run.value = .ok tasks ∧ task ∈ tasks := by
  rw [proposalsOrNone, Traced.bind_value]
  cases (worker.proposals controller now volume).run.value with
  | error error => simp
  | ok tasks => simp

theorem mem_candidates_iff {volumes : List String} :
    task ∈ (worker.candidates controller now volumes).value ↔
      ∃ volume ∈ volumes, ∃ tasks,
        (worker.proposals controller now volume).run.value = .ok tasks ∧ task ∈ tasks := by
  rw [candidates, Traced.map_value, mem_serviceOrder_iff]
  induction volumes with
  | nil => simp [allProposals]
  | cons volume rest ih =>
    rw [allProposals, Traced.bind_value, Traced.map_value, List.mem_append,
      mem_proposalsOrNone_iff, ih]
    simp only [List.mem_cons, exists_eq_or_imp]

/-- What is proposed for a volume whose base is known: the rest of an interrupted apply, or what
the selectors find, each of which has to find an answer. -/
theorem proposals_eq_ok_iff :
    (worker.proposals controller now volume).run.value = .ok tasks ↔
      ∃ state, controller.answer (.base worker.primary volume) = .ok state ∧
        ((state.isApplying ∧ tasks = worker.task volume (.apply state.base.lower) ::
            (worker.replication controller volume now).value.toList) ∨
          (¬ state.isApplying ∧ ∃ apply merge cleanup,
            (worker.freshApply controller volume state now).run.value = .ok apply ∧
            (worker.merge controller volume now).run.value = .ok merge ∧
            (worker.cleanup controller volume state now).run.value = .ok cleanup ∧
            tasks = apply.toList ++ merge.toList ++
              (worker.replication controller volume now).value.toList ++ cleanup.toList)) := by
  rw [proposals, bind_eq_ok_iff]
  refine exists_congr fun state => and_congr require_eq_ok_iff ?_
  by_cases applying : state.isApplying
  · have resumed : state.resumeGid? = some state.base.lower := if_pos applying
    simp only [resumed, applying, true_and, not_true_eq_false, false_and, or_false]
    exact ⟨fun made => (Except.ok.inj made).symm, fun listed => congrArg Except.ok listed.symm⟩
  · simp only [MetaState.resumeGid?, applying, Bool.false_eq_true, ↓reduceIte, false_and,
      not_false_eq_true, true_and, false_or, bind_eq_ok_iff]
    simp [eq_comm]

theorem freshApply_eq_some_iff :
    (worker.freshApply controller volume state now).run.value = .ok (some task) ↔
      worker.config.apply.freshEnabled ∧ ∃ points target range count size,
        controller.answer (.restorable worker.primary volume .all) = .ok points ∧
        NewestPast points worker.config.apply.keepPeriod now (state.base.upper < ·) target ∧
        GidRange.between state.base.lower target = .ok range ∧
        controller.answer (.diffCount worker.primary volume range) = .ok count ∧
        controller.answer (.diffSize worker.primary volume range) = .ok size ∧
        worker.config.apply.freshDue count size ∧ task = worker.task volume (.apply target) := by
  unfold freshApply
  dsimp only
  split
  next enabled =>
    constructor
    · intro found
      obtain ⟨points, listing, found⟩ := bind_eq_ok_iff.1 found
      cases aimed : state.freshApplyTarget? points worker.config.apply.keepPeriod now with
      | none => simp [aimed] at found
      | some target =>
        rw [aimed] at found
        obtain ⟨range, between, found⟩ := bind_eq_ok_iff.1 found
        obtain ⟨count, counted, found⟩ := bind_eq_ok_iff.1 found
        obtain ⟨size, sized, found⟩ := bind_eq_ok_iff.1 found
        have due : worker.config.apply.freshDue count size ∧
            worker.task volume (.apply target) = task := by simpa using found
        exact ⟨enabled, points, target, range, count, size, require_eq_ok_iff.1 listing,
          MetaState.freshApplyTarget?_eq_some_iff.1 aimed, consistent_eq_ok_iff.1 between,
          require_eq_ok_iff.1 counted, require_eq_ok_iff.1 sized, due.1, due.2.symm⟩
    · rintro ⟨-, points, target, range, count, size, listing, newest, between, counted, sized,
        due, rfl⟩
      refine bind_eq_ok_iff.2 ⟨points, require_eq_ok_iff.2 listing, ?_⟩
      rw [MetaState.freshApplyTarget?_eq_some_iff.2 newest]
      refine bind_eq_ok_iff.2 ⟨range, consistent_eq_ok_iff.2 between, ?_⟩
      refine bind_eq_ok_iff.2 ⟨count, require_eq_ok_iff.2 counted, ?_⟩
      refine bind_eq_ok_iff.2 ⟨size, require_eq_ok_iff.2 sized, ?_⟩
      simp [due]
  next disabled =>
    refine iff_of_false (by simp) fun enabled => disabled enabled.1

/-- A cleanup is proposed for the newest past point within the base, if there are diffs below. -/
theorem cleanup_eq_some_iff :
    (worker.cleanup controller volume state now).run.value = .ok (some task) ↔
      ∃ points target count,
        controller.answer (.restorable worker.primary volume .all) = .ok points ∧
        NewestPast points worker.config.apply.keepPeriod now (· ≤ state.base.lower) target ∧
        controller.answer (.diffCount worker.primary volume (.below target)) = .ok count ∧
        count ≠ 0 ∧ task = worker.task volume (.cleanup target) := by
  constructor
  · intro found
    obtain ⟨points, listing, found⟩ := bind_eq_ok_iff.1 found
    cases aimed : state.cleanupTarget? points worker.config.apply.keepPeriod now with
    | none => simp [aimed] at found
    | some target =>
      rw [aimed] at found
      obtain ⟨count, counted, found⟩ := bind_eq_ok_iff.1 found
      have some_left : count ≠ 0 ∧ worker.task volume (.cleanup target) = task := by
        simpa using found
      exact ⟨points, target, count, require_eq_ok_iff.1 listing,
        MetaState.cleanupTarget?_eq_some_iff.1 aimed, require_eq_ok_iff.1 counted,
        some_left.1, some_left.2.symm⟩
  · rintro ⟨points, target, count, listing, newest, counted, some_left, rfl⟩
    refine bind_eq_ok_iff.2 ⟨points, require_eq_ok_iff.2 listing, ?_⟩
    rw [MetaState.cleanupTarget?_eq_some_iff.2 newest]
    refine bind_eq_ok_iff.2 ⟨count, require_eq_ok_iff.2 counted, ?_⟩
    simp [some_left]

theorem kind_of_freshApply
    (found : (worker.freshApply controller volume state now).run.value = .ok (some task)) :
    task.kind = .apply := by
  obtain ⟨-, points, target, range, count, size, -, -, -, -, -, -, rfl⟩ :=
    freshApply_eq_some_iff.1 found
  rfl

theorem kind_of_cleanup
    (found : (worker.cleanup controller volume state now).run.value = .ok (some task)) :
    task.kind = .cleanup := by
  obtain ⟨points, target, count, -, -, -, -, rfl⟩ := cleanup_eq_some_iff.1 found
  rfl

theorem eq_of_merge_eq_some
    (found : (worker.merge controller volume now).run.value = .ok (some task)) :
    ∃ range : GidRange, task =
      worker.task volume (.merge range.start range.stop worker.config.merge.maxSize) := by
  obtain ⟨count, -, found⟩ := bind_eq_ok_iff.1 found
  obtain ⟨size, -, found⟩ := bind_eq_ok_iff.1 found
  split at found
  · obtain ⟨diffs, -, found⟩ := bind_eq_ok_iff.1 found
    obtain ⟨scope, -, found⟩ := bind_eq_ok_iff.1 found
    obtain ⟨range, -, rfl⟩ : ∃ range, scope = some range ∧ worker.task volume
        (.merge range.start range.stop worker.config.merge.maxSize) = task := by
      simpa using found
    exact ⟨range, rfl⟩
  · simp at found

theorem kind_of_merge
    (found : (worker.merge controller volume now).run.value = .ok (some task)) :
    task.kind = .merge := by
  obtain ⟨range, rfl⟩ := eq_of_merge_eq_some found
  rfl

theorem eq_of_replication_eq_some
    (found : (worker.replication controller volume now).value = some task) :
    ∃ target : Target, task = worker.task volume (.replicate target.name target.server
      target.policy.compression target.policy.bulkSize target.policy.maxMergeSize) := by
  unfold replication at found
  split at found
  · simp at found
  · rw [Traced.bind_value] at found
    split at found
    · simp at found
    · split at found
      · simp at found
      · rw [Traced.bind_value, Traced.pure_value, Option.map_eq_some_iff] at found
        obtain ⟨target, -, rfl⟩ := found
        exact ⟨target, rfl⟩

theorem kind_of_replication
    (found : (worker.replication controller volume now).value = some task) :
    task.kind = .replicate := by
  obtain ⟨target, rfl⟩ := eq_of_replication_eq_some found
  rfl

/-- Every proposal is found by one selector, and only a replication is found whether or not an apply
is interrupted. -/
theorem source_of_proposal
    (proposed : (worker.proposals controller now volume).run.value = .ok tasks)
    (listed : task ∈ tasks) :
    ∃ state, controller.answer (.base worker.primary volume) = .ok state ∧
      ((worker.replication controller volume now).value = some task ∨
        state.isApplying ∧ task = worker.task volume (.apply state.base.lower) ∨
        ¬ state.isApplying ∧
          ((worker.freshApply controller volume state now).run.value = .ok (some task) ∨
            (worker.merge controller volume now).run.value = .ok (some task) ∨
            (worker.cleanup controller volume state now).run.value = .ok (some task))) := by
  obtain ⟨state, read, ⟨started, rfl⟩ |
    ⟨rest, apply, merge, last, applied, merged, cleaned, rfl⟩⟩ := proposals_eq_ok_iff.1 proposed
  · simp only [List.mem_cons, Option.mem_toList] at listed
    rcases listed with resumed | replicated
    · exact ⟨state, read, .inr (.inl ⟨started, resumed⟩)⟩
    · exact ⟨state, read, .inl replicated⟩
  · simp only [List.mem_append, Option.mem_toList] at listed
    rcases listed with ((rfl | rfl) | replicated) | rfl
    · exact ⟨state, read, .inr (.inr ⟨rest, .inl applied⟩)⟩
    · exact ⟨state, read, .inr (.inr ⟨rest, .inr (.inl merged)⟩)⟩
    · exact ⟨state, read, .inl replicated⟩
    · exact ⟨state, read, .inr (.inr ⟨rest, .inr (.inr cleaned)⟩)⟩

/-- A cleanup is found by its selector, and only for a base that is at rest. -/
theorem source_of_cleanup (cleanup : task.kind = .cleanup)
    (proposed : (worker.proposals controller now volume).run.value = .ok tasks)
    (listed : task ∈ tasks) :
    ∃ state, controller.answer (.base worker.primary volume) = .ok state ∧ ¬ state.isApplying ∧
      (worker.cleanup controller volume state now).run.value = .ok (some task) := by
  obtain ⟨state, read, replicated | ⟨-, rfl⟩ | ⟨rest, applied | merged | cleaned⟩⟩ :=
    source_of_proposal proposed listed
  · exact nomatch cleanup.symm.trans (kind_of_replication replicated)
  · exact nomatch cleanup
  · exact nomatch cleanup.symm.trans (kind_of_freshApply applied)
  · exact nomatch cleanup.symm.trans (kind_of_merge merged)
  · exact ⟨state, read, rest, cleaned⟩

/-- An apply is the rest of an interrupted one, or it is found by its selector. -/
theorem source_of_apply (apply : task.kind = .apply)
    (proposed : (worker.proposals controller now volume).run.value = .ok tasks)
    (listed : task ∈ tasks) :
    ∃ state, controller.answer (.base worker.primary volume) = .ok state ∧
      (state.isApplying ∧ task = worker.task volume (.apply state.base.lower) ∨
        ¬ state.isApplying ∧
          (worker.freshApply controller volume state now).run.value = .ok (some task)) := by
  obtain ⟨state, read, replicated | resumed | ⟨rest, applied | merged | cleaned⟩⟩ :=
    source_of_proposal proposed listed
  · exact nomatch apply.symm.trans (kind_of_replication replicated)
  · exact ⟨state, read, .inl resumed⟩
  · exact ⟨state, read, .inr ⟨rest, applied⟩⟩
  · exact nomatch apply.symm.trans (kind_of_merge merged)
  · exact nomatch apply.symm.trans (kind_of_cleanup cleaned)

section Rest
variable {volumes : List String}
  (read : controller.answer (.base worker.primary volume) = .ok state) (rest : ¬ state.isApplying)
include read rest

/-- Beside a base at rest all that a selector finds is proposed. -/
theorem candidate_of_found (listed : volume ∈ volumes)
    (proposed : (worker.proposals controller now volume).run.value = .ok tasks)
    (found : (worker.freshApply controller volume state now).run.value = .ok (some task) ∨
      (worker.merge controller volume now).run.value = .ok (some task) ∨
      (worker.cleanup controller volume state now).run.value = .ok (some task)) :
    task ∈ (worker.candidates controller now volumes).value := by
  refine mem_candidates_iff.2 ⟨volume, listed, tasks, proposed, ?_⟩
  obtain ⟨other, again, ⟨interrupted, -⟩ |
    ⟨-, apply, merge, last, applied, merged, cleaned, rfl⟩⟩ := proposals_eq_ok_iff.1 proposed
  · cases read.symm.trans again
    exact absurd interrupted rest
  · cases read.symm.trans again
    rcases found with found | found | found
    · cases found.symm.trans applied
      simp
    · cases found.symm.trans merged
      simp
    · cases found.symm.trans cleaned
      simp

/-- Beside a base at rest an apply is found by its selector. -/
theorem freshApply_of_candidate
    (listed : task ∈ (worker.candidates controller now volumes).value)
    (about : task.volume = volume) (apply : task.kind = .apply) :
    (worker.freshApply controller volume state now).run.value = .ok (some task) := by
  obtain ⟨other, -, tasks, proposed, listed⟩ := mem_candidates_iff.1 listed
  obtain ⟨found, again, ⟨interrupted, rfl⟩ | ⟨-, fresh⟩⟩ := source_of_apply apply proposed listed
  · cases about
    cases read.symm.trans again
    exact absurd interrupted rest
  · obtain ⟨-, points, target, range, count, size, -, -, -, -, -, -, rfl⟩ :=
      freshApply_eq_some_iff.1 fresh
    cases about
    cases read.symm.trans again
    exact fresh

end Rest

end Worker

end ArchiveUpkeep
