import ArchiveUpkeep.Proofs.MergeTiling
import ArchiveUpkeep.Proofs.RetentionTargets
import ArchiveUpkeep.Proofs.Selecting

/-! How the proposals for a volume can fail: at a query that was asked and not answered, or at an
inverted range that a merge would cover. An apply cannot meet an inverted range, since its target
lies beyond the base, and a cleanup starts where the history starts. -/
namespace ArchiveUpkeep

namespace Worker
open Selecting
variable {worker : Worker} {controller : Controller} {volume : String} {now : Instant}
  {state : MetaState}

theorem freshApply_fails_only :
    FailsOnly controller volume (fun _ => False)
      (worker.freshApply controller volume state now) := by
  unfold freshApply
  dsimp only
  split
  · refine .bind (.require _) fun points => ?_
    split
    · exact .pure none
    next target aimed =>
      refine .bind (.consistent fun cause failed => ?_) fun range => ?_
      · have ordered := MetaState.lower_le_freshApplyTarget aimed
        simp [GidRange.between, ordered] at failed
      refine .bind (.require _) fun count => ?_
      exact .bind (.require _) fun size => .pure _
  · exact .pure none

theorem merge_fails_only :
    FailsOnly controller volume
      (fun error => ∃ lower upper, error = .inconsistent volume (.invertedRange lower upper))
      (worker.merge controller volume now) := by
  unfold merge
  dsimp only
  refine .bind (.require _) fun count => ?_
  refine .bind (.require _) fun size => ?_
  split
  · refine .bind (.require _) fun diffs => ?_
    refine .bind (.consistent fun cause failed => ?_) fun scope => .pure _
    obtain ⟨lower, upper, -, -, rfl⟩ :=
      MergePolicy.span_eq_error_iff.1 (MergePolicy.scope_eq_span.symm.trans failed)
    exact ⟨lower, upper, rfl⟩
  · exact .pure none

theorem cleanup_fails_only :
    FailsOnly controller volume (fun _ => False)
      (worker.cleanup controller volume state now) := by
  unfold cleanup
  refine .bind (.require _) fun points => ?_
  split
  · exact .pure none
  · exact .bind (.require _) fun count => .pure _

/-- Answers that cannot be right are found by the merge selection alone. -/
theorem proposals_fail_only :
    FailsOnly controller volume
      (fun error => (worker.merge controller volume now).run.value = .error error ∧
        ∃ lower upper, error = .inconsistent volume (.invertedRange lower upper))
      (worker.proposals controller now volume) := by
  unfold proposals
  refine .bind (.require _) fun state => ?_
  split
  · refine .bind (.lift _) fun _ => ?_
    exact .bind (.lift _) fun replication => .pure _
  · refine .bind (freshApply_fails_only.weaken fun _ _ => False.elim) fun apply => ?_
    refine .bind (merge_fails_only.weaken fun _ => And.intro) fun merge => ?_
    refine .bind (.lift _) fun replication => ?_
    exact .bind (cleanup_fails_only.weaken fun _ _ => False.elim) fun cleanup => .pure _

/-- Proposals are made once every query that they ask is answered and the merge selection meets no
inverted range. -/
theorem proposals_are_made
    (answered : ∀ query ∈ (worker.proposals controller now volume).run.queries,
      ∃ answer, controller.answer query = .ok answer)
    (upright : ∀ lower upper, (worker.merge controller volume now).run.value ≠
      .error (.inconsistent volume (.invertedRange lower upper))) :
    ∃ tasks, (worker.proposals controller now volume).run.value = .ok tasks := by
  cases made : (worker.proposals controller now volume).run.value with
  | ok tasks => exact ⟨tasks, rfl⟩
  | error error =>
    rcases proposals_fail_only error made with ⟨failed, lower, upper, rfl⟩ |
      ⟨query, asked, cause, unanswered, -⟩
    · exact absurd failed (upright lower upper)
    · obtain ⟨answer, ok⟩ := answered query asked
      exact nomatch ok.symm.trans unanswered

end Worker

end ArchiveUpkeep
