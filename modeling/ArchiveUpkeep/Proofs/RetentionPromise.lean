import ArchiveUpkeep.Proofs.CleanupSafety

/-! What the keep period promises. An archive lists the restore points of a volume oldest first, so
nothing at or below a point that is past the keep period is younger than that point. Both retention
targets are such points, and therefore no apply that starts afresh and no cleanup reaches a restore
point that is still to be kept. -/
namespace ArchiveUpkeep

/-- A listing as an archive owes it: from one point to the next the ids rise, and the times do not
fall. -/
def OldestFirst (points : List RestorePoint) : Prop :=
  points.Pairwise fun earlier later => earlier.gid < later.gid ∧ earlier.time ≤ later.time

instance (points : List RestorePoint) : Decidable (OldestFirst points) :=
  inferInstanceAs (Decidable (points.Pairwise fun earlier later =>
    earlier.gid < later.gid ∧ earlier.time ≤ later.time))

variable {points : List RestorePoint} {point other : RestorePoint} {keepPeriod : Period}
  {now : Instant} {gid : Gid}

/-- A point is not older than one whose id is at most its own. -/
theorem OldestFirst.time_le (sorted : OldestFirst points) (listed : point ∈ points)
    (otherListed : other ∈ points) (within : point.gid ≤ other.gid) :
    point.time ≤ other.time := by
  induction points with
  | nil => cases listed
  | cons first rest ih =>
    obtain ⟨before, restSorted⟩ := List.pairwise_cons.1 sorted
    rcases List.mem_cons.1 listed with rfl | inRest
    · rcases List.mem_cons.1 otherListed with rfl | otherInRest
      · exact Instant.le_iff_toNanos_le.2 (Int.le_refl _)
      · exact (before other otherInRest).2
    · rcases List.mem_cons.1 otherListed with rfl | otherInRest
      · exact absurd (before point inRest).1 (UInt64.not_lt.2 within)
      · exact ih restSorted inRest otherInRest

/-- In a listing that is oldest first, what is at or below a past point is past. -/
theorem NewestPast.past_of_le {accept : Gid → Prop}
    (newest : NewestPast points keepPeriod now accept gid) (sorted : OldestFirst points)
    (listed : point ∈ points) (within : point.gid ≤ gid) : point.Past keepPeriod now := by
  obtain ⟨target, targetListed, rfl, past⟩ := newest.listed
  have earlier := Instant.le_iff_toNanos_le.1 (sorted.time_le listed targetListed within)
  unfold RestorePoint.Past at past ⊢
  omega

namespace Worker
variable {worker : Worker} {controller : Controller} {volumes : List String} {task : Task}

/-- A task that gives up the restore points of its volume up to `gid`: a cleanup, or an apply onto a
base that is at rest. The rest of an interrupted apply goes where its diffs were already given
up. -/
def GivesUp (worker : Worker) (controller : Controller) (task : Task) (gid : Gid) : Prop :=
  task.action = .cleanup gid ∨
    task.action = .apply gid ∧ ∃ state,
      controller.answer (.base worker.primary task.volume) = .ok state ∧ ¬ state.isApplying

/-- What is given up is read off the listing of all generations: up to a past point of it. -/
theorem newest_past_of_gives_up
    (proposed : task ∈ (worker.candidates controller now volumes).value)
    (givesUp : worker.GivesUp controller task gid) :
    ∃ points accept,
      controller.answer (.restorable worker.primary task.volume .all) = .ok points ∧
      NewestPast points worker.config.apply.keepPeriod now accept gid := by
  rcases givesUp with cleanup | ⟨apply, state, read, rest⟩
  · obtain ⟨state, deletable⟩ := cleanup_is_deletable proposed rfl cleanup
    obtain ⟨points, listing, newest⟩ := deletable.newest
    exact ⟨points, _, listing, newest⟩
  · obtain ⟨points, listing, newest⟩ := apply_goes_to_newest proposed rfl apply read rest
    exact ⟨points, _, listing, newest⟩

/-- Nothing listed at or below a retention target is still inside the keep period, so no task that
is proposed gives up a restore point before its time. -/
theorem kept_points_are_spared :
    (∀ (state : MetaState) (points : List RestorePoint) (keepPeriod : Period) (now : Instant)
      (gid : Gid), OldestFirst points →
      (state.freshApplyTarget? points keepPeriod now = some gid ∨
        state.cleanupTarget? points keepPeriod now = some gid) →
      ∀ point ∈ points, point.gid ≤ gid →
        point.time.toNanos + keepPeriod.toNanos ≤ now.toNanos) ∧
    (∀ (worker : Worker) (controller : Controller) (now : Instant) (volumes : List String)
      (points : List RestorePoint) (gid : Gid),
      ∀ task ∈ (worker.candidates controller now volumes).value,
        controller.answer (.restorable worker.primary task.volume .all) = .ok points →
        OldestFirst points → worker.GivesUp controller task gid →
        ∀ point ∈ points, point.gid ≤ gid →
          point.time.toNanos + worker.config.apply.keepPeriod.toNanos ≤ now.toNanos) := by
  constructor
  · intro state points keepPeriod now gid sorted target point listed within
    rcases target with apply | cleanup
    · have newest := MetaState.freshApplyTarget?_eq_some_iff.1 apply
      exact newest.past_of_le sorted listed within
    · have newest := MetaState.cleanupTarget?_eq_some_iff.1 cleanup
      exact newest.past_of_le sorted listed within
  · intro worker controller now volumes points gid task proposed listing sorted givesUp
      point listed within
    obtain ⟨others, accept, again, newest⟩ := newest_past_of_gives_up proposed givesUp
    cases listing.symm.trans again
    exact newest.past_of_le sorted listed within

/-- A volume whose base is at generation 10. Its first restore points stem from before the epoch and
from one instant, and the last one is young. -/
def agedArchive : Controller where
  answer
    | .restorable .. => .ok
      [⟨4, .ofSeconds (-60)⟩, ⟨7, .ofSeconds (-60)⟩, ⟨12, .ofSeconds 120⟩, ⟨14, .ofSeconds 90000⟩]
    | query => restingArchive.answer query

/-- The apply stops before the young point, and all that it folds into the base is a day old. -/
theorem kept_points_are_spared_at_rest :
    let now : Instant := .ofSeconds 100000
    let points : List RestorePoint :=
      [⟨4, .ofSeconds (-60)⟩, ⟨7, .ofSeconds (-60)⟩, ⟨12, .ofSeconds 120⟩, ⟨14, .ofSeconds 90000⟩]
    let state : MetaState := { base := .clean 10, applying_beyond := by decide }
    let apply := eagerWorker.task "volume" (.apply 12)
    OldestFirst points ∧ state.cleanupTarget? points (.ofSeconds 86400) now = some 7 ∧
      apply ∈ (eagerWorker.candidates agedArchive now ["volume"]).value ∧
      eagerWorker.GivesUp agedArchive apply 12 ∧
      (∀ point ∈ points, point.gid ≤ 7 →
        point.time.toNanos + (Period.ofSeconds 86400).toNanos ≤ now.toNanos) ∧
      ∀ point ∈ points, point.gid ≤ 12 →
        point.time.toNanos + (Period.ofSeconds 86400).toNanos ≤ now.toNanos := by
  intro now points state apply
  have sorted : OldestFirst points := by decide
  have target : state.cleanupTarget? points (.ofSeconds 86400) now = some 7 := by decide
  have proposed : apply ∈ (eagerWorker.candidates agedArchive now ["volume"]).value := by decide
  have givesUp : eagerWorker.GivesUp agedArchive apply 12 := .inr ⟨rfl, state, rfl, Bool.false_ne_true⟩
  obtain ⟨targets, tasks⟩ := kept_points_are_spared
  refine ⟨sorted, target, proposed, givesUp, ?_, ?_⟩
  · exact targets state points (.ofSeconds 86400) now 7 sorted (.inr target)
  · exact tasks eagerWorker agedArchive now ["volume"] points 12 apply proposed rfl sorted givesUp

end Worker

end ArchiveUpkeep
