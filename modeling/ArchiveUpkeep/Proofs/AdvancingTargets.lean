import ArchiveUpkeep.Proofs.RetentionTargets

/-! Retention targets never move back. A later look at the clock, a shorter keep period and further
restore points each leave every point that was past the keep period past it, so the newest of them
can only become newer. What counts is which points are listed: not their order, and not how often. -/
namespace ArchiveUpkeep

variable {points more : List RestorePoint} {point : RestorePoint} {keepPeriod shorter : Period}
  {now later : Instant} {accept : Gid → Prop} {gid : Gid}

/-- What is past a keep period stays so as time goes on, and is past every shorter period. -/
theorem RestorePoint.Past.mono (past : point.Past keepPeriod now) (onward : now ≤ later)
    (relaxed : shorter ≤ keepPeriod) : point.Past shorter later := by
  rw [Instant.le_iff_toNanos_le] at onward
  rw [Period.le_iff_toNanos_le] at relaxed
  unfold Past at past ⊢
  omega

/-- Listings of the same points have the same newest point. -/
theorem NewestPast.of_mem_iff (newest : NewestPast points keepPeriod now accept gid)
    (same : ∀ point, point ∈ points ↔ point ∈ more) :
    NewestPast more keepPeriod now accept gid where
  listed := by simpa only [same] using newest.listed
  accepted := newest.accepted
  greatest := by simpa only [same] using newest.greatest

namespace MetaState

/-- Whichever side of the base is accepted, the newest point past the keep period moves forward. A
target that there is not, also for want of a horizon, is below every other. -/
theorem newest_past_mono [DecidablePred accept] (onward : now ≤ later)
    (relaxed : shorter ≤ keepPeriod) (kept : ∀ point ∈ points, point ∈ more) :
    ((now.before? keepPeriod).bind fun horizon =>
        latestBefore? points horizon fun gid => accept gid) ≤
      (later.before? shorter).bind fun horizon =>
        latestBefore? more horizon fun gid => accept gid := by
  cases found : (now.before? keepPeriod).bind fun horizon =>
      latestBefore? points horizon fun gid => accept gid with
  | none => exact Option.none_le
  | some gid =>
    have newest := newest_past_iff.1 found
    obtain ⟨point, listed, rfl, past⟩ := newest.listed
    have stillPast := past.mono onward relaxed
    obtain ⟨next, newestNext⟩ :=
      newest_past_exists (kept point listed) stillPast newest.accepted
    rw [newest_past_iff.2 newestNext]
    exact Option.some_le_some.2
      (newestNext.greatest point (kept point listed) stillPast newest.accepted)

theorem newest_past_congr [DecidablePred accept]
    (same : ∀ point, point ∈ points ↔ point ∈ more) :
    ((now.before? keepPeriod).bind fun horizon =>
        latestBefore? points horizon fun gid => accept gid) =
      (now.before? keepPeriod).bind fun horizon =>
        latestBefore? more horizon fun gid => accept gid := by
  ext gid
  rw [newest_past_iff, newest_past_iff]
  exact ⟨fun newest => newest.of_mem_iff same,
    fun newest => newest.of_mem_iff fun point => (same point).symm⟩

/-- As the clock goes on, the keep period is shortened or points are added to a listing, the targets
of fresh applies and of cleanups move forward if at all, where no target is below every target. The
same points in another order, or listed again, have the same targets. -/
theorem targets_only_move_forward (state : MetaState) :
    (∀ (points more : List RestorePoint) (keepPeriod shorter : Period) (now later : Instant),
      now ≤ later → shorter ≤ keepPeriod → (∀ point ∈ points, point ∈ more) →
        state.freshApplyTarget? points keepPeriod now ≤
            state.freshApplyTarget? more shorter later ∧
          state.cleanupTarget? points keepPeriod now ≤ state.cleanupTarget? more shorter later) ∧
    ∀ (points more : List RestorePoint) (keepPeriod : Period) (now : Instant),
      (∀ point, point ∈ points ↔ point ∈ more) →
        state.freshApplyTarget? points keepPeriod now =
            state.freshApplyTarget? more keepPeriod now ∧
          state.cleanupTarget? points keepPeriod now = state.cleanupTarget? more keepPeriod now := by
  constructor
  · intro points more keepPeriod shorter now later onward relaxed kept
    exact ⟨newest_past_mono onward relaxed kept, newest_past_mono onward relaxed kept⟩
  · intro points more keepPeriod now same
    exact ⟨newest_past_congr same, newest_past_congr same⟩

/-- The base is at generation 10. At first no instant is a keep period ago, then one point is past
the keep period, and when that is halved all points are. -/
theorem targets_only_move_forward_from_first_instant :
    let state : MetaState := { base := .clean 10, applying_beyond := by decide }
    let points : List RestorePoint := [⟨12, .ofSeconds 120⟩, ⟨4, .ofSeconds (-60)⟩]
    let more : List RestorePoint := ⟨7, .ofSeconds (-30)⟩ :: points.reverse ++ points
    let fresh := state.freshApplyTarget?
    let cleanup := state.cleanupTarget?
    let first : Instant := ⟨Int64.minValue, 0⟩
    let day := Period.ofSeconds 86400
    let twoDays := Period.ofSeconds 172800
    fresh points twoDays first = none ∧ cleanup points twoDays first = none ∧
      fresh points twoDays (.ofSeconds 172750) = none ∧
      cleanup points twoDays (.ofSeconds 172750) = some 4 ∧
      fresh more day (.ofSeconds 172751) = some 12 ∧
      cleanup more day (.ofSeconds 172751) = some 7 ∧
      (none : Option Gid) ≤ some 4 ∧ (none : Option Gid) ≤ some 12 ∧ some (4 : Gid) ≤ some 7 ∧
      cleanup (points ++ points.reverse) day (.ofSeconds 172751) = some 4 := by
  intro state points more fresh cleanup first day twoDays
  obtain ⟨forward, alike⟩ := targets_only_move_forward state
  have early : cleanup points twoDays (.ofSeconds 172750) = some 4 := by decide
  have freshLate : fresh more day (.ofSeconds 172751) = some 12 := by decide
  have cleanupLate : cleanup more day (.ofSeconds 172751) = some 7 := by decide
  have reached := forward points points twoDays twoDays first (.ofSeconds 172750)
    (by decide) (by decide) (fun _ => id)
  have halved := forward points more twoDays day (.ofSeconds 172750) (.ofSeconds 172751)
    (by decide) (by decide) (by decide)
  have again := alike (points ++ points.reverse) points day (.ofSeconds 172751) (by simp)
  refine ⟨by decide, by decide, by decide, early, freshLate, cleanupLate, ?_, ?_, ?_, ?_⟩
  · exact early ▸ reached.2
  · exact freshLate ▸ halved.1
  · exact cleanupLate ▸ early ▸ halved.2
  · exact again.2.trans (by decide)

end MetaState

end ArchiveUpkeep
