import ArchiveUpkeep.Policy.Retention
import ArchiveUpkeep.Proofs.SettledTimes

/-! What a retention target is: of the restore points that are past the keep period, as exact
nanoseconds count it, and on the right side of the base, the one with the greatest id. -/
namespace ArchiveUpkeep

/-- Past a keep period, counted in exact nanoseconds. -/
def RestorePoint.Past (point : RestorePoint) (keepPeriod : Period) (now : Instant) : Prop :=
  point.time.toNanos + keepPeriod.toNanos ≤ now.toNanos

/-- The greatest id among the listed points that are past the keep period and accepted. -/
structure NewestPast (points : List RestorePoint) (keepPeriod : Period) (now : Instant)
    (accept : Gid → Prop) (gid : Gid) : Prop where
  listed : ∃ point ∈ points, point.gid = gid ∧ point.Past keepPeriod now
  accepted : accept gid
  greatest : ∀ point ∈ points, point.Past keepPeriod now → accept point.gid → point.gid ≤ gid

/-- A listing has one newest point at most. -/
theorem NewestPast.unique {points : List RestorePoint} {keepPeriod : Period} {now : Instant}
    {accept : Gid → Prop} {gid other : Gid} (newest : NewestPast points keepPeriod now accept gid)
    (again : NewestPast points keepPeriod now accept other) : gid = other := by
  obtain ⟨point, listed, rfl, past⟩ := newest.listed
  obtain ⟨rival, held, rfl, old⟩ := again.listed
  exact UInt64.le_antisymm (again.greatest point listed past newest.accepted)
    (newest.greatest rival held old again.accepted)

namespace MetaState
variable {state : MetaState} {points : List RestorePoint} {keepPeriod : Period} {now : Instant}
  {gid : Gid}

/-- A horizon before all instants has no point at or before it, and no point is past then. -/
theorem newest_past_iff {accept : Gid → Prop} [DecidablePred accept] :
    ((now.before? keepPeriod).bind fun horizon =>
        latestBefore? points horizon fun gid => accept gid) = some gid ↔
      NewestPast points keepPeriod now accept gid := by
  cases found : now.before? keepPeriod with
  | none =>
    refine iff_of_false (by simp) ?_
    rintro ⟨⟨point, -, -, past⟩, -, -⟩
    obtain ⟨horizon, some_eq, -⟩ := Instant.settled_iff.2 past
    exact nomatch found.symm.trans some_eq
  | some horizon =>
    have past_iff (point : RestorePoint) : point.time ≤ horizon ↔ point.Past keepPeriod now := by
      rw [RestorePoint.Past, ← Instant.settled_iff, Instant.Settled, found]
      simp
    rw [Option.bind_some, latestBefore?_eq_some_iff]
    simp only [past_iff, decide_eq_true_eq]
    constructor
    · rintro ⟨⟨point, listed, same, past, accepted⟩, greatest⟩
      exact ⟨⟨point, listed, same, past⟩, accepted, greatest⟩
    · rintro ⟨⟨point, listed, same, past⟩, accepted, greatest⟩
      exact ⟨⟨point, listed, same, past, accepted⟩, greatest⟩

theorem newest_past_exists {accept : Gid → Prop} [DecidablePred accept] {point : RestorePoint}
    (listed : point ∈ points) (past : point.Past keepPeriod now) (accepted : accept point.gid) :
    ∃ gid, NewestPast points keepPeriod now accept gid := by
  obtain ⟨horizon, reached, old⟩ := Instant.settled_iff.2 past
  have candidate : point.gid ∈ (points.filter fun point =>
      point.time ≤ horizon ∧ decide (accept point.gid)).map RestorePoint.gid :=
    List.mem_map_of_mem (List.mem_filter.2 ⟨listed, by simp [old, accepted]⟩)
  cases found : latestBefore? points horizon fun gid => accept gid with
  | none => exact absurd candidate (List.max?_eq_none_iff.1 found ▸ List.not_mem_nil)
  | some gid => exact ⟨gid, newest_past_iff.1 (by rw [reached, Option.bind_some, found])⟩

/-- A fresh apply goes to the newest point past the keep period that lies beyond the base. -/
theorem freshApplyTarget?_eq_some_iff :
    state.freshApplyTarget? points keepPeriod now = some gid ↔
      NewestPast points keepPeriod now (state.base.upper < ·) gid := newest_past_iff

/-- The target of a fresh apply lies beyond the whole base, so what it folds in is in order. -/
theorem lower_le_freshApplyTarget
    (aimed : state.freshApplyTarget? points keepPeriod now = some gid) :
    state.base.lower ≤ gid := by
  have beyond := (freshApplyTarget?_eq_some_iff.1 aimed).accepted
  exact UInt64.le_trans state.base.lower_le_upper (UInt64.le_of_lt beyond)

/-- A cleanup goes to the newest point past the keep period that the base has taken over. -/
theorem cleanupTarget?_eq_some_iff :
    state.cleanupTarget? points keepPeriod now = some gid ↔
      NewestPast points keepPeriod now (· ≤ state.base.lower) gid := newest_past_iff

end MetaState

end ArchiveUpkeep
