import ArchiveUpkeep.Chain.Diff
import ArchiveUpkeep.Chain.MetaState

/-! Retention decides up to which generation a volume's diffs may be given up. Restore points inside
the keep period stay what they are; of the older ones, those beyond the base are targets for folding
diffs into the base, and those within it are targets for deleting diffs. -/
namespace ArchiveUpkeep

/-- The greatest accepted id among the restore points at or before `horizon`. -/
def latestBefore? (points : List RestorePoint) (horizon : Instant) (accept : Gid → Bool) :
    Option Gid :=
  ((points.filter fun point => point.time ≤ horizon ∧ accept point.gid).map RestorePoint.gid).max?

theorem latestBefore?_eq_some_iff {points : List RestorePoint} {horizon : Instant}
    {accept : Gid → Bool} {gid : Gid} :
    latestBefore? points horizon accept = some gid ↔
      (∃ point ∈ points, point.gid = gid ∧ point.time ≤ horizon ∧ accept gid) ∧
        ∀ point ∈ points, point.time ≤ horizon → accept point.gid → point.gid ≤ gid := by
  simp only [latestBefore?, List.max?_eq_some_iff, List.mem_map, List.mem_filter,
    decide_eq_true_eq]
  constructor
  · rintro ⟨⟨point, ⟨listed, old, accepted⟩, rfl⟩, greatest⟩
    exact ⟨⟨point, listed, rfl, old, accepted⟩, fun other listed old accepted =>
      greatest other.gid ⟨other, ⟨listed, old, accepted⟩, rfl⟩⟩
  · rintro ⟨⟨point, listed, rfl, old, accepted⟩, greatest⟩
    refine ⟨⟨point, ⟨listed, old, accepted⟩, rfl⟩, ?_⟩
    rintro _ ⟨other, ⟨listed, old, accepted⟩, rfl⟩
    exact greatest other listed old accepted

namespace MetaState

/-- The id up to which a fresh apply goes: the newest restore point beyond the base that is older
than the keep period. -/
def freshApplyTarget? (state : MetaState) (points : List RestorePoint) (keepPeriod : Period)
    (now : Instant) : Option Gid := do
  let horizon ← now.before? keepPeriod
  latestBefore? points horizon fun gid => state.base.upper < gid

/-- The id up to which diffs are deleted: the newest restore point within the base that is older
than the keep period. -/
def cleanupTarget? (state : MetaState) (points : List RestorePoint) (keepPeriod : Period)
    (now : Instant) : Option Gid := do
  let horizon ← now.before? keepPeriod
  latestBefore? points horizon fun gid => gid ≤ state.base.lower

/-- The id at which an interrupted apply is issued again: the lower end of the base. -/
def resumeGid? (state : MetaState) : Option Gid :=
  if state.isApplying then some state.base.lower else none

end MetaState

end ArchiveUpkeep
