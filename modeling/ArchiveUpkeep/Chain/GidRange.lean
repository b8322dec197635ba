import ArchiveUpkeep.Chain.Snapshot

/-! Half-open ranges of generation ids, as diff counts and merges address them. -/
namespace ArchiveUpkeep

/-- The ids from `start` up to but not including `stop`. -/
structure GidRange where
  start : Gid
  stop : Gid
  start_le_stop : start ≤ stop
deriving Repr

namespace GidRange

/-- Ranges with the same ends are the same range. -/
instance : DecidableEq GidRange := fun r s =>
  decidable_of_iff (r.start = s.start ∧ r.stop = s.stop) (by cases r; cases s; simp)

/-- The range between two ids, which may not be inverted. -/
def between (start stop : Gid) : Except ChainError GidRange :=
  if ordered : start ≤ stop then .ok ⟨start, stop, ordered⟩ else .error (.invertedRange start stop)

/-- The ids below `stop`. -/
def below (stop : Gid) : GidRange := ⟨0, stop, by simp [UInt64.le_iff_toNat_le]⟩

/-- The ids from `start` on. -/
def startingAt (start : Gid) : GidRange := ⟨start, Gid.top, start.le_top⟩

/-- The whole history. -/
def all : GidRange := below Gid.top

instance : Inhabited GidRange := ⟨all⟩

instance : Membership Gid GidRange where
  mem range gid := range.start ≤ gid ∧ gid < range.stop

instance (gid : Gid) (range : GidRange) : Decidable (gid ∈ range) :=
  inferInstanceAs (Decidable (range.start ≤ gid ∧ gid < range.stop))

end GidRange

end ArchiveUpkeep
