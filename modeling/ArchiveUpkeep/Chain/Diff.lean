import ArchiveUpkeep.Chain.Snapshot
import ArchiveUpkeep.Measure.Compression
import ArchiveUpkeep.Time

/-! Diffs and restore points, as an archive lists them. The worker only reads listings; the archive
owns what they describe. -/
namespace ArchiveUpkeep

/-- The description of a stored diff. -/
structure Diff where
  /-- The snapshot the diff applies to. -/
  origin : Snapshot
  /-- The snapshot the diff produces. -/
  result : Snapshot
  /-- When the diff was created. -/
  time : Instant
  /-- Whether the diff may be merged with its predecessor. -/
  mergeable : Bool
  /-- Whether the diff was produced by compaction. -/
  compacted : Bool
  codec : Codec
  /-- The stored size in bytes. -/
  size : UInt64
deriving DecidableEq

namespace Diff

/-- The next diff starts exactly where this one ends. -/
def FollowedBy (d next : Diff) : Prop := d.result.lower = next.origin.lower

instance (d next : Diff) : Decidable (d.FollowedBy next) :=
  inferInstanceAs (Decidable (d.result.lower = next.origin.lower))

instance : ToString Diff where
  toString d :=
    let mergeable := if d.mergeable then "M" else "-"
    let compacted := if d.compacted then "C" else "-"
    s!"{d.origin}-->{d.result} {mergeable}{compacted} {d.codec} {d.size}"

end Diff

/-- A generation to which a volume can be restored, and when it was reached. -/
structure RestorePoint where
  gid : Gid
  time : Instant
deriving DecidableEq, Repr

end ArchiveUpkeep
