import ArchiveUpkeep.Chain.Diff
import ArchiveUpkeep.Measure.Compression

/-! The replication policy of a target says how it is reached, how diffs are sent to it, and how
much time passes between two replications of a volume. -/
namespace ArchiveUpkeep

structure ReplicationPolicy where
  addr : String
  port : UInt16
  /-- The least time between two replications of a volume. -/
  interval : Period := .ofSeconds 86400
  compression : Compression := {}
  /-- Diffs are merged up to this size before they are sent. -/
  maxMergeSize : UInt64 := 1073741824
  bulkSize : UInt64 := 65536
deriving DecidableEq, Repr

/-- The restore point with the greatest id, and of several with that id the last one listed. -/
def newestPoint? (points : List RestorePoint) : Option RestorePoint :=
  points.foldl newer none
where
  /-- The later of two candidates wins unless its id is smaller. -/
  newer : Option RestorePoint → RestorePoint → Option RestorePoint
    | none, point => some point
    | some best, point => if best.gid ≤ point.gid then some point else some best

/-- Whether a target is to receive a volume. `primary` and `replica` are the newest restore points
at the primary archive and at the target. A target that holds the primary's newest id is never due,
one that holds nothing is due at once, and any other is due when the interval has passed since its
own restore point. -/
def replicationDue (primary replica : Option RestorePoint) (interval : Period) (now : Instant) :
    Bool :=
  match primary, replica with
  | none, _ => false
  | some _, none => true
  | some newest, some held =>
    held.gid < newest.gid && (now.since? held.time).any fun elapsed => interval ≤ elapsed

end ArchiveUpkeep
