import ArchiveUpkeep.Time

/-! The apply policy says how long restore points are kept as diffs, and how many pending diffs or
bytes start an apply of their own accord. Without a threshold only interrupted applies run. -/
namespace ArchiveUpkeep

structure ApplyPolicy where
  /-- Restore points younger than this are kept as diffs. -/
  keepPeriod : Period := .ofSeconds 86400
  /-- The number of pending diffs that starts a fresh apply. -/
  thresholdCount : Option UInt64 := none
  /-- The bytes of pending diffs that start a fresh apply. -/
  thresholdSize : Option UInt64 := none
deriving DecidableEq, Repr

namespace ApplyPolicy

/-- Whether fresh applies may be started at all. -/
def freshEnabled (policy : ApplyPolicy) : Bool :=
  policy.thresholdCount.isSome || policy.thresholdSize.isSome

/-- Whether the pending diffs reach a threshold that is set. -/
def freshDue (policy : ApplyPolicy) (count size : UInt64) : Bool :=
  policy.thresholdCount.any (· ≤ count) || policy.thresholdSize.any (· ≤ size)

end ApplyPolicy

end ArchiveUpkeep
