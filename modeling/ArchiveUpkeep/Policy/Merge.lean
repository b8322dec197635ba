import ArchiveUpkeep.Chain.Diff
import ArchiveUpkeep.Chain.GidRange
import ArchiveUpkeep.Measure.Size

/-! The merge policy chooses which diffs are combined: the first run of at least two neighbouring
diffs that are settled, mergeable and together within the bounds on number and size. -/
namespace ArchiveUpkeep

structure MergePolicy where
  /-- Diffs younger than this are not merged yet. -/
  interval : Period := .ofSeconds 600
  /-- The most diffs in one merge. -/
  maxCount : UInt64 := 10
  /-- The most bytes in one merge. -/
  maxSize : UInt64 := 1073741824
  /-- A merge is wanted once a volume has more diffs than this. -/
  thresholdCount : UInt64 := 20
deriving DecidableEq, Repr

namespace MergePolicy

/-- Whether the diffs of a volume are too many, or too large together. -/
def due (policy : MergePolicy) (count size : UInt64) : Bool :=
  policy.thresholdCount < count || policy.maxSize < size

/-- Old enough to be merged. -/
abbrev Settled (policy : MergePolicy) (now : Instant) (d : Diff) : Prop :=
  now.Settled policy.interval d.time

/-- A run that ends in `last`, with `count` diffs and `size` bytes, may be continued by `next`. A
diff that lands exactly on the bound on the size still fits. -/
abbrev Extends (policy : MergePolicy) (now : Instant) (last : Diff) (count : Nat) (size : UInt64)
    (next : Diff) : Prop :=
  count < policy.maxCount.toNat ∧ next.mergeable ∧ last.FollowedBy next ∧
    policy.Settled now next ∧ Size.add size next.size ≤ policy.maxSize

/-- The diffs that continue a run that ends in `last`, with `count` diffs and `size` bytes. -/
def extension (policy : MergePolicy) (now : Instant) (last : Diff) (count : Nat) (size : UInt64) :
    List Diff → List Diff
  | [] => []
  | next :: rest =>
    if policy.Extends now last count size next then
      next :: policy.extension now next (count + 1) (size + next.size) rest
    else []

/-- The range of the next merge in a listing, oldest diff first. A run starts at a mergeable diff
and is as long as it can be; one that stays alone is passed over. The first diff that is not settled
ends the search. -/
def scope (policy : MergePolicy) (now : Instant) : List Diff → Except ChainError (Option GidRange)
  | [] => .ok none
  | first :: rest =>
    if policy.Settled now first then
      if first.mergeable then
        match (policy.extension now first 1 first.size rest).getLast? with
        | some last => (GidRange.between first.origin.lower last.result.lower).map some
        | none => policy.scope now rest
      else policy.scope now rest
    else .ok none

end MergePolicy

end ArchiveUpkeep
