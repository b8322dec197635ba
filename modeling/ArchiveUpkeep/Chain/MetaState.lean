import ArchiveUpkeep.Chain.Snapshot

/-! The progress of a volume at an archive: the base image that is committed and, while diffs are
being folded into it or after that was interrupted, the snapshot it is moving toward. -/
namespace ArchiveUpkeep

/-- A base and possibly an apply in flight, which leads away from the base and never starts before
it. -/
structure MetaState where
  base : Snapshot
  applying : Option Snapshot := none
  applying_beyond : ∀ target ∈ applying, base.lower ≤ target.lower ∧ target ≠ base := by simp
deriving DecidableEq

namespace MetaState

/-- The state with an apply in flight from `base` toward `target`. A target that starts before the
base is refused first, and then a target that is the base. -/
def toward (base target : Snapshot) : Except ChainError MetaState :=
  if ordered : base.lower ≤ target.lower then
    if distinct : target ≠ base then
      .ok { base, applying := some target, applying_beyond := by simp [ordered, distinct] }
    else .error (.applyingIsBase base)
  else .error (.applyingBeforeBase base target)

instance : Inhabited MetaState := ⟨{ base := default }⟩

def isApplying (state : MetaState) : Bool := state.applying.isSome

instance : ToString MetaState where
  toString state :=
    match state.applying with
    | some target => s!"<{state.base}-->{target}>"
    | none => s!"<{state.base}>"

end MetaState

end ArchiveUpkeep
