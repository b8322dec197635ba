import ArchiveUpkeep.Config.Targets
import ArchiveUpkeep.Policy.Apply
import ArchiveUpkeep.Policy.Merge

/-! The complete policy of a worker. A configuration exists only once every part of it has been read
and found valid, so a worker never runs on half of one. -/
namespace ArchiveUpkeep

/-- Which archive server is managed, and how. -/
structure General where
  addr : String
  port : UInt16
  /-- The program that the command layer runs. -/
  controllerPath : String := "walbc"
  /-- The most tasks that execute at the same time, over all volumes. -/
  maxConcurrentTasks : UInt64 := 2
deriving DecidableEq, Repr

structure Config where
  general : General
  apply : ApplyPolicy := {}
  merge : MergePolicy := {}
  targets : Targets := {}
deriving DecidableEq

end ArchiveUpkeep
