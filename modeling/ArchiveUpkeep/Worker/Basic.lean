import ArchiveUpkeep.Config.Basic
import ArchiveUpkeep.Server

/-! A worker looks after the volumes of one archive server, as its configuration says. The server
and the replication targets it addresses are read off the configuration. -/
namespace ArchiveUpkeep

/-- The version of this library. -/
def version : String := "0.1.0"

structure Worker where
  config : Config
  /-- The time between two ticks, in milliseconds. -/
  tickInterval : Nat := 10000

/-- A server to which volumes are replicated. -/
structure Target where
  name : String
  policy : ReplicationPolicy
deriving DecidableEq, Repr

def Target.server (target : Target) : Server :=
  { name := target.name, addr := target.policy.addr, port := target.policy.port }

namespace Worker

/-- The name under which the managed archive server goes. -/
def primaryName : String := "a0"

/-- The archive server that is managed. -/
def primary (worker : Worker) : Server :=
  { name := primaryName, addr := worker.config.general.addr, port := worker.config.general.port }

/-- The replication targets, in the order of their names. -/
def targets (worker : Worker) : List Target :=
  worker.config.targets.entries.map fun entry => { name := entry.1, policy := entry.2 }

/-- The most tasks that execute at the same time. -/
def capacity (worker : Worker) : Nat := worker.config.general.maxConcurrentTasks.toNat

@[simp] theorem name_primary (worker : Worker) : worker.primary.name = primaryName := rfl

theorem targets_sorted (worker : Worker) : worker.targets.Pairwise fun a b => a.name < b.name :=
  List.pairwise_map.2 worker.config.targets.sorted

end Worker

end ArchiveUpkeep
