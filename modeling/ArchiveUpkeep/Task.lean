import ArchiveUpkeep.Chain.Snapshot
import ArchiveUpkeep.Measure.Compression
import ArchiveUpkeep.Server

/-! A task is an intent: which action to run, for which volume and on which server. It holds no
state of its execution, so two tasks with the same content are the same task. -/
namespace ArchiveUpkeep

/-- The kinds of tasks, in the order in which they are served. -/
inductive TaskKind where
  | apply
  | merge
  | replicate
  | cleanup
  | backup
deriving DecidableEq, Repr

namespace TaskKind

/-- The place of a kind in the order of service. -/
def rank : TaskKind → Nat
  | apply => 0
  | merge => 1
  | replicate => 2
  | cleanup => 3
  | backup => 4

instance : LE TaskKind := ⟨fun k l => k.rank ≤ l.rank⟩

instance (k l : TaskKind) : Decidable (k ≤ l) := inferInstanceAs (Decidable (k.rank ≤ l.rank))

def name : TaskKind → String
  | apply => "apply"
  | merge => "merge"
  | replicate => "replicate"
  | cleanup => "cleanup"
  | backup => "backup"

instance : ToString TaskKind := ⟨name⟩

end TaskKind

/-- What a task does, with the arguments of its kind. -/
inductive Action where
  /-- Folds the diffs up to `gid` into the base image. -/
  | apply (gid : Gid)
  /-- Merges the diffs that cover the ids from `start` up to `stop`. -/
  | merge (start stop : Gid) (maxSize : UInt64)
  /-- Ships the diff chain to the replication target called `target`. -/
  | replicate (target : String) (destination : Server) (compression : Compression)
      (bulkSize maxMergeSize : UInt64)
  /-- Deletes the diffs that end at or before `gid`. -/
  | cleanup (gid : Gid)
  /-- Backs the volume up at a storage server, in full or by comparing hashes. -/
  | backup (full : Bool)
deriving DecidableEq, Repr

def Action.kind : Action → TaskKind
  | apply .. => .apply
  | merge .. => .merge
  | replicate .. => .replicate
  | cleanup .. => .cleanup
  | backup .. => .backup

instance : ToString Action where
  toString
    | .apply gid => s!"gid={gid}"
    | .merge start stop maxSize => s!"[{start}, {stop}) max_size={maxSize}"
    | .replicate target _ compression _ _ => s!"-> {target} compress={compression}"
    | .cleanup gid => s!"gid={gid}"
    | .backup full => if full then "full" else "hash"

structure Task where
  volume : String
  /-- The server the command is addressed to. -/
  server : Server
  action : Action
deriving DecidableEq, Repr

namespace Task

def kind (task : Task) : TaskKind := task.action.kind

instance : ToString Task where
  toString task := s!"{task.kind} {task.volume}@{task.server.name} {task.action}"

end Task

end ArchiveUpkeep
