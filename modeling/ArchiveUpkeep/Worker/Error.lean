import ArchiveUpkeep.Controller
import ArchiveUpkeep.Task

/-! What can go wrong for one volume or one task. Neither ends a tick: the volume is passed over
until the next tick, and the task is proposed again if it is still needed. -/
namespace ArchiveUpkeep

/-- Why no proposals could be made for a volume. -/
inductive SelectionError where
  /-- The command layer did not answer a query about the volume. -/
  | query (volume : String) (cause : ControllerError)
  /-- The ids reported for the volume cannot be right. -/
  | inconsistent (volume : String) (cause : ChainError)
deriving DecidableEq, Repr

namespace SelectionError

def volume : SelectionError → String
  | query volume _ | inconsistent volume _ => volume

def message : SelectionError → String
  | query volume cause => s!"query for volume {volume} failed: {cause}"
  | inconsistent volume cause => s!"inconsistent meta state for volume {volume}: {cause}"

instance : ToString SelectionError := ⟨message⟩

end SelectionError

/-- The failure of a task that was started. -/
structure ExecutionError where
  task : Task
  cause : ControllerError
deriving DecidableEq, Repr

namespace ExecutionError

def message (error : ExecutionError) : String := s!"task {error.task} failed: {error.cause}"

instance : ToString ExecutionError := ⟨message⟩

end ExecutionError

end ArchiveUpkeep
