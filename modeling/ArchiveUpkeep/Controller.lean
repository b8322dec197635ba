import ArchiveUpkeep.Chain.Diff
import ArchiveUpkeep.Chain.GidRange
import ArchiveUpkeep.Chain.MetaState
import ArchiveUpkeep.Server

/-! The command layer between the worker and the servers. What the worker wants to know is a query,
and a controller answers every query or says why it cannot. Queries have no effect, so for unchanged
servers a controller is one function of the query. -/
namespace ArchiveUpkeep

/-- Why the command layer could not answer or carry out a command. -/
inductive ControllerError where
  /-- The server answered with an error. -/
  | remote (operation server message : String)
  /-- The server could not be reached. -/
  | unavailable (server : String)
deriving DecidableEq, Repr

namespace ControllerError

def message : ControllerError → String
  | remote operation server text => s!"{operation} failed on {server}: {text}"
  | unavailable server => s!"server {server} unavailable"

instance : ToString ControllerError := ⟨message⟩

end ControllerError

/-- Which restore points a listing reports. -/
inductive RestorableScope where
  /-- Only the explicitly marked ones. -/
  | narrow
  /-- Every generation that can be restored. -/
  | all
deriving DecidableEq, Repr

instance : Inhabited RestorableScope := ⟨.narrow⟩

instance : ToString RestorableScope where
  toString
    | .narrow => "narrow"
    | .all => "all"

/-- What the worker asks of the command layer. -/
inductive Query where
  /-- The volumes known to a server. -/
  | volumes (server : Server)
  /-- The state word of a volume. -/
  | state (server : Server) (volume : String)
  /-- The apply progress of a volume. -/
  | base (archive : Server) (volume : String)
  /-- The number of diffs inside a range. -/
  | diffCount (archive : Server) (volume : String) (range : GidRange)
  /-- The stored bytes of the diffs inside a range. -/
  | diffSize (archive : Server) (volume : String) (range : GidRange)
  /-- The diffs that can be applied up to an id, oldest first. -/
  | applicableDiffs (archive : Server) (volume : String) (gid : Gid)
  /-- The restore points of a volume, oldest first. -/
  | restorable (archive : Server) (volume : String) (scope : RestorableScope)
deriving DecidableEq

namespace Query

/-- The type of the answer to a query. -/
abbrev Answer : Query → Type
  | volumes .. => List String
  | state .. => String
  | base .. => MetaState
  | diffCount .. => UInt64
  | diffSize .. => UInt64
  | applicableDiffs .. => List Diff
  | restorable .. => List RestorePoint

/-- The server a query is addressed to. -/
def server : Query → Server
  | volumes server | state server _ | base server _ | diffCount server _ _ | diffSize server _ _
  | applicableDiffs server _ _ | restorable server _ _ => server

/-- The volume a query is about, if it is about one. -/
def volume? : Query → Option String
  | volumes _ => none
  | state _ volume | base _ volume | diffCount _ volume _ | diffSize _ volume _
  | applicableDiffs _ volume _ | restorable _ volume _ => some volume

/-- The name by which the command layer knows the query. -/
def operation : Query → String
  | volumes .. => "get_vol_list"
  | state .. => "get_state"
  | base .. => "get_base"
  | diffCount .. => "get_num_diff"
  | diffSize .. => "get_total_diff_size"
  | applicableDiffs .. => "get_applicable_diff_list"
  | restorable .. => "get_restorable"

/-- A query with what it asks for, on one line. -/
instance : ToString Query where
  toString query :=
    let addressed := s!"{query.operation} {query.server.name}"
    match query with
    | .volumes _ => addressed
    | .state _ volume | .base _ volume => s!"{addressed} {volume}"
    | .diffCount _ volume range | .diffSize _ volume range =>
      s!"{addressed} {volume} [{range.start},{range.stop})"
    | .applicableDiffs _ volume gid => s!"{addressed} {volume} {gid}"
    | .restorable _ volume scope => s!"{addressed} {volume} {scope}"

end Query

/-- The answers of the command layer. -/
structure Controller where
  answer : (query : Query) → Except ControllerError query.Answer

/-- The state word of a volume that accepts background work. -/
def archivedState : String := "Archived"

end ArchiveUpkeep
