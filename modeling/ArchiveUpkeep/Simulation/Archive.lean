import ArchiveUpkeep.Controller
import ArchiveUpkeep.Worker.Basic

/-! Servers held in memory, to try a worker on. They answer every query from what is said about
their volumes, and fail where they are told to. -/
namespace ArchiveUpkeep.Simulation

/-- How a query fails: with a message of the server, or because the server is out of reach. -/
abbrev Failure := Option String

/-- The error of a query that fails. -/
def Failure.error (failure : Failure) (query : Query) : ControllerError :=
  match failure with
  | some text => .remote query.operation query.server.name text
  | none => .unavailable query.server.name

structure Volume where
  name : String
  state : String := archivedState
  progress : MetaState := default
  diffs : List Diff := []
  /-- What is answered for the number of diffs, whatever the diffs are. -/
  reportedCount : Option UInt64 := none
  /-- What is answered for the bytes of diffs, whatever the diffs are. -/
  reportedSize : Option UInt64 := none
  /-- The restore points that are explicitly marked. -/
  marked : List RestorePoint := []
  /-- All restore points, if they differ from the marked ones. -/
  restorable : Option (List RestorePoint) := none
  /-- The restore points at other servers, by the name of the server. -/
  replicated : List (String × List RestorePoint) := []
  /-- The failures of queries, by the key of the query. -/
  failures : List (String × Failure) := []

namespace Volume

/-- The diffs that start inside a range. -/
def inside (volume : Volume) (range : GidRange) : List Diff :=
  volume.diffs.filter (·.origin.lower ∈ range)

def diffCount (volume : Volume) (range : GidRange) : UInt64 :=
  volume.reportedCount.getD (volume.inside range).length.toUInt64

/-- The bytes of the diffs that start inside a range, or the greatest number there is. -/
def diffSize (volume : Volume) (range : GidRange) : UInt64 :=
  volume.reportedSize.getD (((volume.inside range).map Diff.size).foldl Size.add 0)

/-- The restore points at a server. -/
def pointsAt (volume : Volume) (server : Server) (scope : RestorableScope) : List RestorePoint :=
  if server.name = Worker.primaryName then
    match scope with
    | .narrow => volume.marked
    | .all => volume.restorable.getD volume.marked
  else (volume.replicated.lookup server.name).getD []

/-- The key under which a failure of a query is set. Restore points are listed by several servers
and in two scopes, which can fail one by one. -/
def failureKey : Query → String
  | .restorable server volume scope =>
    s!"{(Query.restorable server volume scope).operation} {server.name} {scope}"
  | query => query.operation

end Volume

structure Archive where
  volumes : List Volume := []
  /-- The listing that is answered, whatever the volumes are. -/
  listing : Option (List String) := none
  /-- The failure of the listing. -/
  listingFailure : Option Failure := none

namespace Archive

def find? (archive : Archive) (name : String) : Option Volume :=
  archive.volumes.find? (·.name = name)

/-- Asks a volume that has to be there, and may be told to fail. -/
def consult {α : Type} (archive : Archive) (query : Query) (name : String) (read : Volume → α) :
    Except ControllerError α :=
  match archive.find? name with
  | none => .error (.remote query.operation query.server.name s!"no volume {name}")
  | some volume =>
    match volume.failures.lookup (Volume.failureKey query) with
    | some failure => .error (failure.error query)
    | none => .ok (read volume)

def controller (archive : Archive) : Controller where
  answer
    | .volumes server =>
      match archive.listingFailure with
      | some failure => .error (failure.error (.volumes server))
      | none => .ok (archive.listing.getD (archive.volumes.map Volume.name))
    | .state server name => archive.consult (.state server name) name Volume.state
    | .base server name => archive.consult (.base server name) name Volume.progress
    | .diffCount server name range =>
      archive.consult (.diffCount server name range) name (·.diffCount range)
    | .diffSize server name range =>
      archive.consult (.diffSize server name range) name (·.diffSize range)
    | .applicableDiffs server name gid =>
      archive.consult (.applicableDiffs server name gid) name fun volume =>
        volume.diffs.filter (·.result.lower ≤ gid)
    | .restorable server name scope =>
      archive.consult (.restorable server name scope) name (·.pointsAt server scope)

/-- Puts a volume in the place of the one of its name, or behind all others. -/
def setVolume (archive : Archive) (volume : Volume) : Archive :=
  match archive.volumes.findIdx? (·.name = volume.name) with
  | some index => { archive with volumes := archive.volumes.set index volume }
  | none => { archive with volumes := archive.volumes ++ [volume] }

def removeVolume (archive : Archive) (name : String) : Archive :=
  { archive with volumes := archive.volumes.filter (·.name ≠ name) }

end Archive

end ArchiveUpkeep.Simulation
