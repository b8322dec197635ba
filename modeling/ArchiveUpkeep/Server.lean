/-! The servers of a deployment, as the worker addresses them. -/
namespace ArchiveUpkeep

inductive ServerRole where
  /-- Hosts the primary write-logged device. -/
  | storage
  /-- Relays the writes of a host toward archives. -/
  | proxy
  /-- Holds base images and diffs. -/
  | archive
deriving DecidableEq, Repr

instance : ToString ServerRole where
  toString
    | .storage => "storage"
    | .proxy => "proxy"
    | .archive => "archive"

/-- The identity of one server process. -/
structure Server where
  name : String
  addr : String
  port : UInt16
  role : ServerRole := .archive
  /-- The volume group behind the base images of an archive. -/
  volumeGroup : Option String := none
deriving DecidableEq, Repr

instance : ToString Server where
  toString server := s!"{server.name}({server.addr}:{server.port})"

end ArchiveUpkeep
