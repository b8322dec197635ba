/-! Paths as texts whose parts are separated by slashes. Nothing is normalised, so a path reads back
as it was written. -/
namespace ArchiveUpkeep.Path

/-- A path that ends in a slash can only name a directory. -/
def endsInSlash (path : String) : Bool := path.toList.getLast? = some '/'

/-- A path below another one. A slash is put between them unless the first one ends in it. -/
def join (parent child : String) : String :=
  if endsInSlash parent then parent ++ child else parent ++ "/" ++ child

/-- The steps of a path, which are its parts that are not empty. A single dot is a step as well: it
stays in its directory, which has to be there. -/
def steps (path : String) : List String :=
  ((path.toList.splitOn '/').map String.ofList).filter (· ≠ "")

/-- The directory of everything the worker keeps for a user. -/
def configDirectory (home : String) : String := join home ".walb"

/-- The configuration that is loaded unless another one is named. -/
def configFile (home : String) : String := join (configDirectory home) "worker.ini"

/-- The directory of the log files. -/
def logDirectory (home : String) : String := join (configDirectory home) "logs"

end ArchiveUpkeep.Path
