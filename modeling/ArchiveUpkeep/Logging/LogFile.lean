import ArchiveUpkeep.Files.Path
import ArchiveUpkeep.Files.Tree
import ArchiveUpkeep.Logging.Filter

/-! The log file. It is prepared before anything is logged, so that a log that cannot be written is
an error from the start, and it is appended to, so that what earlier runs logged stays. -/
namespace ArchiveUpkeep

/-- An event as the log takes it: what happened, how severe it is, and which part reports it. -/
structure Record where
  level : Level
  reporter : String
  message : String
deriving DecidableEq, Repr

def Record.line (record : Record) : String :=
  s!"{record.level.label} {record.reporter}: {record.message}"

structure LogFile where
  filter : Filter
  /-- What the file held when it was opened. -/
  previous : String
  /-- What has been logged since. -/
  appended : List Record := []

namespace LogFile

/-- The name of the log file unless another one is given. -/
def standardName : String := "walb-worker.log"

/-- Opens a log file in a directory, which is made if it is missing. -/
def openIn (tree : FileTree) (directory name : String) (filter : Filter) :
    Except PathFault (LogFile × FileTree) := do
  let tree ← tree.ensureDirectories (Path.steps directory)
  let (previous, tree) ← tree.openForAppend (Path.join directory name)
  return ({ filter, previous }, tree)

/-- Logs an event if the filter admits it. -/
def log (file : LogFile) (record : Record) : LogFile :=
  if file.filter.admits record.level then { file with appended := file.appended ++ [record] }
  else file

/-- The content of the file. -/
def content (file : LogFile) : String :=
  file.appended.foldl (fun text record => text ++ record.line ++ "\n") file.previous

end LogFile

end ArchiveUpkeep
