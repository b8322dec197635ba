/-! The severities of log events. -/
namespace ArchiveUpkeep

inductive Level where
  | error
  | warn
  | info
  | debug
  | trace
deriving DecidableEq, Repr

namespace Level

/-- How much is said at a level: a level includes all levels of smaller verbosity. -/
def verbosity : Level → Nat
  | error => 1
  | warn => 2
  | info => 3
  | debug => 4
  | trace => 5

/-- The name by which a level is chosen. -/
def name : Level → String
  | error => "error"
  | warn => "warn"
  | info => "info"
  | debug => "debug"
  | trace => "trace"

/-- The mark that an event of this level carries. -/
def label : Level → String
  | error => "ERROR"
  | warn => "WARN"
  | info => "INFO"
  | debug => "DEBUG"
  | trace => "TRACE"

def all : List Level := [error, warn, info, debug, trace]

/-- The level of a name. -/
def ofName? (text : String) : Option Level := all.find? (·.name = text)

end Level

end ArchiveUpkeep
