import ArchiveUpkeep.Logging.Level

/-! The filter says which events are logged: those up to a level, or none at all. It is chosen by
the environment and falls back to a default if nothing valid is chosen. -/
namespace ArchiveUpkeep

inductive Filter where
  | off
  | upTo (level : Level)
deriving DecidableEq, Repr

namespace Filter

def name : Filter → String
  | off => "off"
  | upTo level => level.name

/-- The filter of a name. -/
def ofName? (text : String) : Option Filter :=
  if text = "off" then some off else (Level.ofName? text).map upTo

/-- The filter unless another one is chosen. -/
def standard : Filter := upTo .info

/-- The filter for a setting of the environment, which may be unset. -/
def ofSetting (setting : Option String) : Filter := (setting.bind ofName?).getD standard

def admits : Filter → Level → Bool
  | off, _ => false
  | upTo most, level => level.verbosity ≤ most.verbosity

end Filter

end ArchiveUpkeep
