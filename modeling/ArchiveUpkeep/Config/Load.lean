import ArchiveUpkeep.Config.OfDocument
import ArchiveUpkeep.Ini.StandardLoader

/-! Configurations come from a text in memory or from a file, by way of the document that a loader
makes of it. What the loader cannot load is a fault of the text or of the file, in its own words. -/
namespace ArchiveUpkeep.Config

/-- Loads a configuration from a text. -/
def ofText (text : String) (loader : Ini.Loader := .standard) : Except ConfigError Config :=
  match loader.loadText text with
  | .ok document => ofDocument document
  | .error cause => .error (.malformed (loader.textMessage cause))

/-- Loads a configuration from a file. -/
def ofFile (file : ConfigFile) (loader : Ini.Loader := .standard) : Except ConfigError Config :=
  match loader.loadFile file with
  | .ok document => ofDocument document
  | .error cause => .error (.unreadable (loader.fileMessage cause))

end ArchiveUpkeep.Config
