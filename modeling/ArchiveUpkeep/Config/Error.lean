import ArchiveUpkeep.Measure.Basic

/-! Why there is no configuration. All of these are fatal. -/
namespace ArchiveUpkeep

/-- What is wrong with a value. -/
inductive ValueFault where
  | blank
  | port
  | positive
  | natural
  /-- A merge of fewer than two diffs. -/
  | lone
  | measure (cause : MeasureError)
deriving DecidableEq, Repr

def ValueFault.message : ValueFault → String
  | blank => "must not be empty"
  | port => "must be an integer in 0-65535"
  | positive => "must be a positive integer"
  | natural => "must be a non-negative integer"
  | lone => "a merge needs at least 2 diffs"
  | measure cause => cause.message

inductive ConfigError where
  /-- A file cannot be read as a document, as its loader says. -/
  | unreadable (cause : String)
  /-- A text cannot be read as a document, as its loader says. -/
  | malformed (cause : String)
  | invalidValue (sectionName key value : String) (fault : ValueFault)
  | missingKey (sectionName key : String)
  | unknownKey (sectionName key : String)
  | unknownSection (name : String)
deriving DecidableEq, Repr

namespace ConfigError

def message : ConfigError → String
  | unreadable cause => "Failed to read config file: " ++ cause
  | malformed cause => "Failed to parse config document: " ++ cause
  | invalidValue sectionName key value fault =>
    s!"Invalid configuration: {sectionName}.{key} = '{value}' - {fault.message}"
  | missingKey sectionName key => s!"Missing configuration key: {sectionName}.{key}"
  | unknownKey sectionName key => s!"Unknown configuration key: {sectionName}.{key}"
  | unknownSection name => s!"Unknown configuration section: [{name}]"

instance : ToString ConfigError := ⟨message⟩

end ConfigError

end ArchiveUpkeep
