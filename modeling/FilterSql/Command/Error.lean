import FilterSql.Files
import FilterSql.Filter.Error
import FilterSql.Mapping

/-! What keeps a command from being carried out. -/

namespace FilterSql

/-- Faults of the settings file, and of rules given with a command. -/
inductive SettingsError
  | noDirectory
  | unreadable
  | malformed
  | alreadyThere (path : String)
  | unwritable (cause : WriteError)
  | invalidRule (rule : String)
  deriving DecidableEq, Repr

namespace SettingsError

def message : SettingsError → String
  | noDirectory => "Could not determine config directory"
  | unreadable => "Failed to read config: not a readable file"
  | malformed => "Failed to parse config: not a valid settings document"
  | alreadyThere path => "Config file already exists at " ++ path ++ ". Use --force to overwrite"
  | unwritable .noDirectory => "Failed to create config directory: a file is in the way"
  | unwritable .notWritable => "Failed to write config: not a writable file"
  | invalidRule rule => "Invalid mapping '" ++ rule ++ "'. Expected PATTERN=COLUMN"

end SettingsError

inductive CommandError
  | filter (cause : FilterError)
  | mapping (cause : InvalidPattern)
  | settings (cause : SettingsError)
  deriving DecidableEq, Repr

namespace CommandError

def message : CommandError → String
  | filter cause => "filter error: " ++ cause.message
  | mapping cause => "mapping error: " ++ cause.message
  | settings cause => "configuration error: " ++ cause.message

def code : CommandError → String
  | filter _ => "FILTER_ERROR"
  | mapping _ => "MAPPING_ERROR"
  | settings _ => "CONFIG_ERROR"

def exitCode : CommandError → Nat
  | filter _ => 1
  | mapping _ | settings _ => 5

end CommandError

end FilterSql
