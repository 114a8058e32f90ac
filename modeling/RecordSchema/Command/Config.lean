import RecordSchema.Command.Error
import RecordSchema.Files.Basic
import RecordSchema.Json.Field
import RecordSchema.Log.Severity

namespace RecordSchema

/-!
# Configurations

A configuration names the paths of the definitions and says how much is logged.
Relative paths start at the directory of the configuration.
-/

open Json (Document Fields)

namespace Command

/-- The settings of a command; `directory` is where the configuration lies. -/
structure Config where
  definitions : List String
  logLevel : String := "info"
  ignoreExtra : Bool := false
  directory : String
  deriving Repr, DecidableEq

namespace Config

/-- The fields of a configuration in their declared order. -/
def fieldNames : List String :=
  ["definitions", "log_level", "ignore_extra"]

/-- The configuration that a document writes. -/
def ofDocument? (directory : String) (document : Document) : Option Config := do
  let fields : Fields ← document.fields? fieldNames
  let definitions ← fields.required? "definitions" (Document.toList? Document.toText?)
  let logLevel ← fields.withDefault? "log_level" "info" Document.toText?
  let ignoreExtra ← fields.withDefault? "ignore_extra" false Document.toBool?
  return { definitions, logLevel, ignoreExtra, directory }

/-- The least severity that is logged. -/
def severity? (config : Config) : Option Log.Severity :=
  Log.Severity.parse? config.logLevel

/-- Why a configuration cannot be used, if it cannot. -/
def defect? (config : Config) : Option Error :=
  if config.definitions.isEmpty then
    some (.config "definitions must name at least one path")
  else if config.severity?.isNone then
    some (.config (s!"Invalid log_level: '{config.logLevel}'. " ++
      "Must be one of trace, info, warn, error, fatal."))
  else
    none

/-- The configuration in a file. -/
def load (files : Files) (path : String) : Except Error Config :=
  match files.text path with
  | .error error => .error (.config ("Failed to read config: " ++ error.message))
  | .ok text =>
      match (Document.read? text).bind (ofDocument? (Path.parent path)) with
      | none => .error (.config "Invalid config JSON: the text does not write a configuration")
      | some config =>
          match config.defect? with
          | some error => .error error
          | none => .ok config

/-- The paths of the definitions, relative ones starting at the configuration. -/
def definitionPaths (config : Config) : List String :=
  config.definitions.map (Path.join config.directory)

end Config

end Command

end RecordSchema
