import RecordSchema.Command.Arguments
import RecordSchema.Command.Config
import RecordSchema.Definition.Loading
import RecordSchema.Registry.Linking
import RecordSchema.Validation.Checking

namespace RecordSchema

/-!
# Running commands

Every command begins alike: the configuration is loaded, then the definitions, and
these are linked.  Standard output carries nothing but the answer, so all log
entries go to standard error.
-/

namespace Command

/-- An event and the settings that decide whether it is logged. -/
structure Logged where
  settings : Log.Settings
  event : Event

namespace Logged

/-- Events under the same settings. -/
def all (settings : Log.Settings) (events : List Event) : List Logged :=
  events.map fun event => ⟨settings, event⟩

end Logged

/-- What commands log before a configuration says how much. -/
def firstSettings : Log.Settings where
  minimum := .info
  standardErrorOnly := true

/-- What every command needs. -/
structure Boot where
  config : Config
  settings : Log.Settings
  registry : Registry

/-- What has been logged, and a result or an error. -/
structure Progress (α : Type u) where
  log : List Logged
  result : Except Error α

/-- The registry of the definitions that a configuration names. -/
def bootWith (files : Files) (config : Config) : Progress Boot :=
  let settings := { firstSettings with minimum := config.severity?.getD .info }
  let opening : List Logged :=
    [⟨firstSettings, .configLoaded config.definitions.length config.logLevel⟩]
  let loading := Loading.loadPaths files [] [] 0 config.definitionPaths
  let loaded := opening ++ Logged.all settings loading.events
  match loading.result with
  | .error error => ⟨loaded, .error (.ofDefinitionError error)⟩
  | .ok _ =>
      if loading.sets.isEmpty then
        ⟨loaded, .error (.config "definitions contain no definition files")⟩
      else
        let linking := Registry.compile loading.sets
        let linked := loaded ++ Logged.all settings linking.events
        match linking.result with
        | .error error => ⟨linked, .error (.ofDefinitionError error)⟩
        | .ok registry => ⟨linked, .ok ⟨config, settings, registry⟩⟩

/-- The configuration at a path and the registry of its definitions. -/
def boot (files : Files) (path : String) : Progress Boot :=
  match Config.load files path with
  | .error error => ⟨[], .error error⟩
  | .ok config => bootWith files config

/-- The value that a client has written to standard input. -/
def readInput (input : Except FileError String) : Except Error Json :=
  match input with
  | .error error => .error (.input error.message)
  | .ok text =>
      if (Text.trimChars text.toList).isEmpty then
        .error (.input "Empty input")
      else
        match Json.read? text with
        | none => .error (.input "JSON error: the text does not write a value")
        | some value => .ok value

/-- The answer to a request once everything is linked, and what is logged on the way. -/
def answer (draws : Draws) (boot : Boot) (request : Request)
    (input : Except FileError String) : Progress Json :=
  match request with
  | .check _ => ⟨[], .ok boot.registry.summary⟩
  | .describe _ className =>
      match boot.registry.describe? className with
      | none => ⟨[], .error (.unknownClass className)⟩
      | some description => ⟨[], .ok description⟩
  | .validate _ className update =>
      if !boot.registry.contains className then
        ⟨[], .error (.unknownClass className)⟩
      else
        match readInput input with
        | .error error => ⟨[], .error error⟩
        | .ok value =>
            let options : Validation.Options :=
              { mode := if update then .update else .create
                ignoreExtra := boot.config.ignoreExtra }
            let result := Validation.validate boot.registry draws options className value
            let log := Logged.all boot.settings (Validation.events result)
            match result with
            | .error rejection => ⟨log, .error (.rejected rejection)⟩
            | .ok record => ⟨log, .ok record.toJson⟩

/-- A request carried out from beginning to end. -/
def run (files : Files) (draws : Draws) (request : Request) (input : Except FileError String) :
    Progress Json :=
  let booted := boot files request.config
  match booted.result with
  | .error error => ⟨booted.log, .error error⟩
  | .ok ready =>
      let answered := answer draws ready request input
      ⟨booted.log ++ answered.log, answered.result⟩

/-- Whether carrying out a request reaches standard input. -/
def readsInput (files : Files) (request : Request) : Bool :=
  match request, (boot files request.config).result with
  | .validate _ className _, .ok ready => ready.registry.contains className
  | _, _ => false

/-- The value written to standard output. -/
def response : Except Error Json → Json
  | .ok data => .ofMembers [("status", .string "ok"), ("data", data)]
  | .error error => error.toJson

/-- The code that the program exits with. -/
def exitCode : Except Error Json → UInt8
  | .ok _ => 0
  | .error _ => 1

end Command

end RecordSchema
