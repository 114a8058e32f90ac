namespace RecordSchema

/-!
# Command-line arguments

The first argument names a command.  Options follow as `--name value` or
`--name=value`, each at most once.  The value of an option is taken into account
when the next option begins or the arguments end; until then it may be missing.
-/

namespace Command

/-- Where the configuration is looked for unless an option says otherwise. -/
def defaultConfigPath : String :=
  "./metamodel.json"

/-- What a user asks for. -/
inductive Request where
  | check (config : String)
  | describe (config className : String)
  | validate (config className : String) (update : Bool)
  deriving Repr, DecidableEq

/-- The path of the configuration that a request names. -/
def Request.config : Request → String
  | .check config => config
  | .describe config _ => config
  | .validate config _ _ => config

/-- Why arguments make no request. -/
inductive UsageError where
  | help
  | version
  | missingCommand
  | invalidCommand
  | unknownArgument
  | invalidValue
  | unexpectedValue
  | repeatedOption
  | missingOption
  deriving Repr, DecidableEq

namespace UsageError

/-- Asking for help or for the version is no error. -/
def exitCode : UsageError → UInt8
  | .help => 0
  | .version => 0
  | _ => 2

end UsageError

/-- The commands by name. -/
inductive Verb where
  | check
  | describe
  | validate
  deriving Repr, DecidableEq

/-- The command of a name. -/
def Verb.ofName? : String → Option Verb
  | "check" => some .check
  | "describe" => some .describe
  | "validate" => some .validate
  | _ => none

/-- The options that take a value. -/
inductive ValueOption where
  | config
  | className
  deriving Repr, DecidableEq

/-- The option of a name, as far as a command has it. -/
def Verb.valueOption? (verb : Verb) (name : String) : Option ValueOption :=
  if name = "config" then
    some .config
  else if name = "class" && verb != .check then
    some .className
  else
    none

/-- Whether a command has a flag of a name. -/
def Verb.hasFlag (verb : Verb) (name : String) : Bool :=
  verb == .validate && name == "update"

/-- The options read so far; the last one may still lack its value or await its turn. -/
structure Options where
  config : Option String := none
  className : Option String := none
  update : Bool := false
  pending : Option (ValueOption × Option String) := none
  deriving Repr, DecidableEq

namespace Options

/-- An option with its value, which may be given once; the path of a file is not empty. -/
def store (options : Options) (option : ValueOption) (value : String) :
    Except UsageError Options :=
  match option with
  | .config =>
      if options.config.isSome then .error .repeatedOption
      else if value.isEmpty then .error .invalidValue
      else .ok { options with config := some value }
  | .className =>
      if options.className.isSome then .error .repeatedOption
      else .ok { options with className := some value }

/-- The options with the last one taken into account. -/
def settle (options : Options) : Except UsageError Options :=
  match options.pending with
  | none => .ok options
  | some (_, none) => .error .invalidValue
  | some (option, some value) => { options with pending := none }.store option value

/-- A flag, which may be given once. -/
def setUpdate (options : Options) : Except UsageError Options := do
  let settled ← options.settle
  if settled.update then .error .repeatedOption else .ok { settled with update := true }

/-- The options with a value for the one that lacks it; elsewhere a value has no place. -/
def addValue (options : Options) (value : String) : Except UsageError Options :=
  match options.pending with
  | some (option, none) => .ok { options with pending := some (option, some value) }
  | _ => .error .unknownArgument

end Options

/-- The name and the value of an option behind its two dashes. -/
def splitOption (text : List Char) : String × Option String :=
  (String.ofList (text.takeWhile (· != '=')),
    match text.dropWhile (· != '=') with
    | [] => none
    | _ :: value => some (String.ofList value))

/-- The options after an option with two dashes. -/
def longOption (verb : Verb) (options : Options) (name : String) (value : Option String) :
    Except UsageError Options :=
  match verb.valueOption? name, value with
  | some option, some text => do (← options.settle).store option text
  | some option, none => do
      let settled ← options.settle
      return { settled with pending := some (option, none) }
  | none, some _ =>
      if name = "help" || verb.hasFlag name then .error .unexpectedValue
      else .error .unknownArgument
  | none, none =>
      if verb.hasFlag name then options.setUpdate
      else if name = "help" then do
        let _ ← options.settle
        .error .help
      else .error .unknownArgument

/-- The options of a command; behind two dashes alone nothing may follow. -/
def readOptions (verb : Verb) (options : Options) : List String → Except UsageError Options
  | [] => options.settle
  | argument :: rest =>
      match argument.toList with
      | ['-', '-'] =>
          if rest.isEmpty then options.settle else .error .unknownArgument
      | '-' :: '-' :: text => do
          let (name, value) := splitOption text
          readOptions verb (← longOption verb options name value) rest
      | '-' :: 'h' :: _ => do
          let _ ← options.settle
          .error .help
      | '-' :: _ :: _ => .error .unknownArgument
      | _ => do readOptions verb (← options.addValue argument) rest

/-- The request of a command with its options. -/
def Verb.request (verb : Verb) (options : Options) : Except UsageError Request :=
  let config := options.config.getD defaultConfigPath
  match verb, options.className with
  | .check, _ => .ok (.check config)
  | _, none => .error .missingOption
  | .describe, some className => .ok (.describe config className)
  | .validate, some className => .ok (.validate config className options.update)

/-- Help is given on the program and on each command. -/
def helpOn (topics : List String) : UsageError :=
  match topics with
  | [] => .help
  | [topic] => if topic = "help" || (Verb.ofName? topic).isSome then .help else .invalidCommand
  | _ => .invalidCommand

/-- Why arguments that begin with no command make no request. -/
def withoutCommand (argument : String) (rest : List String) : UsageError :=
  match argument.toList with
  | ['-', '-'] =>
      match rest with
      | [] => .missingCommand
      | next :: _ =>
          if next = "help" || (Verb.ofName? next).isSome then .unknownArgument else .invalidCommand
  | '-' :: '-' :: text =>
      match splitOption text with
      | ("help", none) => .help
      | ("version", none) => .version
      | (name, some _) =>
          if name = "help" || name = "version" then .unexpectedValue else .unknownArgument
      | _ => .unknownArgument
  | '-' :: 'h' :: _ => .help
  | '-' :: 'V' :: _ => .version
  | '-' :: _ :: _ => .unknownArgument
  | _ => .invalidCommand

/-- The request that arguments make. -/
def Request.ofArguments : List String → Except UsageError Request
  | [] => .error .missingCommand
  | argument :: rest =>
      match Verb.ofName? argument with
      | some verb => do verb.request (← readOptions verb {} rest)
      | none =>
          if argument = "help" then .error (helpOn rest)
          else .error (withoutCommand argument rest)

end Command

end RecordSchema
