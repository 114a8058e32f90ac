import RecordSchema.Validation.Failure

namespace RecordSchema

/-!
# Errors of commands
-/

namespace Command

/-- Why a command gives no answer. -/
inductive Error where
  | config (reason : String)
  | input (reason : String)
  | compile (reason : String)
  | unknownClass (className : String)
  | rejected (rejection : Rejection)

namespace Error

/-- The stable code of an error. -/
def code : Error → String
  | .config _ => "META_CLI_CONFIG_ERROR"
  | .input _ => "META_CLI_IO_ERROR"
  | .compile _ => "META_CLI_COMPILE_FAILED"
  | .unknownClass _ => "META_CLI_UNKNOWN_CLASS"
  | .rejected _ => "META_CLI_VALIDATION_FAILED"

/-- The wording of an error. -/
def message : Error → String
  | .config reason => reason
  | .input reason => reason
  | .compile reason => reason
  | .unknownClass className => s!"Unknown class '{className}'"
  | .rejected rejection => rejection.summary

/-- The failures of a rejected record. -/
def failures? : Error → Option Json
  | .rejected rejection => some (.array (rejection.failures.map Failure.describe))
  | _ => none

/-- The error of a command whose definitions have a defect. -/
def ofDefinitionError (error : DefinitionError) : Error :=
  .compile s!"[{error.severity.name}] {error.code}: {error.message}"

/-- The text of an error with its code. -/
def text (error : Error) : String :=
  s!"{error.code}: {error.message}"

/-- The value that answers a client with an error. -/
def toJson (error : Error) : Json :=
  .ofMembers
    ([("status", .string "error"), ("code", .string error.code),
      ("message", .string error.message)] ++
    Json.optionalMember "failures" error.failures?)

end Error

end Command

end RecordSchema
