import RecordSchema.DefinitionError
import RecordSchema.Json.Object
import RecordSchema.RecordId

namespace RecordSchema

/-!
# What is wrong with a record

A failure names one place of a record, the value found there and the cause.  All
failures of a record are reported together.
-/

/-- Why a value is refused. -/
inductive FailureKind where
  | cast (error : CastError)
  | missingRequired
  | nullNotAllowed
  | empty
  | notInChoices
  | patternMismatch (source : String)
  | belowMinimum (bound : Int64)
  | aboveMaximum (bound : Int64)
  | tooFewItems (bound : UInt64)
  | readOnly
  | unexpectedAttribute
  | unknownClass
  | abstractClass
  | embeddedClass
  | defaultFailed (reason : String)
  | nestedTooDeep
  deriving Repr, DecidableEq

namespace FailureKind

/-- The stable code of a cause. -/
def code : FailureKind → String
  | .cast _ => "META_ATTRIBUTE_CAST"
  | .missingRequired => "META_ATTRIBUTE_MISSING_REQUIRED"
  | .nullNotAllowed => "META_ATTRIBUTE_NULL"
  | .empty => "META_ATTRIBUTE_EMPTY"
  | .notInChoices => "META_ATTRIBUTE_NOT_IN_CHOICES"
  | .patternMismatch _ => "META_ATTRIBUTE_PATTERN"
  | .belowMinimum _ => "META_ATTRIBUTE_BELOW_MINIMUM"
  | .aboveMaximum _ => "META_ATTRIBUTE_ABOVE_MAXIMUM"
  | .tooFewItems _ => "META_ATTRIBUTE_TOO_FEW_ITEMS"
  | .readOnly => "META_ATTRIBUTE_READ_ONLY"
  | .unexpectedAttribute => "META_ATTRIBUTE_UNEXPECTED"
  | .unknownClass => "META_ATTRIBUTE_UNKNOWN_CLASS"
  | .abstractClass => "META_ATTRIBUTE_ABSTRACT_CLASS"
  | .embeddedClass => "META_ATTRIBUTE_EMBEDDED_CLASS"
  | .defaultFailed _ => "META_ATTRIBUTE_DEFAULT_FAILED"
  | .nestedTooDeep => "META_ATTRIBUTE_TOO_DEEP"

/-- The wording of a cause. -/
def message : FailureKind → String
  | .cast error => error.message
  | .missingRequired => "missing required value"
  | .nullNotAllowed => "null is not allowed"
  | .empty => "must not be empty"
  | .notInChoices => "not one of the allowed choices"
  | .patternMismatch source => s!"does not match pattern {source}"
  | .belowMinimum bound => s!"below minimum {bound}"
  | .aboveMaximum bound => s!"above maximum {bound}"
  | .tooFewItems bound => s!"fewer than {bound} items"
  | .readOnly => "read-only property cannot be changed"
  | .unexpectedAttribute => "unexpected attribute"
  | .unknownClass => "unknown class"
  | .abstractClass => "abstract class cannot be instantiated"
  | .embeddedClass => "embedded class cannot be stored on its own"
  | .defaultFailed reason => s!"default value failed: {reason}"
  | .nestedTooDeep => "records are nested too deeply"

end FailureKind

/-- One step into a record: to the value of a key or to an item of an array. -/
inductive Step where
  | key (name : String)
  | index (position : Nat)
  deriving Repr, DecidableEq

namespace Step

/-- The name of a step in paths. -/
def name : Step → String
  | .key name => name
  | .index position => s!"{position}"

end Step

/-- A place in a record: all of it, or the part that a list of steps leads to. -/
inductive Location where
  | wholeRecord
  | part (steps : List Step)
  deriving Repr, DecidableEq

namespace Location

/-- A path with one more name; the empty path gives way to the name. -/
def joinPath (path name : String) : String :=
  if path.isEmpty then name else path ++ "." ++ name

/-- The path of a list of steps: their names with dots between them. -/
def pathOf (steps : List Step) : String :=
  steps.foldl (fun path step => joinPath path step.name) ""

/-- The path of a place. -/
def path : Location → String
  | .wholeRecord => "$root"
  | .part steps => pathOf steps

end Location

/-- A refused value, where it stands, and why it is refused. -/
structure Failure where
  location : Location
  value : Json
  kind : FailureKind
  deriving Repr

namespace Failure

/-- The failure of a value that must be there and is not. -/
def missing (location : Location) : Failure :=
  ⟨location, .null, .missingRequired⟩

/-- The text of a failure. -/
def text (failure : Failure) : String :=
  s!"property '{failure.location.path}': {failure.kind.message} (got {failure.value.render})"

/-- The value that tells a client about a failure. -/
def describe (failure : Failure) : Json :=
  .ofMembers
    [("property", .string failure.location.path), ("code", .string failure.kind.code),
      ("message", .string failure.kind.message), ("value", failure.value)]

end Failure

/-- All failures of one record of a class. -/
structure Rejection where
  className : String
  failures : List Failure
  deriving Repr

namespace Rejection

/-- The stable code of a rejected record. -/
def code : String :=
  "META_VALIDATION_FAILED"

/-- A client may try again with another record. -/
def severity : ErrorSeverity :=
  .reject

/-- How many failures there are, and on what. -/
def summary (rejection : Rejection) : String :=
  s!"{rejection.failures.length} problem(s) with record of class '{rejection.className}'"

/-- The text of a rejection with all its failures. -/
def message (rejection : Rejection) : String :=
  s!"[{severity.name}] {code}: {rejection.summary}" ++
    String.join (rejection.failures.map fun failure => "; " ++ failure.text)

/-- The failures at a path. -/
def atPath (rejection : Rejection) (path : String) : List Failure :=
  rejection.failures.filter fun failure => failure.location.path == path

end Rejection

end RecordSchema
