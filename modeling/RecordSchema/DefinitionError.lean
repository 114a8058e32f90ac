namespace RecordSchema

/-!
# What is wrong with definitions

Every defect that stops the linking of a set of definitions, with what its
message names.  A defect is always fatal: no part of the definitions is used.
-/

/-- How much an error stops. -/
inductive ErrorSeverity where
  | reject
  | fatal
  deriving Repr, DecidableEq

namespace ErrorSeverity

/-- The name of a severity in messages. -/
def name : ErrorSeverity → String
  | .reject => "REJECT"
  | .fatal => "FATAL"

end ErrorSeverity

/-- A defect of a set of definitions. -/
inductive DefinitionError where
  | duplicateClass (className : String)
  | unknownParent (className parent : String)
  | duplicateParent (className parent : String)
  | unknownLinkedClass (className property linked : String)
  | unknownProperty (className property : String)
  | alreadyResolved (className property : String)
  | duplicateProperty (className property : String)
  | unknownIndexClass (index className : String)
  | unknownIndexProperty (index className property : String)
  | emptyIndex (index className : String)
  | circularInheritance (className : String) (cycle : List String)
  | invalidPattern (className property reason : String)
  | invalidPermission (className role : String) (bits : UInt8)
  | classFrozen (className : String)
  | malformed (path reason : String)
  deriving Repr, DecidableEq

namespace DefinitionError

/-- The stable code of a defect. -/
def code : DefinitionError → String
  | .duplicateClass .. => "META_DEFINITION_DUPLICATE_CLASS"
  | .unknownParent .. => "META_DEFINITION_UNKNOWN_PARENT"
  | .duplicateParent .. => "META_DEFINITION_DUPLICATE_PARENT"
  | .unknownLinkedClass .. => "META_DEFINITION_UNKNOWN_LINKED_CLASS"
  | .unknownProperty .. => "META_DEFINITION_UNKNOWN_PROPERTY"
  | .alreadyResolved .. => "META_DEFINITION_ALREADY_RESOLVED"
  | .duplicateProperty .. => "META_DEFINITION_DUPLICATE_PROPERTY"
  | .unknownIndexClass .. => "META_DEFINITION_UNKNOWN_INDEX_CLASS"
  | .unknownIndexProperty .. => "META_DEFINITION_UNKNOWN_INDEX_PROPERTY"
  | .emptyIndex .. => "META_DEFINITION_EMPTY_INDEX"
  | .circularInheritance .. => "META_DEFINITION_CIRCULAR_INHERITANCE"
  | .invalidPattern .. => "META_DEFINITION_INVALID_PATTERN"
  | .invalidPermission .. => "META_DEFINITION_INVALID_PERMISSION"
  | .classFrozen .. => "META_DEFINITION_CLASS_FROZEN"
  | .malformed .. => "META_DEFINITION_MALFORMED"

/-- The wording of a defect. -/
def message : DefinitionError → String
  | .duplicateClass className =>
      s!"class '{className}' is declared by more than one definition set"
  | .unknownParent className parent =>
      s!"class '{className}' inherits unknown class '{parent}'"
  | .duplicateParent className parent =>
      s!"class '{className}' declares '{parent}' as a parent more than once"
  | .unknownLinkedClass className property linked =>
      s!"property '{className}.{property}' links unknown class '{linked}'"
  | .unknownProperty className property =>
      s!"class '{className}' has no property '{property}'"
  | .alreadyResolved className property =>
      s!"property '{className}.{property}' is already linked"
  | .duplicateProperty className property =>
      s!"property '{property}' is declared more than once on class '{className}'"
  | .unknownIndexClass index className =>
      s!"index '{index}' targets unknown class '{className}'"
  | .unknownIndexProperty index className property =>
      s!"index '{index}' targets property '{property}' which class '{className}' does not have"
  | .emptyIndex index className =>
      s!"index '{index}' on class '{className}' names no properties"
  | .circularInheritance _ cycle =>
      s!"circular inheritance: " ++ " -> ".intercalate cycle
  | .invalidPattern className property reason =>
      s!"property '{className}.{property}' has an invalid pattern: {reason}"
  | .invalidPermission className role bits =>
      s!"class '{className}' grants role '{role}' an invalid permission mask {bits}"
  | .classFrozen className =>
      s!"class '{className}' is already linked"
  | .malformed path reason =>
      s!"malformed definitions in '{path}': {reason}"

/-- Definitions with a defect stop the program. -/
def severity (_error : DefinitionError) : ErrorSeverity :=
  .fatal

end DefinitionError

end RecordSchema
