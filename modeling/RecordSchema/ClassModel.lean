import RecordSchema.Permission
import RecordSchema.Property

namespace RecordSchema

/-!
# Linked classes

A class with the properties that it declares itself, the effective ones that
include what it inherits, and the indices over its records.
-/

/-- An index, attached to the class whose records it covers. -/
structure Index where
  name : String
  className : String
  kind : IndexKind
  properties : List String
  ignoreNullValues : Bool := false
  deriving Repr, DecidableEq

namespace Index

/-- The index that a class declares. -/
def ofDefinition (declaring : String) (definition : IndexDefinition) : Index where
  name := definition.name
  className := definition.target declaring
  kind := definition.kind
  properties := definition.properties
  ignoreNullValues := definition.ignoreNullValues

/-- The only property of an index that has but one. -/
def singleProperty? (index : Index) : Option String :=
  match index.properties with
  | [property] => some property
  | _ => none

/-- The value that describes an index to tools. -/
def describe (index : Index) : Json :=
  .ofMembers
    [("name", .string index.name), ("class", .string index.className),
      ("type", .string index.kind.name), ("properties", .ofStrings index.properties),
      ("metadata", .object [("ignoreNullValues", .bool index.ignoreNullValues)])]

end Index

/-- A class whose properties are ready for use. -/
structure ClassModel where
  id : Nat
  name : String
  isAbstract : Bool := false
  isEdge : Bool := false
  embedded : Bool := false
  description : Option String := none
  expose : List Operation := []
  own : SortedMap Property := .empty
  effective : SortedMap Property := .empty
  indices : List Index := []
  permissions : PermissionTable

namespace ClassModel

/-- The properties that a class declares, in order, each under its name once. -/
def declareProperties (className : String) (declared : SortedMap Property) :
    List PropertyDefinition → Except DefinitionError (SortedMap Property)
  | [] => .ok declared
  | definition :: rest =>
      match Property.ofDefinition className definition with
      | .error error => .error error
      | .ok property =>
          if declared.contains definition.name then
            .error (.duplicateProperty className definition.name)
          else
            declareProperties className (declared.insert definition.name property) rest

/-- The class of a definition before it is linked: nothing is inherited yet. -/
def ofDefinition (id : Nat) (name : String) (definition : ClassDefinition) :
    Except DefinitionError ClassModel := do
  let own ← declareProperties name .empty definition.properties
  let permissions ← PermissionTable.ofDefinition name definition.permissions definition.expose
  return {
    id
    name
    isAbstract := definition.isAbstract
    isEdge := definition.isEdge
    embedded := definition.embedded
    description := definition.description
    expose := definition.expose
    own
    permissions
  }

/-- The effective property of a name. -/
def property? (model : ClassModel) (name : String) : Option Property :=
  model.effective.get? name

/-- The effective properties that a record must bring. -/
def required (model : ClassModel) : List Property :=
  model.effective.values.filter Property.isRequired

/-- Whether clients without a role of their own may look for records of the class. -/
def isQueryable (model : ClassModel) : Bool :=
  !model.isAbstract && !model.embedded &&
    (model.permissions.get defaultRole).contains Permission.read

end ClassModel

end RecordSchema
