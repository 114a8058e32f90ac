import RecordSchema.ClassModel
import RecordSchema.Hierarchy

namespace RecordSchema

/-!
# Registries

All classes of a set of definitions, linked with each other.  A class is found by
its name or by its number, which is its position among the sorted names.
-/

/-- Linked classes in the order of their numbers, and their hierarchy. -/
structure Registry where
  hierarchy : Hierarchy
  classes : List ClassModel

namespace Registry

/-- How many classes there are. -/
def size (registry : Registry) : Nat :=
  registry.classes.length

/-- The class of a number. -/
def byId? (registry : Registry) (id : Nat) : Option ClassModel :=
  registry.classes[id]?

/-- The class of a name. -/
def get? (registry : Registry) (name : String) : Option ClassModel :=
  (registry.hierarchy.idOf? name).bind registry.byId?

/-- Whether there is a class of a name. -/
def contains (registry : Registry) (name : String) : Bool :=
  (registry.hierarchy.idOf? name).isSome

/-- The names of the classes in order. -/
def names (registry : Registry) : List String :=
  registry.classes.map ClassModel.name

/-- The names of classes given by number. -/
def namesOf (registry : Registry) (ids : List Nat) : List String :=
  (ids.filterMap registry.byId?).map ClassModel.name

/-- The numbers of the direct parents of a class, in declared order. -/
def parents (registry : Registry) (model : ClassModel) : List Nat :=
  registry.hierarchy.parentsOf model.id

/-- The numbers of the direct children of a class. -/
def children (registry : Registry) (model : ClassModel) : List Nat :=
  registry.hierarchy.childrenOf model.id

/-- The names of the direct parents of a class, in declared order. -/
def parentNames (registry : Registry) (model : ClassModel) : List String :=
  registry.namesOf (registry.parents model)

/-- The names of all ancestors of a class, the nearest declared one first. -/
def ancestorNames (registry : Registry) (model : ClassModel) : List String :=
  registry.namesOf (registry.hierarchy.ancestors model.id)

/-- The names of all classes that inherit from a class, directly or not. -/
def subclassNames (registry : Registry) (name : String) : List String :=
  match registry.hierarchy.idOf? name with
  | some id => registry.namesOf (registry.hierarchy.descendants id)
  | none => []

/-- Whether a class inherits, directly or not, from another. -/
def isDescendantOf (registry : Registry) (name ancestor : String) : Bool :=
  match registry.hierarchy.idOf? name, registry.hierarchy.idOf? ancestor with
  | some id, some ancestorId => registry.hierarchy.isDescendantOf id ancestorId
  | _, _ => false

/-- The class that a property refers to, if it names one. -/
def linkedClass? (registry : Registry) (property : Property) : Option ClassModel :=
  (property.linkedClass.bind LinkedClass.id?).bind registry.byId?

/-- The classes whose records the default role may look for. -/
def queryable (registry : Registry) : List ClassModel :=
  registry.classes.filter ClassModel.isQueryable

/-- The indices of all classes. -/
def indices (registry : Registry) : List Index :=
  registry.classes.flatMap ClassModel.indices

/-- The value that describes a class to tools. -/
def describeModel (registry : Registry) (model : ClassModel) : Json :=
  .ofMembers
    [("name", .string model.name), ("abstract", .bool model.isAbstract),
      ("isEdge", .bool model.isEdge), ("embedded", .bool model.embedded),
      ("description", .ofOptionalString model.description),
      ("inherits", .ofStrings (registry.parentNames model)),
      ("ancestors", .ofStrings (registry.ancestorNames model)),
      ("subclasses", .ofStrings (registry.subclassNames model.name)),
      ("expose", .ofStrings (model.expose.map Operation.name)),
      ("properties", .array (model.effective.values.map Property.describe)),
      ("required", .ofStrings (model.required.map Property.name)),
      ("indices", .array (model.indices.map Index.describe)),
      ("permissions", .object
        (model.permissions.roles.mapValues fun _ mask => .ofNat mask.toNat).entries)]

/-- The value that describes the class of a name. -/
def describe? (registry : Registry) (name : String) : Option Json :=
  (registry.get? name).map registry.describeModel

/-- The value that sums up all classes. -/
def summary (registry : Registry) : Json :=
  .ofMembers
    [("classes", .ofNat registry.size),
      ("queryable", .ofStrings (registry.queryable.map ClassModel.name)),
      ("indices", .ofNat registry.indices.length),
      ("hierarchy", .ofMembers (registry.classes.map fun model =>
        (model.name, .ofStrings (registry.ancestorNames model))))]

end Registry

end RecordSchema
