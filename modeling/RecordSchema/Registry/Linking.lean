import RecordSchema.Log.Event
import RecordSchema.Registry.Basic

namespace RecordSchema

/-!
# Linking definitions

Sets of definitions become a registry in steps.  The sets are united; the class
that carries a permission mask for every other class is completed; each class is
drafted with its own properties; parents and linked classes are looked up by name;
every class receives the properties of its parents, parents before children; and
the indices are attached.  The first defect ends the linking.
-/

namespace DefinitionSet

/-- One set united with the entries of another, which may repeat no name. -/
def addAll (united : DefinitionSet) :
    List (String × ClassDefinition) → Except DefinitionError DefinitionSet
  | [] => .ok united
  | (name, definition) :: rest =>
      if united.contains name then
        .error (.duplicateClass name)
      else
        addAll (united.insert name definition) rest

/-- A set united with further sets. -/
def unite (united : DefinitionSet) : List DefinitionSet → Except DefinitionError DefinitionSet
  | [] => .ok united
  | set :: sets =>
      match addAll united set.entries with
      | .error error => .error error
      | .ok larger => unite larger sets

/-- The class that carries a permission mask for every class that is not embedded. -/
def carrierName : String :=
  "Permissions"

/-- The property of the carrier for one class. -/
def carrierProperty (className : String) : PropertyDefinition where
  name := className
  kind := .integer (some 0) (some 15) none
  nullable := false
  default := some (.ofInt 0)

/-- The classes that the carrier needs a property for. -/
def carriedNames (definitions : DefinitionSet) : List String :=
  (definitions.entries.filter fun entry => !entry.2.embedded && entry.1 != carrierName).map
    Prod.fst

/-- The carrier as declared, an embedded class without properties if it is not. -/
def carrier (definitions : DefinitionSet) : ClassDefinition :=
  (definitions.get? carrierName).getD { embedded := true }

/-- The classes that the declared carrier has no property for. -/
def missingNames (definitions : DefinitionSet) : List String :=
  definitions.carriedNames.filter fun name =>
    !definitions.carrier.properties.any fun property => property.name == name

/-- The definitions with a carrier that has a property for every class that needs one. -/
def withCarrier (definitions : DefinitionSet) : DefinitionSet :=
  definitions.insert carrierName
    { definitions.carrier with
      properties := definitions.carrier.properties ++ definitions.missingNames.map carrierProperty }

end DefinitionSet

namespace Registry

/-- The drafts of definitions, numbered in order from a given number. -/
def draftFrom (id : Nat) :
    List (String × ClassDefinition) → Except DefinitionError (List ClassModel)
  | [] => .ok []
  | (name, definition) :: rest =>
      match ClassModel.ofDefinition id name definition with
      | .error error => .error error
      | .ok model =>
          match draftFrom (id + 1) rest with
          | .error error => .error error
          | .ok models => .ok (model :: models)

/-- The classes of a set as a hierarchy without parents. -/
def flatHierarchy (definitions : DefinitionSet) : Hierarchy :=
  ⟨definitions.keys.map fun name => { name }⟩

/-- The parents of one class, by name, added to a hierarchy. -/
def addParents (child : Nat) (hierarchy : Hierarchy) :
    List String → Except DefinitionError Hierarchy
  | [] => .ok hierarchy
  | parentName :: rest =>
      match hierarchy.idOf? parentName with
      | none => .error (.unknownParent (hierarchy.nameOf child) parentName)
      | some parent =>
          match hierarchy.addParent child parent with
          | .error error => .error error
          | .ok larger => addParents child larger rest

/-- The parents of all classes, numbered from a given number, added to a hierarchy. -/
def addAllParents (child : Nat) (hierarchy : Hierarchy) :
    List ClassDefinition → Except DefinitionError Hierarchy
  | [] => .ok hierarchy
  | definition :: rest =>
      match addParents child hierarchy definition.inherits with
      | .error error => .error error
      | .ok larger => addAllParents (child + 1) larger rest

/-- The own properties whose links are pending, with the names of the classes they refer to. -/
def pendingLinks (model : ClassModel) : List (String × String) :=
  model.own.values.filterMap fun property =>
    match property.linkedClass with
    | some (.pending linked) => some (property.name, linked)
    | _ => none

/--
A class with the link of one of its own properties resolved.  The property must
refer to a class, and its link may not be resolved already.
-/
def resolveLink (hierarchy : Hierarchy) (model : ClassModel) (name : String) (target : Nat) :
    Except DefinitionError ClassModel :=
  if hierarchy.isFrozen model.id then
    .error (.classFrozen model.name)
  else
    match model.own.get? name with
    | none => .error (.unknownProperty model.name name)
    | some property =>
        match property.linkedClass with
        | none => .error (.unknownProperty model.name name)
        | some (.resolved ..) => .error (.alreadyResolved model.name name)
        | some (.pending _) =>
            .ok { model with own := model.own.modify name (Property.resolveLink target) }

/-- A class with pending links resolved in order; the first name of no class is the error. -/
def resolvePending (hierarchy : Hierarchy) (model : ClassModel) :
    List (String × String) → Except DefinitionError ClassModel
  | [] => .ok model
  | (name, linked) :: rest =>
      match hierarchy.idOf? linked with
      | none => .error (.unknownLinkedClass model.name name linked)
      | some target =>
          match resolveLink hierarchy model name target with
          | .error error => .error error
          | .ok resolved => resolvePending hierarchy resolved rest

/-- Drafts with the links of their own properties resolved. -/
def resolveLinks (hierarchy : Hierarchy) :
    List ClassModel → Except DefinitionError (List ClassModel)
  | [] => .ok []
  | model :: rest =>
      match resolvePending hierarchy model (pendingLinks model) with
      | .error error => .error error
      | .ok resolved => (resolveLinks hierarchy rest).map (resolved :: ·)

/-- The properties that have been composed, by the number of the class. -/
abbrev Composition :=
  List (SortedMap Property)

/-- The two ends of an edge. -/
def endpointNames : List String :=
  ["out", "in"]

/--
Two inherited declarations of one name conflict when neither class that declares
one inherits from the other.  Ends of edges that nobody declares do not conflict.
-/
def isAmbiguous (hierarchy : Hierarchy) (first second : Property) : Bool :=
  if first.declaredOn == second.declaredOn || (first.synthesized && second.synthesized) then
    false
  else
    match hierarchy.idOf? first.declaredOn, hierarchy.idOf? second.declaredOn with
    | some firstId, some secondId =>
        !hierarchy.isDescendantOf firstId secondId && !hierarchy.isDescendantOf secondId firstId
    | _, _ => true

/-- What a class has inherited so far, and the conflicts found on the way. -/
structure Inherited where
  properties : SortedMap Property := .empty
  conflicts : List Event := []

/-- One more inherited property; it takes the place of an earlier one of its name. -/
def Inherited.add (hierarchy : Hierarchy) (model : ClassModel) (inherited : Inherited)
    (entry : String × Property) : Inherited where
  properties := inherited.properties.insert entry.1 entry.2
  conflicts :=
    match inherited.properties.get? entry.1 with
    | some existing =>
        if !model.own.contains entry.1 && isAmbiguous hierarchy existing entry.2 then
          inherited.conflicts ++
            [.ambiguousInheritance model.name entry.1 entry.2.declaredOn existing.declaredOn]
        else
          inherited.conflicts
    | none => inherited.conflicts

/-- What a class inherits from its parents, the later ones prevailing. -/
def inherit (hierarchy : Hierarchy) (model : ClassModel) (parents : Composition) : Inherited :=
  (parents.flatMap SortedMap.entries).foldl (Inherited.add hierarchy model) {}

/-- An edge has both of its ends. -/
def withEndpoints (model : ClassModel) (properties : SortedMap Property) : SortedMap Property :=
  if model.isEdge then
    endpointNames.foldl
      (fun completed name =>
        if completed.contains name then
          completed
        else
          completed.insert name (.endpoint model.name name))
      properties
  else
    properties

/-- Inherited properties with the class's own in front of them. -/
def override (model : ClassModel) (inherited : SortedMap Property) : SortedMap Property :=
  model.own.entries.foldl (fun composed entry => composed.insert entry.1 entry.2) inherited

/-- The composed properties of a class. -/
def composedOf (composition : Composition) (id : Nat) : SortedMap Property :=
  composition[id]?.getD .empty

/-- The composition with one more class, and the conflicts found there. -/
def composeClass (hierarchy : Hierarchy) (models : List ClassModel)
    (state : Composition × List Event) (id : Nat) : Composition × List Event :=
  match models[id]? with
  | none => state
  | some model =>
      let parents := (hierarchy.parentsOf id).map (composedOf state.1)
      let inherited := inherit hierarchy model parents
      let effective := withEndpoints model (override model inherited.properties)
      (state.1.set id effective, state.2 ++ inherited.conflicts)

/-- The effective properties of all classes, visited in a given order. -/
def compose (hierarchy : Hierarchy) (models : List ClassModel) (order : List Nat) :
    Composition × List Event :=
  order.foldl (composeClass hierarchy models) (models.map fun _ => .empty, [])

/-- The classes with their effective properties. -/
def withComposition (models : List ClassModel) (composition : Composition) : List ClassModel :=
  models.map fun model => { model with effective := composedOf composition model.id }

/-- The indices that classes declare, with the names of these classes, in order. -/
def declaredIndices (definitions : DefinitionSet) : List (String × IndexDefinition) :=
  definitions.entries.flatMap fun entry => entry.2.indices.map fun index => (entry.1, index)

/-- The defect of an index on its class, if it has one. -/
def indexDefect? (model : ClassModel) (index : Index) : Option DefinitionError :=
  if index.properties.isEmpty then
    some (.emptyIndex index.name model.name)
  else
    (index.properties.find? fun name => !model.effective.contains name).map fun name =>
      .unknownIndexProperty index.name model.name name

/-- The class with one more index; an index over a single property flags the property. -/
def attach (model : ClassModel) (index : Index) : ClassModel :=
  match index.singleProperty? with
  | some name =>
      let mark := Property.markIndexed index.kind.isFulltext
      { model with
        own := model.own.modify name mark
        effective := model.effective.modify name mark
        indices := model.indices ++ [index] }
  | none => { model with indices := model.indices ++ [index] }

/-- The flag of an index on the inherited copy of a declaration. -/
def markInherited (name origin : String) (fulltext : Bool) (model : ClassModel) : ClassModel :=
  { model with
    effective := model.effective.modify name fun property =>
      if property.declaredOn = origin then property.markIndexed fulltext else property }

/-- Classes with the flag of an index on the copies below its class. -/
def flagDescendants (hierarchy : Hierarchy) (target : ClassModel) (index : Index)
    (models : List ClassModel) : List ClassModel :=
  match index.singleProperty? with
  | none => models
  | some name =>
      match target.effective.get? name with
      | none => models
      | some property =>
          let below := hierarchy.descendants target.id
          models.map fun model =>
            if below.contains model.id then
              markInherited name property.declaredOn index.kind.isFulltext model
            else
              model

/-- Classes with one more index. -/
def attachIndex (hierarchy : Hierarchy) (models : List ClassModel)
    (declaring : String) (definition : IndexDefinition) :
    Except DefinitionError (List ClassModel) :=
  let index := Index.ofDefinition declaring definition
  match (hierarchy.idOf? index.className).bind fun id => models[id]? with
  | none => .error (.unknownIndexClass index.name index.className)
  | some target =>
      match indexDefect? target index with
      | some error => .error error
      | none =>
          .ok (flagDescendants hierarchy target index
            (models.set target.id (attach target index)))

/-- Classes with all declared indices. -/
def attachIndices (hierarchy : Hierarchy) (models : List ClassModel) :
    List (String × IndexDefinition) → Except DefinitionError (List ClassModel)
  | [] => .ok models
  | (declaring, definition) :: rest =>
      match attachIndex hierarchy models declaring definition with
      | .error error => .error error
      | .ok attached => attachIndices hierarchy attached rest

/-- What is known about the classes before they inherit from each other. -/
structure Foundation where
  hierarchy : Hierarchy
  models : List ClassModel
  order : List Nat

/-- The drafts of definitions with parents and links looked up, and their order. -/
def foundation (definitions : DefinitionSet) : Except DefinitionError Foundation := do
  let drafts ← draftFrom 0 definitions.entries
  let hierarchy ← addAllParents 0 (flatHierarchy definitions) definitions.values
  let models ← resolveLinks hierarchy drafts
  let order ← hierarchy.topologicalOrder
  return { hierarchy, models, order }

/-- What linking has logged, and its result. -/
structure Linking (α : Type u) where
  events : List Event
  result : Except DefinitionError α

/-- The event of a linked class. -/
def linkedEvent (hierarchy : Hierarchy) (model : ClassModel) : Event :=
  .classLinked model.name (hierarchy.parentsOf model.id).length model.effective.size

/-- The registry of a set of definitions whose carrier is complete. -/
def link (definitions : DefinitionSet) : Linking Registry :=
  match foundation definitions with
  | .error error => ⟨[], .error error⟩
  | .ok base =>
      let (composition, conflicts) := compose base.hierarchy base.models base.order
      let composed := withComposition base.models composition
      match attachIndices base.hierarchy composed (declaredIndices definitions) with
      | .error error => ⟨conflicts, .error error⟩
      | .ok classes =>
          ⟨conflicts ++ classes.map (linkedEvent base.hierarchy),
            .ok ⟨base.hierarchy.freeze, classes⟩⟩

/-- The registry of sets of definitions, before the work is reported as a whole. -/
def linkSets (sets : List DefinitionSet) : Linking Registry :=
  match DefinitionSet.unite .empty sets with
  | .error error => ⟨[], .error error⟩
  | .ok definitions =>
      let linking := link definitions.withCarrier
      ⟨.permissionsCarrierSynthesized definitions.missingNames.length :: linking.events,
        linking.result⟩

/-- The registry of sets of definitions with everything that is logged on the way. -/
def compile (sets : List DefinitionSet) : Linking Registry :=
  let linking := linkSets sets
  let outcome :=
    match linking.result with
    | .ok registry => Event.compileCompleted registry.size
    | .error error => .compileFailed error
  ⟨.compileBegun :: (linking.events ++ [outcome]), linking.result⟩

end Registry

end RecordSchema
