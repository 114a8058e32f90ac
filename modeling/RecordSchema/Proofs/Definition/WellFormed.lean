import Mathlib.Data.List.Chain
import Mathlib.Logic.Relation
import RecordSchema.Pattern
import RecordSchema.Proofs.Hierarchy.Order
import RecordSchema.Proofs.SortedMap
import RecordSchema.Registry.Linking

namespace RecordSchema

/-!
# Well-formed definitions

What sets of definitions must satisfy to be linked, said of the definitions alone:
which names are known, which class inherits from which, and which properties a class
has.  Every defect is described with the classes, properties and indices it names,
and definitions with a described defect are not well formed.
-/

open Relation (TransGen)

/-- The pattern that a kind of property demands of its strings. -/
def PropertyKind.pattern? : PropertyKind → Option String
  | .string _ _ pattern => pattern
  | _ => none

/-- Which class has which definition. -/
abbrev Declarations :=
  String → ClassDefinition → Prop

/-- The declarations of one set. -/
def DefinitionSet.declarations (definitions : DefinitionSet) : Declarations :=
  fun className definition => definitions.get? className = some definition

namespace Declarations

/-- The declarations of several sets. -/
def ofSets (sets : List DefinitionSet) : Declarations :=
  fun className definition => ∃ set ∈ sets, set.get? className = some definition

/-- A name that parents, links and indices may refer to; the carrier is always there. -/
def Known (declares : Declarations) (name : String) : Prop :=
  name = DefinitionSet.carrierName ∨ ∃ definition, declares name definition

theorem known_iff_mem_keys
    {definitions : DefinitionSet}
    (carried : DefinitionSet.carrierName ∈ definitions.keys)
    {name : String} :
    Known definitions.declarations name ↔ name ∈ definitions.keys := by
  constructor
  · rintro (rfl | declared)
    · exact carried
    · exact SortedMap.mem_keys_iff.mpr declared
  · intro member
    exact .inr (SortedMap.mem_keys_iff.mp member)

/-- A class names another as its parent. -/
def Inherits (declares : Declarations) (child parent : String) : Prop :=
  ∃ definition, declares child definition ∧ parent ∈ definition.inherits

/--
A class has a property when it declares it, when it is the carrier and the property
is for a class that is not embedded, when it is an edge and the property is one of
its ends, or when one of its parents has it.
-/
inductive HasProperty (declares : Declarations) : String → String → Prop where
  | declared
      {className : String}
      {definition : ClassDefinition}
      {property : PropertyDefinition} :
      declares className definition →
      property ∈ definition.properties →
      HasProperty declares className property.name
  | carried
      {className : String}
      {definition : ClassDefinition} :
      declares className definition →
      definition.embedded = false →
      className ≠ DefinitionSet.carrierName →
      HasProperty declares DefinitionSet.carrierName className
  | edgeEnd
      {className name : String}
      {definition : ClassDefinition} :
      declares className definition →
      definition.isEdge = true →
      name ∈ Registry.endpointNames →
      HasProperty declares className name
  | inherited
      {className parent name : String} :
      Inherits declares className parent →
      HasProperty declares parent name →
      HasProperty declares className name

/-- A class declares a property. -/
def DeclaresProperty
    (declares : Declarations)
    (className : String)
    (property : PropertyDefinition) : Prop :=
  ∃ definition, declares className definition ∧ property ∈ definition.properties

/-- A class declares an index. -/
def DeclaresIndex
    (declares : Declarations)
    (className : String)
    (index : IndexDefinition) : Prop :=
  ∃ definition, declares className definition ∧ index ∈ definition.indices

/-- A path along the parents that ends where it begins. -/
def IsInheritanceCycle
    (declares : Declarations)
    (className : String)
    (cycle : List String) : Prop :=
  (∃ between, cycle = className :: (between ++ [className])) ∧
    cycle.IsChain (Inherits declares)

/-- What a defect says of the declarations that it is found in. -/
def Defect (declares : Declarations) : DefinitionError → Prop
  | .unknownParent className parent =>
      Inherits declares className parent ∧ ¬Known declares parent
  | .duplicateParent className parent =>
      ∃ definition,
        declares className definition ∧ 2 ≤ definition.inherits.count parent
  | .unknownLinkedClass className property linked =>
      ∃ definition,
        declares className definition ∧
          (∃ declared ∈ definition.properties,
            declared.name = property ∧ declared.kind.linkedClass? = some linked) ∧
          ¬Known declares linked
  | .duplicateProperty className property =>
      ∃ definition,
        declares className definition ∧
          2 ≤ (definition.properties.map PropertyDefinition.name).count property
  | .unknownIndexClass index className =>
      (∃ declaring definition,
        DeclaresIndex declares declaring definition ∧
          definition.name = index ∧ definition.target declaring = className) ∧
        ¬Known declares className
  | .unknownIndexProperty index className property =>
      (∃ declaring definition,
        DeclaresIndex declares declaring definition ∧
          definition.name = index ∧ definition.target declaring = className ∧
            property ∈ definition.properties) ∧
        ¬HasProperty declares className property
  | .emptyIndex index className =>
      ∃ declaring definition,
        DeclaresIndex declares declaring definition ∧
          definition.name = index ∧ definition.target declaring = className ∧
            definition.properties = []
  | .circularInheritance className cycle =>
      IsInheritanceCycle declares className cycle
  | .invalidPattern className property _ =>
      ∃ definition,
        declares className definition ∧
          ∃ declared ∈ definition.properties,
            declared.name = property ∧
              ∃ source,
                declared.kind.pattern? = some source ∧ Pattern.ofSource? source = none
  | .invalidPermission className role bits =>
      ∃ definition table,
        declares className definition ∧ definition.permissions = some table ∧
          table.get? role = some bits ∧ 15 < bits
  | .duplicateClass _ | .unknownProperty .. | .alreadyResolved .. | .classFrozen _
  | .malformed .. =>
      False

end Declarations

open Declarations (ofSets Known Inherits HasProperty DeclaresIndex Defect)

/-- What a defect says of sets of definitions: a class in two sets, or what their declarations show. -/
def DescribesDefect (sets : List DefinitionSet) : DefinitionError → Prop
  | .duplicateClass className => 2 ≤ sets.countP fun set => set.contains className
  | error => Defect (ofSets sets) error

/-- The demands on one class of several sets. -/
structure WellFormedClass
    (declares : Declarations)
    (className : String)
    (definition : ClassDefinition) : Prop where
  propertiesDistinct :
    (definition.properties.map PropertyDefinition.name).Nodup
  patternsRead :
    ∀ property ∈ definition.properties,
      ∀ source, property.kind.pattern? = some source → (Pattern.ofSource? source).isSome
  masksValid :
    ∀ table, definition.permissions = some table →
      ∀ role bits, table.get? role = some bits → bits ≤ 15
  parentsKnown :
    ∀ parent ∈ definition.inherits, Known declares parent
  parentsOther :
    className ∉ definition.inherits
  parentsDistinct :
    definition.inherits.Nodup
  linksKnown :
    ∀ property ∈ definition.properties,
      ∀ linked, property.kind.linkedClass? = some linked → Known declares linked
  indicesNonempty :
    ∀ index ∈ definition.indices, index.properties ≠ []
  indexTargetsKnown :
    ∀ index ∈ definition.indices, Known declares (index.target className)
  indexPropertiesPresent :
    ∀ index ∈ definition.indices, ∀ property ∈ index.properties,
      HasProperty declares (index.target className) property

/-- The demands on several sets: no class in two of them, no cycle, and those on each class. -/
structure WellFormed (sets : List DefinitionSet) : Prop where
  disjoint :
    ∀ className, (sets.countP fun set => set.contains className) ≤ 1
  acyclic :
    ∀ className, ¬TransGen (Inherits (ofSets sets)) className className
  classes :
    ∀ className definition,
      ofSets sets className definition →
      WellFormedClass (ofSets sets) className definition

/-- Sets with a described defect are not well formed. -/
theorem DescribesDefect.not_wellFormed
    {sets : List DefinitionSet}
    {error : DefinitionError}
    (described : DescribesDefect sets error) :
    ¬WellFormed sets := by
  intro wellFormed
  cases error with
  | duplicateClass className =>
      exact absurd described (Nat.not_le_of_lt (Nat.lt_succ_of_le (wellFormed.disjoint className)))
  | unknownParent className parent =>
      obtain ⟨⟨definition, declared, member⟩, unknown⟩ := described
      exact unknown ((wellFormed.classes _ _ declared).parentsKnown parent member)
  | duplicateParent className parent =>
      obtain ⟨definition, declared, repeated⟩ := described
      have once := List.nodup_iff_count_le_one.mp
        (wellFormed.classes _ _ declared).parentsDistinct parent
      omega
  | unknownLinkedClass className property linked =>
      obtain ⟨definition, declared, ⟨declaredProperty, member, _, links⟩, unknown⟩ := described
      exact unknown
        ((wellFormed.classes _ _ declared).linksKnown declaredProperty member linked links)
  | duplicateProperty className property =>
      obtain ⟨definition, declared, repeated⟩ := described
      have once := List.nodup_iff_count_le_one.mp
        (wellFormed.classes _ _ declared).propertiesDistinct property
      omega
  | unknownIndexClass index className =>
      obtain ⟨⟨declaring, declaredIndex, ⟨definition, declared, member⟩, _, rfl⟩, unknown⟩ :=
        described
      exact unknown ((wellFormed.classes _ _ declared).indexTargetsKnown declaredIndex member)
  | unknownIndexProperty index className property =>
      obtain ⟨⟨declaring, declaredIndex, ⟨definition, declared, member⟩, _, rfl, covers⟩,
        absent⟩ := described
      exact absent
        ((wellFormed.classes _ _ declared).indexPropertiesPresent declaredIndex member property
          covers)
  | emptyIndex index className =>
      obtain ⟨declaring, declaredIndex, ⟨definition, declared, member⟩, _, _, empty⟩ := described
      exact (wellFormed.classes _ _ declared).indicesNonempty declaredIndex member empty
  | circularInheritance className cycle =>
      obtain ⟨⟨between, rfl⟩, chain⟩ := described
      exact wellFormed.acyclic className (Hierarchy.transGen_of_isChain chain)
  | invalidPattern className property reason =>
      obtain ⟨definition, declared, declaredProperty, member, _, source, demands, unreadable⟩ :=
        described
      have readable :=
        (wellFormed.classes _ _ declared).patternsRead declaredProperty member source demands
      simp [unreadable] at readable
  | invalidPermission className role bits =>
      obtain ⟨definition, table, declared, present, found, tooLarge⟩ := described
      have small := (wellFormed.classes _ _ declared).masksValid table present role bits found
      exact absurd tooLarge (UInt8.not_lt.mpr small)
  | unknownProperty className property =>
      exact described
  | alreadyResolved className property =>
      exact described
  | classFrozen className =>
      exact described
  | malformed path reason =>
      exact described

end RecordSchema
