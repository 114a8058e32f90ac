import RecordSchema.Operation
import RecordSchema.PropertyType
import RecordSchema.Record

namespace RecordSchema

/-!
# Definitions

Classes as they are declared.  A set of definitions maps class names to
classes, and a class lists its parents, its properties and its indices by name;
nothing is looked up yet.  The constraints of a property depend on its type.
-/

/-- The type of a property with the constraints that the type admits. -/
inductive PropertyKind where
  | string (nonEmpty : Bool) (choices : Option (List String)) (pattern : Option String)
  | integer (min max : Option Int64) (choices : Option (List Int64))
  | boolean
  | link (linkedClass : Option String)
  | linkset (linkedClass : Option String) (minItems : Option UInt64)
  | embedded (linkedClass : Option String)
  | embeddedlist (linkedClass : Option String) (minItems : Option UInt64)
  | embeddedset (linkedClass : Option String) (minItems : Option UInt64)
  deriving Repr, DecidableEq

namespace PropertyKind

/-- The type without its constraints. -/
def type : PropertyKind → PropertyType
  | .string .. => .string
  | .integer .. => .integer
  | .boolean => .boolean
  | .link .. => .link
  | .linkset .. => .linkset
  | .embedded .. => .embedded
  | .embeddedlist .. => .embeddedlist
  | .embeddedset .. => .embeddedset

/-- The class that the values are records of. -/
def linkedClass? : PropertyKind → Option String
  | .link linkedClass | .linkset linkedClass _ | .embedded linkedClass
  | .embeddedlist linkedClass _ | .embeddedset linkedClass _ => linkedClass
  | _ => none

/-- A type without constraints; the class is left out where the type has none. -/
def ofType (linkedClass : Option String) : PropertyType → PropertyKind
  | .string => .string false none none
  | .integer => .integer none none none
  | .boolean => .boolean
  | .link => .link linkedClass
  | .linkset => .linkset linkedClass none
  | .embedded => .embedded linkedClass
  | .embeddedlist => .embeddedlist linkedClass none
  | .embeddedset => .embeddedset linkedClass none

/-- Admit no empty string.  A constraint that the type does not admit is left out. -/
def withNonEmpty : PropertyKind → PropertyKind
  | .string _ choices pattern => .string true choices pattern
  | kind => kind

/-- Admit only the listed strings. -/
def withChoices (choices : List String) : PropertyKind → PropertyKind
  | .string nonEmpty _ pattern => .string nonEmpty (some choices) pattern
  | kind => kind

/-- Admit only strings that a pattern matches. -/
def withPattern (source : String) : PropertyKind → PropertyKind
  | .string nonEmpty choices _ => .string nonEmpty choices (some source)
  | kind => kind

/-- Admit no smaller integer. -/
def withMin (bound : Int64) : PropertyKind → PropertyKind
  | .integer _ max choices => .integer (some bound) max choices
  | kind => kind

/-- Admit no greater integer. -/
def withMax (bound : Int64) : PropertyKind → PropertyKind
  | .integer min _ choices => .integer min (some bound) choices
  | kind => kind

/-- Admit no collection of fewer items. -/
def withMinItems (bound : UInt64) : PropertyKind → PropertyKind
  | .linkset linkedClass _ => .linkset linkedClass (some bound)
  | .embeddedlist linkedClass _ => .embeddedlist linkedClass (some bound)
  | .embeddedset linkedClass _ => .embeddedset linkedClass (some bound)
  | kind => kind

end PropertyKind

/-- A source of values that differ from record to record. -/
inductive DefaultGenerator where
  | uuid
  | timestamp
  deriving Repr, DecidableEq

namespace DefaultGenerator

/-- The generators, each once. -/
def all : List DefaultGenerator :=
  [.uuid, .timestamp]

/-- The name of a generator in definitions. -/
def name : DefaultGenerator → String
  | .uuid => "uuid"
  | .timestamp => "timestamp"

/-- The generator of a name. -/
def ofName? (name : String) : Option DefaultGenerator :=
  all.find? fun generator => generator.name == name

end DefaultGenerator

/--
A default computed from the record so far, or the reason why there is none;
`identity` tells two functions apart.
-/
structure DefaultFunction where
  identity : Nat
  apply : Record → Except String Json

/-- The definition of one property; the two functions are attached by programs. -/
structure PropertyDefinition where
  name : String
  kind : PropertyKind
  mandatory : Bool := false
  nullable : Bool := true
  default : Option Json := none
  defaultGenerator : Option DefaultGenerator := none
  cast : Option CastKind := none
  generated : Bool := false
  readOnly : Bool := false
  description : Option String := none
  customCast : Option CustomCast := none
  defaultFunction : Option DefaultFunction := none

namespace PropertyDefinition

/-- A property of a type without constraints. -/
def ofType (type : PropertyType) (name : String) (linkedClass : Option String) :
    PropertyDefinition where
  name := name
  kind := .ofType linkedClass type

/-- Whether the definition can stand in a text: no function is attached to it. -/
def isPlain (definition : PropertyDefinition) : Bool :=
  definition.customCast.isNone && definition.defaultFunction.isNone

end PropertyDefinition

/-- The kinds of indices that a store keeps. -/
inductive IndexKind where
  | unique
  | notUniqueHash
  | fulltextHash
  deriving Repr, DecidableEq

namespace IndexKind

/-- The kinds, each once. -/
def all : List IndexKind :=
  [.unique, .notUniqueHash, .fulltextHash]

/-- The name of a kind in definitions. -/
def name : IndexKind → String
  | .unique => "UNIQUE"
  | .notUniqueHash => "NOTUNIQUE_HASH_INDEX"
  | .fulltextHash => "FULLTEXT_HASH_INDEX"

/-- The kind of a name. -/
def ofName? (name : String) : Option IndexKind :=
  all.find? fun kind => kind.name == name

/-- Whether the index searches the words of texts. -/
def isFulltext : IndexKind → Bool
  | .fulltextHash => true
  | _ => false

end IndexKind

/-- The definition of an index over properties of one class. -/
structure IndexDefinition where
  name : String
  className : Option String := none
  kind : IndexKind
  properties : List String
  ignoreNullValues : Bool := false
  deriving Repr, DecidableEq

namespace IndexDefinition

/-- The class that an index belongs to: the one it names, or the one that declares it. -/
def target (index : IndexDefinition) (declaring : String) : String :=
  index.className.getD declaring

end IndexDefinition

/-- The definition of one class; without permissions they follow from what is exposed. -/
structure ClassDefinition where
  isAbstract : Bool := false
  isEdge : Bool := false
  embedded : Bool := false
  inherits : List String := []
  properties : List PropertyDefinition := []
  indices : List IndexDefinition := []
  permissions : Option (SortedMap UInt8) := none
  expose : List Operation := []
  description : Option String := none

instance : Inhabited ClassDefinition :=
  ⟨{}⟩

/-- Classes by name, as they are declared together. -/
abbrev DefinitionSet :=
  SortedMap ClassDefinition

end RecordSchema
