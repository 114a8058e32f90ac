import RecordSchema.Cast

namespace RecordSchema

/-!
# Property types

What kind of value a property holds: a scalar, references to stored records or
records embedded in this one, the latter two singly or several at a time.
-/

/-- The type of a property. -/
inductive PropertyType where
  | string
  | integer
  | boolean
  | link
  | linkset
  | embedded
  | embeddedlist
  | embeddedset
  deriving Repr, DecidableEq

namespace PropertyType

/-- The types in their declared order. -/
def all : List PropertyType :=
  [.string, .integer, .boolean, .link, .linkset, .embedded, .embeddedlist, .embeddedset]

/-- The name of a type. -/
def name : PropertyType → String
  | .string => "string"
  | .integer => "integer"
  | .boolean => "boolean"
  | .link => "link"
  | .linkset => "linkset"
  | .embedded => "embedded"
  | .embeddedlist => "embeddedlist"
  | .embeddedset => "embeddedset"

/-- The type of a name; an integer may also be called long. -/
def ofName? (name : String) : Option PropertyType :=
  if name = "long" then some .integer else all.find? fun type => type.name == name

/-- Whether values of the type hold several items. -/
def isCollection : PropertyType → Bool
  | .linkset | .embeddedlist | .embeddedset => true
  | _ => false

/-- Whether values of the type hold no item twice. -/
def isSet : PropertyType → Bool
  | .linkset | .embeddedset => true
  | _ => false

/-- Whether values of the type hold records. -/
def isEmbedded : PropertyType → Bool
  | .embedded | .embeddedlist | .embeddedset => true
  | _ => false

/-- The cast of a value, or of each item, where the definition names none. -/
def defaultCast? : PropertyType → Option CastKind
  | .string => some .string
  | .integer => some .integer
  | .boolean => some .boolean
  | .link | .linkset => some .recordId
  | .embedded => some .object
  | .embeddedlist | .embeddedset => none

end PropertyType

end RecordSchema
