import RecordSchema.Definition.Basic
import RecordSchema.Json.Object
import RecordSchema.Pattern
import RecordSchema.Validation.Failure

namespace RecordSchema

/-!
# Properties

One field of a class, made ready for use: its pattern is read, its cast is chosen
and the class that it links is known by name, or by position as soon as the
classes are linked.
-/

/-- What a value must satisfy beyond its type. -/
structure Constraints where
  nonEmpty : Bool := false
  choices : Option (List Json) := none
  pattern : Option Pattern := none
  min : Option Int64 := none
  max : Option Int64 := none
  minItems : Option UInt64 := none

namespace Constraints

/-- The cause as a list, where a test fails. -/
def failing (test : Bool) (kind : FailureKind) : List FailureKind :=
  if test then [] else [kind]

/-- Whether a value is neither an empty string nor an empty array. -/
def isNonEmpty : Json → Bool
  | .string text => !text.isEmpty
  | .array items => !items.isEmpty
  | _ => true

/-- Whether a string is matched; other values are not looked at. -/
def isMatched (pattern : Pattern) : Json → Bool
  | .string text => pattern.isMatch text
  | _ => true

/-- Whether an integer is not below a bound; other values are not looked at. -/
def isAtLeast (bound : Int64) (value : Json) : Bool :=
  match value.toInt64? with
  | some number => bound ≤ number
  | none => true

/-- Whether an integer is not above a bound; other values are not looked at. -/
def isAtMost (bound : Int64) (value : Json) : Bool :=
  match value.toInt64? with
  | some number => number ≤ bound
  | none => true

/-- Whether an array has enough items; other values are not looked at. -/
def hasItems (bound : UInt64) : Json → Bool
  | .array items => bound.toNat ≤ items.length
  | _ => true

/-- The causes for which a value violates the constraints, each on its own. -/
def violations (constraints : Constraints) (value : Json) : List FailureKind :=
  failing (!constraints.nonEmpty || isNonEmpty value) .empty ++
  constraints.choices.toList.flatMap (fun choices =>
    failing (choices.contains value) .notInChoices) ++
  constraints.pattern.toList.flatMap (fun pattern =>
    failing (isMatched pattern value) (.patternMismatch pattern.source)) ++
  constraints.min.toList.flatMap (fun bound =>
    failing (isAtLeast bound value) (.belowMinimum bound)) ++
  constraints.max.toList.flatMap (fun bound =>
    failing (isAtMost bound value) (.aboveMaximum bound)) ++
  constraints.minItems.toList.flatMap (fun bound =>
    failing (hasItems bound value) (.tooFewItems bound))

end Constraints

/-- Where the value of an absent property comes from. -/
inductive DefaultValue where
  | constant (value : Json)
  | generator (source : DefaultGenerator)
  | function (source : DefaultFunction)

/-- The values that generators give at each place of a record. -/
structure Draws where
  uuid : List Step → String
  timestamp : List Step → Int64

namespace Draws

/-- The value of a generator at a place. -/
def value (draws : Draws) (location : List Step) : DefaultGenerator → Json
  | .uuid => .string (draws.uuid location)
  | .timestamp => .ofInt64 (draws.timestamp location)

end Draws

namespace DefaultValue

/-- The default of a definition: a constant before a generator before a function. -/
def ofDefinition? (definition : PropertyDefinition) : Option DefaultValue :=
  (definition.default.map .constant).or
    ((definition.defaultGenerator.map .generator).or
      (definition.defaultFunction.map .function))

/-- The value for a place of the record so far, or the reason why there is none. -/
def resolve (default : DefaultValue) (draws : Draws) (location : List Step) (record : Record) :
    Except String Json :=
  match default with
  | .constant value => .ok value
  | .generator source => .ok (draws.value location source)
  | .function source => source.apply record

/-- Constants are compared by value, functions by identity. -/
def same : DefaultValue → DefaultValue → Bool
  | .constant left, .constant right => left == right
  | .generator left, .generator right => left == right
  | .function left, .function right => left.identity == right.identity
  | _, _ => false

end DefaultValue

/-- The class that a property refers to: a name, and its position once it is linked. -/
inductive LinkedClass where
  | pending (name : String)
  | resolved (id : Nat) (name : String)
  deriving Repr, DecidableEq

namespace LinkedClass

/-- The name of the class. -/
def name : LinkedClass → String
  | .pending name => name
  | .resolved _ name => name

/-- The position of the class, once it is linked. -/
def id? : LinkedClass → Option Nat
  | .pending _ => none
  | .resolved id _ => some id

/-- Whether the class is linked. -/
def isResolved (linked : LinkedClass) : Bool :=
  linked.id?.isSome

end LinkedClass

/-- One field of a class. -/
structure Property where
  name : String
  type : PropertyType
  linkedClass : Option LinkedClass := none
  mandatory : Bool := false
  nullable : Bool := true
  constraints : Constraints := {}
  cast : Option Cast := none
  default : Option DefaultValue := none
  generated : Bool := false
  readOnly : Bool := false
  description : Option String := none
  indexed : Bool := false
  fulltextIndexed : Bool := false
  synthesized : Bool := false
  declaredOn : String

namespace Property

/-- The constraints of a kind with the pattern read; nothing if it cannot be read. -/
def constraintsOf? : PropertyKind → Option Constraints
  | .string nonEmpty choices none =>
      some { nonEmpty, choices := choices.map fun texts => texts.map .string }
  | .string nonEmpty choices (some source) =>
      (Pattern.ofSource? source).map fun pattern =>
        { nonEmpty, choices := choices.map fun texts => texts.map .string, pattern := some pattern }
  | .integer min max choices =>
      some { min, max, choices := choices.map fun values => values.map .ofInt64 }
  | .linkset _ minItems | .embeddedlist _ minItems | .embeddedset _ minItems =>
      some { minItems }
  | .boolean | .link _ | .embedded _ => some {}

/-- The cast of a definition: an attached one before a named one before that of the type. -/
def castOf? (definition : PropertyDefinition) : Option Cast :=
  (definition.customCast.map .custom).or
    ((definition.cast.map .builtin).or (definition.kind.type.defaultCast?.map .builtin))

/-- The property that a class declares.  Linking sets its index flags later. -/
def ofDefinition (className : String) (definition : PropertyDefinition) :
    Except DefinitionError Property :=
  match constraintsOf? definition.kind with
  | none =>
      .error (.invalidPattern className definition.name "the pattern is not a regular expression")
  | some constraints =>
      .ok {
        name := definition.name
        type := definition.kind.type
        linkedClass := definition.kind.linkedClass?.map .pending
        mandatory := definition.mandatory
        nullable := definition.nullable
        constraints
        cast := castOf? definition
        default := DefaultValue.ofDefinition? definition
        generated := definition.generated
        readOnly := definition.readOnly
        description := definition.description
        declaredOn := className
      }

/-- The link to the other end of an edge, where the class declares none. -/
def endpoint (className name : String) : Property where
  name := name
  type := .link
  mandatory := true
  nullable := false
  cast := some (.builtin .recordId)
  synthesized := true
  declaredOn := className

/-- Whether a record must bring a value: nothing else provides one, and null is no value. -/
def isRequired (property : Property) : Bool :=
  property.mandatory && !property.nullable && property.default.isNone && !property.generated

/-- The property with its pending link resolved to the class of a number. -/
def resolveLink (target : Nat) (property : Property) : Property :=
  match property.linkedClass with
  | some (.pending linked) => { property with linkedClass := some (.resolved target linked) }
  | _ => property

/-- The property with the flag of an index set. -/
def markIndexed (fulltext : Bool) (property : Property) : Property :=
  if fulltext then
    { property with fulltextIndexed := true }
  else
    { property with indexed := true }

/-- The canonical form of one value or item. -/
def castItem (property : Property) (value : Json) : Except CastError Json :=
  match property.cast with
  | some cast => cast.apply value
  | none => .ok value

/-- The canonical forms of items, or the error of the first item that has none. -/
def castItems (property : Property) : List Json → Except CastError (List Json)
  | [] => .ok []
  | item :: items =>
      match property.castItem item with
      | .error error => .error error
      | .ok value =>
          match property.castItems items with
          | .error error => .error error
          | .ok values => .ok (value :: values)

/-- Items without those that equal an earlier one. -/
def dropRepeated (kept : List Json) : List Json → List Json
  | [] => []
  | item :: items =>
      if kept.contains item then
        dropRepeated kept items
      else
        item :: dropRepeated (kept ++ [item]) items

/-- The canonical form of a value; a collection is cast item by item. -/
def castValue (property : Property) (value : Json) : Except CastError Json :=
  if property.type.isCollection then
    match value with
    | .array items =>
        (property.castItems items).map fun values =>
          .array (if property.type.isSet then dropRepeated [] values else values)
    | other => .error ⟨property.type.name, other.typeName ++ " is not an array"⟩
  else
    property.castItem value

/-- Whether two optional parts are both absent or the same. -/
def sameOptional (same : α → α → Bool) : Option α → Option α → Bool
  | none, none => true
  | some left, some right => same left right
  | _, _ => false

/-- Equality of all parts; functions are compared by identity, patterns by source. -/
def same (left right : Property) : Bool :=
  left.name == right.name && left.type == right.type && left.linkedClass == right.linkedClass &&
  left.mandatory == right.mandatory && left.nullable == right.nullable &&
  left.constraints.nonEmpty == right.constraints.nonEmpty &&
  left.constraints.choices == right.constraints.choices &&
  sameOptional Pattern.same left.constraints.pattern right.constraints.pattern &&
  left.constraints.min == right.constraints.min &&
  left.constraints.max == right.constraints.max &&
  left.constraints.minItems == right.constraints.minItems &&
  sameOptional Cast.same left.cast right.cast &&
  sameOptional DefaultValue.same left.default right.default &&
  left.generated == right.generated && left.readOnly == right.readOnly &&
  left.description == right.description && left.indexed == right.indexed &&
  left.fulltextIndexed == right.fulltextIndexed && left.synthesized == right.synthesized &&
  left.declaredOn == right.declaredOn

/-- The members that describe the constraints. -/
def constraintMembers (constraints : Constraints) : List (String × Json) :=
  Json.optionalMember "nonEmpty" (if constraints.nonEmpty then some (.bool true) else none) ++
  Json.optionalMember "choices" (constraints.choices.map .array) ++
  Json.optionalMember "pattern" (constraints.pattern.map fun pattern => .string pattern.source) ++
  Json.optionalMember "min" (constraints.min.map .ofInt64) ++
  Json.optionalMember "max" (constraints.max.map .ofInt64) ++
  Json.optionalMember "minItems" (constraints.minItems.map fun bound => .ofNat bound.toNat)

/-- The constant that stands in for an absent value. -/
def constantDefault? (property : Property) : Option Json :=
  match property.default with
  | some (.constant value) => some value
  | _ => none

/-- The value that describes a property to tools. -/
def describe (property : Property) : Json :=
  .ofMembers
    ([("name", .string property.name), ("type", .string property.type.name),
      ("mandatory", .bool property.mandatory), ("nullable", .bool property.nullable),
      ("generated", .bool property.generated), ("readOnly", .bool property.readOnly),
      ("indexed", .bool property.indexed), ("fulltextIndexed", .bool property.fulltextIndexed),
      ("declaredOn", .string property.declaredOn)] ++
    Json.optionalMember "linkedClass"
      (property.linkedClass.map fun linked => .string linked.name) ++
    Json.optionalMember "cast" (property.cast.map fun cast => .string cast.name) ++
    constraintMembers property.constraints ++
    Json.optionalMember "default" property.constantDefault? ++
    Json.optionalMember "description" (property.description.map .string))

end Property

end RecordSchema
