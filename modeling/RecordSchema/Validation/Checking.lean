import RecordSchema.Log.Event
import RecordSchema.Registry.Basic

namespace RecordSchema

/-!
# Checking records

A record of a class is brought into its canonical form in passes.  Values that
are there are cast, absent ones take their defaults, and the constraints are
checked on what comes out.  Every failure is collected, so a client learns of all
of them at once.

Records embedded in a value are checked against the class that the property
links.  A budget of levels bounds their nesting; the nesting of the record itself
is enough as long as no cast adds to it, and there is more of it where one does.
-/

namespace Validation

/-- Whether a record is new or a change of a stored one. -/
inductive WriteMode where
  | create
  | update
  deriving Repr, DecidableEq

/-- How a record is checked. -/
structure Options where
  mode : WriteMode := .create
  ignoreExtra : Bool := false
  deriving Repr, DecidableEq

/-- A record as far as it could be brought into its canonical form, and all failures. -/
structure Outcome where
  record : Record
  failures : List Failure

/-- The value of one property, if it has one, and the failures found in it. -/
structure Verdict where
  value : Option Json
  failures : List Failure

namespace Verdict

/-- A value without failures. -/
def accept (value : Json) : Verdict :=
  ⟨some value, []⟩

/-- One failure and no value. -/
def refuse (steps : List Step) (value : Json) (kind : FailureKind) : Verdict :=
  ⟨none, [⟨.part steps, value, kind⟩]⟩

/-- A value that counts only without failures. -/
def unlessFailed (value : Json) (failures : List Failure) : Verdict :=
  ⟨if failures.isEmpty then some value else none, failures⟩

end Verdict

/-- The failures of keys that the class does not declare. -/
def unexpected (options : Options) (model : ClassModel) (steps : List Step) (input : Record) :
    List Failure :=
  if options.ignoreExtra then
    []
  else
    (input.entries.filter fun entry => (model.property? entry.1).isNone).map fun entry =>
      ⟨.part (steps ++ [.key entry.1]), entry.2, .unexpectedAttribute⟩

/-- The failures of items that are no records, and the outcomes of those that are. -/
def checkItems (check : List Step → Record → Outcome) (steps : List Step) (position : Nat) :
    List Json → List Json × List Failure
  | [] => ([], [])
  | item :: items =>
      let here := steps ++ [.index position]
      let (checked, failures) := checkItems check steps (position + 1) items
      match item with
      | .object members =>
          let outcome := check here (.ofMembers members)
          (outcome.record.toJson :: checked, outcome.failures ++ failures)
      | other => (checked, ⟨.part here, other, .cast (Cast.notAnObject other)⟩ :: failures)

/-- The records in a cast value, checked against the class that the property links. -/
def checkNested (check : ClassModel → List Step → Record → Outcome) (registry : Registry)
    (property : Property) (steps : List Step) (value : Json) : Verdict :=
  if !property.type.isEmbedded then
    .accept value
  else
    match registry.linkedClass? property with
    | none => .accept value
    | some model =>
        match property.type, value with
        | .embedded, .object members =>
            let outcome := check model steps (.ofMembers members)
            .unlessFailed outcome.record.toJson outcome.failures
        | _, .array items =>
            let (checked, failures) := checkItems (check model) steps 0 items
            .unlessFailed (.array checked) failures
        | _, other => .accept other

/-- The value of a property that the record brings. -/
def checkPresent (check : ClassModel → List Step → Record → Outcome) (registry : Registry)
    (options : Options) (steps : List Step) (property : Property) (raw : Json) : Verdict :=
  if options.mode = .update && property.readOnly then
    .refuse steps raw .readOnly
  else if raw.isNull then
    if property.nullable then .accept .null else .refuse steps .null .nullNotAllowed
  else
    match property.castValue raw with
    | .error error => .refuse steps raw (.cast error)
    | .ok value => checkNested check registry property steps value

/-- The verdicts on the properties that the record brings, by name. -/
def present (check : ClassModel → List Step → Record → Outcome) (registry : Registry)
    (options : Options) (model : ClassModel) (steps : List Step) (input : Record) :
    List (String × Verdict) :=
  model.effective.entries.filterMap fun entry =>
    (input.get? entry.1).map fun raw =>
      (entry.1, checkPresent check registry options (steps ++ [.key entry.1]) entry.2 raw)

/-- The values of verdicts that have one. -/
def acceptedRecord (verdicts : List (String × Verdict)) : Record :=
  .ofList (verdicts.filterMap fun entry => entry.2.value.map fun value => (entry.1, value))

/-- The value of an absent property that has no default. -/
def withoutDefault (steps : List Step) (property : Property) : Verdict :=
  if !property.mandatory then
    ⟨none, []⟩
  else if property.nullable then
    .accept .null
  else
    ⟨none, [.missing (.part steps)]⟩

/-- The value of an absent property: its default in canonical form, unless that is null. -/
def checkAbsent (draws : Draws) (steps : List Step) (property : Property) (record : Record) :
    Verdict :=
  match property.default with
  | none => withoutDefault steps property
  | some default =>
      match default.resolve draws steps record with
      | .error reason => .refuse steps .null (.defaultFailed reason)
      | .ok value =>
          if value.isNull then
            withoutDefault steps property
          else
            match property.castValue value with
            | .error error => .refuse steps value (.cast error)
            | .ok cast => .accept cast

/-- The outcome with the value of one more absent property. -/
def addAbsent (draws : Draws) (steps : List Step) (input : Record) (outcome : Outcome)
    (entry : String × Property) : Outcome :=
  if input.contains entry.1 || entry.2.generated then
    outcome
  else
    let verdict := checkAbsent draws (steps ++ [.key entry.1]) entry.2 outcome.record
    let record :=
      match verdict.value with
      | some value => outcome.record.insert entry.1 value
      | none => outcome.record
    ⟨record, outcome.failures ++ verdict.failures⟩

/-- A new record with the values of all absent properties; a changed one is left as it is. -/
def addDefaults (draws : Draws) (options : Options) (model : ClassModel) (steps : List Step)
    (input record : Record) : Outcome :=
  match options.mode with
  | .update => ⟨record, []⟩
  | .create => model.effective.entries.foldl (addAbsent draws steps input) ⟨record, []⟩

/-- The constraints that the value of one property violates. -/
def violations (model : ClassModel) (steps : List Step) (entry : String × Json) : List Failure :=
  match model.property? entry.1 with
  | none => []
  | some property =>
      if property.generated || entry.2.isNull then
        []
      else
        (property.constraints.violations entry.2).map fun kind =>
          ⟨.part (steps ++ [.key entry.1]), entry.2, kind⟩

/-- All passes over one record, with a given check for the records embedded in it. -/
def checkWith (check : ClassModel → List Step → Record → Outcome) (registry : Registry)
    (draws : Draws) (options : Options) (model : ClassModel) (steps : List Step)
    (input : Record) : Outcome :=
  let verdicts := present check registry options model steps input
  let completed := addDefaults draws options model steps input (acceptedRecord verdicts)
  ⟨completed.record,
    unexpected options model steps input ++ verdicts.flatMap (fun entry => entry.2.failures) ++
      completed.failures ++ completed.record.entries.flatMap (violations model steps)⟩

/-- A record checked against a class, at most the given number of levels deep. -/
def checkRecord (registry : Registry) (draws : Draws) (options : Options) :
    (levels : Nat) → ClassModel → List Step → Record → Outcome
  | 0, _, steps, input => ⟨.empty, [⟨.part steps, input.toJson, .nestedTooDeep⟩]⟩
  | levels + 1, model, steps, input =>
      checkWith (checkRecord registry draws options levels) registry draws options model steps input

/-- The outcome, unless some record stands deeper than the levels reach. -/
def Outcome.settled? (outcome : Outcome) : Option Outcome :=
  if outcome.failures.any fun failure => failure.kind == .nestedTooDeep then
    none
  else
    some outcome

/-- A record checked with the least number of levels that is enough, from a given one on. -/
def Options.checkFrom? (options : Options) (registry : Registry) (draws : Draws)
    (model : ClassModel) (steps : List Step) (input : Record) (levels : Nat) : Option Outcome :=
  match (checkRecord registry draws options levels model steps input).settled? with
  | some outcome => some outcome
  | none => options |>.checkFrom? registry draws model steps input (levels + 1)
partial_fixpoint

/--
A record checked however deep the records in it are.  There is no outcome if casts nest
their values without end.
-/
def check? (registry : Registry) (draws : Draws) (options : Options) (model : ClassModel)
    (steps : List Step) (input : Record) : Option Outcome :=
  options.checkFrom? registry draws model steps input input.toJson.objectDepth

/-- The canonical record, or all failures of the record. -/
def validateRecord (registry : Registry) (draws : Draws) (options : Options)
    (model : ClassModel) (input : Record) : Except Rejection Record :=
  match check? registry draws options model [] input with
  | none => .error ⟨model.name, [⟨.part [], input.toJson, .nestedTooDeep⟩]⟩
  | some outcome =>
      if outcome.failures.isEmpty then
        .ok outcome.record
      else
        .error ⟨model.name, outcome.failures⟩

/-- A rejection for a single failure of the record as a whole. -/
def rejectWhole (className : String) (value : Json) (kind : FailureKind) : Rejection :=
  ⟨className, [⟨.wholeRecord, value, kind⟩]⟩

/-- Why no record of a class can be created on its own, if none can. -/
def creationObstacle? (model : ClassModel) : Option FailureKind :=
  if model.isAbstract then
    some .abstractClass
  else if model.embedded then
    some .embeddedClass
  else
    none

/-- The canonical form of a value as a record of a named class that stands on its own. -/
def validate (registry : Registry) (draws : Draws) (options : Options) (className : String)
    (input : Json) : Except Rejection Record :=
  match registry.get? className with
  | none => .error (rejectWhole className (.string className) .unknownClass)
  | some model =>
      match (if options.mode = .create then creationObstacle? model else none) with
      | some kind => .error (rejectWhole className (.string className) kind)
      | none =>
          match input with
          | .object members =>
              validateRecord registry draws options model (.ofMembers members)
          | other =>
              .error (rejectWhole className other (.cast (Cast.notAnObject other)))

/-- The event of a rejected record. -/
def rejected (rejection : Rejection) : Event :=
  .recordRejected rejection.className rejection.failures.length

/-- What the answer to a client logs. -/
def events : Except Rejection Record → List Event
  | .ok _ => []
  | .error rejection => [rejected rejection]

end Validation

end RecordSchema
