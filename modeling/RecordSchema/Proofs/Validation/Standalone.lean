import RecordSchema.Proofs.Validation.Acceptance
import RecordSchema.Proofs.Validation.Locations
import RecordSchema.Proofs.Validation.Settling

namespace RecordSchema

/-!
# Embedded records as records on their own

A record that is embedded in a value is checked as it is where it stands alone.  Its
failures are reported below the path of the value, and the value is stored, with what the
records in it become, if nothing in it fails.  A value that may not be written is refused
before anything in it is looked at.
-/

open Registry (compile)

namespace Location

variable
  {base rest : List Step}
  {path name : String}

theorem joinPath_of_ne
    (notEmpty : path ≠ "") :
    joinPath path name = path ++ "." ++ name := by
  rw [joinPath, if_neg (by simpa using notEmpty)]

/-- The names of steps, each behind a dot. -/
def dotted (steps : List Step) : List Char :=
  steps.flatMap fun step => '.' :: step.name.toList

theorem dotted_cons
    {step : Step} :
    dotted (step :: rest) = '.' :: (step.name.toList ++ dotted rest) := by
  simp [dotted]

/-- A path is prolonged by the names of further steps behind dots. -/
theorem toList_foldl_joinPath
    (notEmpty : path ≠ "") :
    (rest.foldl (fun path step => joinPath path step.name) path).toList =
      path.toList ++ dotted rest := by
  induction rest generalizing path with
  | nil =>
      simp [dotted]
  | cons first rest inductionHypothesis =>
      have longer : path ++ "." ++ first.name ≠ "" := by
        simp
      rw [List.foldl_cons, joinPath_of_ne notEmpty, inductionHypothesis longer, dotted_cons]
      simp

/-- A path is prolonged behind what it begins with. -/
theorem foldl_joinPath
    (start : String)
    (notEmpty : path ≠ "") :
    rest.foldl (fun path step => joinPath path step.name) (start ++ path) =
      start ++ rest.foldl (fun path step => joinPath path step.name) path := by
  have longer : start ++ path ≠ "" := by
    simp [notEmpty]
  rw [← String.toList_inj, toList_foldl_joinPath longer, String.toList_append,
    String.toList_append, toList_foldl_joinPath notEmpty, List.append_assoc]

/-- The path below a base, unless an empty name hides the separator. -/
theorem pathOf_append
    (notEmpty : pathOf base ≠ "")
    (named : rest = [] ∨ name ≠ "") :
    pathOf (base ++ .key name :: rest) =
      pathOf base ++ "." ++ pathOf (.key name :: rest) := by
  have below :
      pathOf (base ++ .key name :: rest) =
        rest.foldl (fun path step => joinPath path step.name) (pathOf base ++ "." ++ name) := by
    rw [pathOf, List.foldl_append, List.foldl_cons]
    change rest.foldl _ (joinPath (pathOf base) name) = _
    rw [joinPath_of_ne notEmpty]
  rw [below]
  rcases named with rfl | isNamed
  · rfl
  · exact foldl_joinPath (pathOf base ++ ".") isNamed

theorem pathOf_key_ne
    (isNamed : name ≠ "") :
    pathOf (base ++ [.key name]) ≠ "" := by
  rw [pathOf, List.foldl_append]
  change joinPath (pathOf base) name ≠ ""
  rw [joinPath]
  split <;> simp [isNamed]

theorem pathOf_index
    (notEmpty : pathOf base ≠ "")
    (position : Nat) :
    pathOf (base ++ [.index position]) = pathOf base ++ "." ++ s!"{position}" := by
  rw [pathOf, List.foldl_append]
  exact joinPath_of_ne notEmpty

end Location

/-- A failure as it is reported: the path of a value, the value and the cause. -/
structure Report where
  path : String
  value : Json
  kind : FailureKind

/-- The report of a failure. -/
def Failure.report (failure : Failure) : Report :=
  ⟨failure.location.path, failure.value, failure.kind⟩

/-- The report with its path below another one. -/
def Report.below (path : String) (report : Report) : Report :=
  { report with path := path ++ "." ++ report.path }

/-- A registry in which no property has an empty name. -/
def Registry.IsNamed (registry : Registry) : Prop :=
  ∀ model ∈ registry.classes, model.effective.contains "" = false

theorem Registry.isNamed_of_all
    {registry : Registry}
    (tested : (registry.classes.all fun model => !model.effective.contains "") = true) :
    registry.IsNamed := by
  intro model member
  simpa using List.all_eq_true.mp tested model member

namespace Validation

variable
  {check : ClassModel → List Step → Record → Outcome}
  {registry : Registry}
  {draws : Draws}
  {options : Options}
  {model linked : ClassModel}
  {steps base : List Step}
  {input : Record}
  {name : String}
  {property : Property}
  {levels : Nat}
  {failure : Failure}
  {outcome : Outcome}

/-- The report of a failure below a base is below the path of the base. -/
theorem report_under
    (unnamed : model.effective.contains "" = false)
    (notEmpty : Location.pathOf base ≠ "")
    (standsIn : StandsIn model [] failure.location) :
    (failure.under base).report = failure.report.below (Location.pathOf base) := by
  obtain ⟨name, rest, isPlace, atKeyOrDeclared⟩ := standsIn
  have named : rest = [] ∨ name ≠ "" := by
    refine atKeyOrDeclared.imp_right ?_
    rintro declared rfl
    rw [unnamed] at declared
    cases declared
  rw [Failure.report, Failure.report, Report.below, Failure.under, isPlace]
  simp only [Location.under, Location.path, List.nil_append,
    Location.pathOf_append notEmpty named]

/-- The failures that a record is rejected for. -/
def failuresOf : Except Rejection Record → List Failure
  | .ok _ => []
  | .error rejection => rejection.failures

/-- What the answer to a record reports. -/
def reportsOf (answer : Except Rejection Record) : List Report :=
  (failuresOf answer).map Failure.report

/--
The reports on a value that is to be a record of a class: those on the record that stands
alone, below the path of the value.
-/
def recordReports (registry : Registry) (draws : Draws) (options : Options)
    (linked : ClassModel) (place : List Step) : Json → List Report
  | .object members =>
      (reportsOf
        (validateRecord registry (draws.under place) options linked (.ofMembers members))).map
          (Report.below (Location.pathOf place))
  | other => [⟨Location.pathOf place, other, .cast (Cast.notAnObject other)⟩]

/-- What a value becomes as a record of a class that stands alone, if it is accepted. -/
def recordForm? (registry : Registry) (draws : Draws) (options : Options)
    (linked : ClassModel) (place : List Step) : Json → Option Json
  | .object members =>
      (validateRecord registry (draws.under place) options linked
        (.ofMembers members)).toOption.map Record.toJson
  | _ => none

/-- The reports on the records in a value: on a single one, or on each item of an array. -/
def valueReports (registry : Registry) (draws : Draws) (options : Options)
    (linked : ClassModel) (place : List Step) : Json → List Report
  | .object members => recordReports registry draws options linked place (.object members)
  | .array items =>
      items.zipIdx.flatMap fun item =>
        recordReports registry draws options linked (place ++ [.index item.2]) item.1
  | _ => []

/-- A value with what the records in it become, if all of them are accepted. -/
def valueForm? (registry : Registry) (draws : Draws) (options : Options)
    (linked : ClassModel) (place : List Step) : Json → Option Json
  | .object members => recordForm? registry draws options linked place (.object members)
  | .array items =>
      (items.zipIdx.mapM fun item =>
        recordForm? registry draws options linked (place ++ [.index item.2]) item.1).map .array
  | other => some other

theorem reportsOf_validateRecord
    (found : check? registry draws options model [] input = some outcome) :
    reportsOf (validateRecord registry draws options model input) =
      outcome.failures.map Failure.report := by
  rw [reportsOf, validateRecord, found]
  dsimp only
  split
  · rename_i clean
    rw [List.isEmpty_iff.mp clean, failuresOf]
  · rfl

theorem toOption_validateRecord
    (found : check? registry draws options model [] input = some outcome) :
    (validateRecord registry draws options model input).toOption =
      if outcome.failures.isEmpty then some outcome.record else none := by
  rw [validateRecord, found]
  dsimp only
  split <;> rfl

/-- The outcome of a record at a base is the one of the record alone, below the base. -/
theorem check?_eq_under
    (keepsDepth : registry.Every Property.KeepsDepth)
    (member : model ∈ registry.classes)
    (draws : Draws)
    (options : Options)
    (base : List Step)
    (input : Record) :
    ∃ alone,
      check? registry (draws.under base) options model [] input = some alone ∧
        check? registry draws options model base input = some (alone.under base) := by
  have enough := Nat.le_refl input.toJson.objectDepth
  refine ⟨_, check?_of_keepsDepth keepsDepth member enough, ?_⟩
  rw [check?_of_keepsDepth keepsDepth member enough,
    checkRecord_eq_under keepsDepth member enough enough]

theorem standsIn_of_mem_check?
    (found : check? registry draws options model steps input = some outcome)
    (member : failure ∈ outcome.failures) :
    StandsIn model steps failure.location := by
  obtain ⟨levels, rfl, settled⟩ := check?_eq_some_iff.mp found
  rcases descends_checkRecord _ _ _ failure member with ⟨tooDeep, _⟩ | standsIn
  · exact absurd tooDeep (settled failure member)
  · exact standsIn

/-- All failures of a record at a base are reported below the path of the base. -/
theorem reports_under
    (unnamed : model.effective.contains "" = false)
    (notEmpty : Location.pathOf base ≠ "")
    (found : check? registry draws options model [] input = some outcome) :
    (outcome.under base).failures.map Failure.report =
      (outcome.failures.map Failure.report).map (Report.below (Location.pathOf base)) := by
  rw [Outcome.under, List.map_map, List.map_map]
  refine List.map_congr_left fun failure member => ?_
  exact report_under unnamed notEmpty (standsIn_of_mem_check? found member)

/-- Only a property for a single record casts something to an object. -/
theorem embedded_of_castValue
    {raw : Json}
    {members : List (String × Json)}
    (isEmbedded : property.type.isEmbedded = true)
    (accepted : property.castValue raw = .ok (.object members)) :
    property.type = .embedded := by
  cases isCollection : property.type.isCollection with
  | true =>
      obtain ⟨_, _, _, isArray⟩ := Property.exists_of_castValue_collection isCollection accepted
      cases isArray
  | false =>
      cases type : property.type <;>
        simp_all [PropertyType.isEmbedded, PropertyType.isCollection]

/-- Items have a form if neither the first one nor the rest fails. -/
private theorem ifClean_cons
    {first rest : List Failure}
    {value : Json}
    {values : List Json} :
    (if (first ++ rest).isEmpty then some (value :: values) else none) =
      (if first.isEmpty then some value else none).bind fun value =>
        (if rest.isEmpty then some values else none).bind fun values =>
          some (value :: values) := by
  cases first <;> cases rest <;> rfl

section Alone

variable
  (keepsDepth : registry.Every Property.KeepsDepth)
  (named : registry.IsNamed)
  (member : linked ∈ registry.classes)
  (draws : Draws)
  (options : Options)

include keepsDepth named member

/-- A record in a value has the reports and the form of the record that stands alone. -/
theorem check_eq_alone
    {place : List Step}
    {members : List (String × Json)}
    (notEmpty : Location.pathOf place ≠ "")
    (enough : (Json.object members).objectDepth ≤ levels) :
    (checkRecord registry draws options levels linked place
          (.ofMembers members)).failures.map Failure.report =
        recordReports registry draws options linked place (.object members) ∧
      (if (checkRecord registry draws options levels linked place
            (.ofMembers members)).failures.isEmpty then
          some (checkRecord registry draws options levels linked place
            (.ofMembers members)).record.toJson
        else
          none) =
        recordForm? registry draws options linked place (.object members) := by
  have recordEnough := Nat.le_trans (Record.objectDepth_ofMembers_le members) enough
  obtain ⟨alone, aloneFound, atPlace⟩ :=
    check?_eq_under keepsDepth member draws options place (.ofMembers members)
  have isUnder :
      checkRecord registry draws options levels linked place (.ofMembers members) =
        alone.under place :=
    Option.some.inj ((check?_of_keepsDepth keepsDepth member recordEnough).symm.trans atPlace)
  rw [isUnder, recordReports, recordForm?, reportsOf_validateRecord aloneFound,
    toOption_validateRecord aloneFound,
    reports_under (named linked member) notEmpty aloneFound]
  refine ⟨rfl, ?_⟩
  cases alone with
  | mk record failures => cases failures <;> rfl

/-- The items of an array have the reports and the forms of records that stand alone. -/
theorem checkItems_eq_alone
    {place : List Step}
    {items : List Json}
    (notEmpty : Location.pathOf place ≠ "")
    (enough : Json.objectDepthItems items ≤ levels)
    (position : Nat) :
    (checkItems (checkRecord registry draws options levels linked) place position
          items).2.map Failure.report =
        (items.zipIdx position).flatMap (fun item =>
          recordReports registry draws options linked (place ++ [.index item.2]) item.1) ∧
      (if (checkItems (checkRecord registry draws options levels linked) place position
            items).2.isEmpty then
          some (checkItems (checkRecord registry draws options levels linked) place position
            items).1
        else
          none) =
        (items.zipIdx position).mapM fun item =>
          recordForm? registry draws options linked (place ++ [.index item.2]) item.1 := by
  induction items generalizing position with
  | nil =>
      exact ⟨rfl, rfl⟩
  | cons first rest inductionHypothesis =>
      have bounds := Json.objectDepthItems_le_iff.mp enough
      have restEnough : Json.objectDepthItems rest ≤ levels :=
        Json.objectDepthItems_le_iff.mpr fun item inRest =>
          bounds item (List.mem_cons_of_mem _ inRest)
      obtain ⟨restReports, restForms⟩ :=
        inductionHypothesis restEnough (position + 1)
      rw [List.zipIdx_cons, List.flatMap_cons, List.mapM_cons, ← restReports, ← restForms]
      have hereNotEmpty : Location.pathOf (place ++ [.index position]) ≠ "" := by
        rw [Location.pathOf_index notEmpty]
        simp
      cases first with
      | object members =>
          obtain ⟨firstReports, firstForm⟩ :=
            check_eq_alone keepsDepth named member draws options hereNotEmpty
              (bounds _ List.mem_cons_self)
          dsimp only
          rw [← firstReports, ← firstForm, checkItems]
          dsimp only
          rw [List.map_append]
          exact ⟨rfl, ifClean_cons⟩
      | _ => exact ⟨rfl, rfl⟩

/-- A value that holds records has the reports and the form of records that stand alone. -/
theorem checkNested_eq_alone
    {place : List Step}
    {raw value : Json}
    (isEmbedded : property.type.isEmbedded = true)
    (found : registry.linkedClass? property = some linked)
    (accepted : property.castValue raw = .ok value)
    (notEmpty : Location.pathOf place ≠ "")
    (enough : value.objectDepth ≤ levels) :
    (checkNested (checkRecord registry draws options levels) registry property place
          value).failures.map Failure.report =
        valueReports registry draws options linked place value ∧
      (checkNested (checkRecord registry draws options levels) registry property place
          value).value =
        valueForm? registry draws options linked place value := by
  cases value with
  | object members =>
      have type := embedded_of_castValue isEmbedded accepted
      rw [checkNested_object type found]
      exact check_eq_alone keepsDepth named member draws options notEmpty enough
  | array items =>
      rw [Json.objectDepth] at enough
      obtain ⟨reports, forms⟩ :=
        checkItems_eq_alone keepsDepth named member draws options notEmpty enough 0
      rw [checkNested_array isEmbedded found, valueReports, valueForm?, ← forms]
      refine ⟨reports, ?_⟩
      rw [Verdict.unlessFailed]
      split <;> rfl
  | _ =>
      rw [checkNested_of_not_holdsRecords]
      · exact ⟨rfl, rfl⟩
      · rintro ⟨_, _, ⟨_, isArray⟩ | ⟨_, _, isObject⟩⟩
        · cases isArray
        · cases isObject

end Alone

/-- A single record violates no constraint of a property that embeds it. -/
theorem violations_object
    {members : List (String × Json)}
    (written : property.IsWritten)
    (isEmbedded : property.type.isEmbedded = true)
    (has : model.effective.get? name = some property) :
    violations model steps (name, .object members) = [] := by
  obtain ⟨minItems, shape⟩ := written.constraints isEmbedded
  refine violations_eq_nil_iff.mpr fun other otherHas _ _ => ?_
  cases has.symm.trans otherHas
  rw [shape, Constraints.satisfied_minItems_iff]
  intro bound items _ isArray
  cases isArray

theorem violations_valueForm?_object
    {members : List (String × Json)}
    {place : List Step}
    (written : property.IsWritten)
    (isEmbedded : property.type.isEmbedded = true)
    (has : model.effective.get? name = some property) :
    ((valueForm? registry draws options linked place (.object members)).toList.flatMap fun form =>
      violations model steps (name, form)) = [] := by
  rw [List.flatMap_eq_nil_iff]
  intro form isForm
  obtain ⟨record, _, rfl⟩ := Option.map_eq_some_iff.mp (Option.mem_toList.mp isForm)
  exact violations_object written isEmbedded has

/--
What an outcome has of a value, cast for a property that links a class: the records in it
as they are where they stand alone, and the violations of what they become.
-/
structure EmbedsAlone
    (registry : Registry)
    (draws : Draws)
    (options : Options)
    (model linked : ClassModel)
    (steps : List Step)
    (name : String)
    (value : Json)
    (outcome : Outcome) : Prop where
  within :
    (outcome.failures.filter fun failure =>
        failure.location.Within (steps ++ [.key name])).map Failure.report =
      valueReports registry draws options linked (steps ++ [.key name]) value ++
        ((valueForm? registry draws options linked (steps ++ [.key name])
          value).toList.flatMap fun form => violations model steps (name, form)).map
            Failure.report
  below :
    (outcome.failures.filter fun failure =>
        failure.location.Below (steps ++ [.key name])).map Failure.report =
      valueReports registry draws options linked (steps ++ [.key name]) value
  single :
    ∀ members,
      value = .object members →
      (outcome.failures.filter fun failure =>
          failure.location.Within (steps ++ [.key name])).map Failure.report =
        recordReports registry draws options linked (steps ++ [.key name]) value
  form :
    outcome.record.get? name =
      valueForm? registry draws options linked (steps ++ [.key name]) value
  stored :
    outcome.record.contains name = true ↔
      valueReports registry draws options linked (steps ++ [.key name]) value = []

/-- What a record brings of a writable property that links a class stands alone in it. -/
theorem embedsAlone_checkWith
    {raw value : Json}
    (written : registry.Every Property.IsWritten)
    (named : registry.IsNamed)
    (member : model ∈ registry.classes)
    (has : model.effective.get? name = some property)
    (isEmbedded : property.type.isEmbedded = true)
    (found : registry.linkedClass? property = some linked)
    (writable : options.mode = .update → property.readOnly = false)
    (brought : input.get? name = some raw)
    (isPresent : raw.isNull = false)
    (accepted : property.castValue raw = .ok value)
    (enough : value.objectDepth ≤ levels) :
    EmbedsAlone registry draws options model linked steps name value
      (checkWith (checkRecord registry draws options levels) registry draws options model steps
        input) := by
  have keepsDepth := Registry.keepsDepth_of_isWritten written
  have linkedMember := Registry.mem_classes_of_linkedClass? found
  have isNamed : name ≠ "" := by
    rintro rfl
    have unnamed := named model member
    rw [SortedMap.contains_eq_false_iff, has] at unnamed
    cases unnamed
  have placeNotEmpty : Location.pathOf (steps ++ [.key name]) ≠ "" :=
    Location.pathOf_key_ne isNamed
  have settled :
      Settled (checkNested (checkRecord registry draws options levels) registry property
        (steps ++ [.key name]) value).failures :=
    settled_checkNested_of_keepsDepth keepsDepth enough
  obtain ⟨reports, isForm⟩ :=
    checkNested_eq_alone keepsDepth named linkedMember draws options isEmbedded found accepted
      placeNotEmpty enough
  have within :
      ((checkWith (checkRecord registry draws options levels) registry draws options model steps
          input).failures.filter fun failure =>
            failure.location.Within (steps ++ [.key name])).map Failure.report =
        valueReports registry draws options linked (steps ++ [.key name]) value ++
          ((valueForm? registry draws options linked (steps ++ [.key name])
            value).toList.flatMap fun form => violations model steps (name, form)).map
              Failure.report := by
    rw [filter_within_of_castValue has brought writable isPresent accepted descends_checkRecord,
      isForm, List.map_append, reports]
  refine
    { within := within
      below := ?_
      single := ?_
      form := ?_
      stored := ?_ }
  · rw [filter_below_of_castValue has brought writable isPresent accepted descends_checkRecord
      settled, reports]
  · rintro members rfl
    rw [within,
      violations_valueForm?_object (written model member name property has) isEmbedded has,
      List.map_nil, List.append_nil, valueReports]
  · rw [get?_checkWith_of_castValue has brought writable isPresent accepted, isForm]
  · rw [SortedMap.contains, get?_checkWith_of_castValue has brought writable isPresent accepted,
      isSome_value_checkNested_iff, ← reports, List.map_eq_nil_iff]

/-- A value that may not be written is refused as a whole and not stored. -/
theorem refused_checkWith
    {raw : Json}
    (has : model.effective.get? name = some property)
    (updates : options.mode = .update)
    (readOnly : property.readOnly = true)
    (brought : input.get? name = some raw)
    (descends : Descends check) :
    ((checkWith check registry draws options model steps input).failures.filter fun failure =>
        failure.location.Within (steps ++ [.key name])) =
        [⟨.part (steps ++ [.key name]), raw, .readOnly⟩] ∧
      (checkWith check registry draws options model steps input).record.get? name = none := by
  have refused :
      checkPresent check registry options (steps ++ [.key name]) property raw =
        .refuse (steps ++ [.key name]) raw .readOnly := by
    rw [checkPresent, if_pos (by simp [updates, readOnly])]
  rw [filter_within_of_present descends has brought, get?_checkWith_of_present has brought,
    refused]
  exact ⟨rfl, rfl⟩

/--
A record is checked at a place as it is where it stands alone, with its failures reported
below the path of that place.  So what a record brings of a property that links a class is
reported and stored as the records in it are on their own, and the value is stored exactly
when nothing in it fails; but a value that a change may not write is refused instead.
-/
theorem embedded_checked_alone
    {sets : List DefinitionSet}
    (loaded : ∀ set ∈ sets, set.IsLoaded)
    (compiled : (compile sets).result = .ok registry)
    (named : registry.IsNamed) :
    (∀ model ∈ registry.classes, ∀ draws options base input,
      Location.pathOf base ≠ "" →
      ∃ alone nested,
        check? registry (draws.under base) options model [] input = some alone ∧
          check? registry draws options model base input = some nested ∧
            nested.record = alone.record ∧
              nested.failures.map Failure.report =
                (alone.failures.map Failure.report).map
                  (Report.below (Location.pathOf base))) ∧
      ∀ model ∈ registry.classes, ∀ draws options steps input name property linked raw,
        model.effective.get? name = some property →
        property.type.isEmbedded = true →
        registry.linkedClass? property = some linked →
        input.get? name = some raw →
        ∃ outcome,
          check? registry draws options model steps input = some outcome ∧
            (∀ value,
              (options.mode = .update → property.readOnly = false) →
              raw.isNull = false →
              property.castValue raw = .ok value →
              EmbedsAlone registry draws options model linked steps name value outcome) ∧
              (options.mode = .update →
                property.readOnly = true →
                (outcome.failures.filter fun failure =>
                    failure.location.Within (steps ++ [.key name])) =
                    [⟨.part (steps ++ [.key name]), raw, .readOnly⟩] ∧
                  outcome.record.get? name = none) := by
  have written := Registry.isWritten_of_compile loaded compiled
  have keepsDepth := Registry.keepsDepth_of_isWritten written
  constructor
  · intro model member draws options base input notEmpty
    obtain ⟨alone, aloneFound, atBase⟩ :=
      check?_eq_under keepsDepth member draws options base input
    exact ⟨alone, alone.under base, aloneFound, atBase, rfl,
      reports_under (named model member) notEmpty aloneFound⟩
  · intro model member draws options steps input name property linked raw has isEmbedded found
      brought
    have enough : input.toJson.objectDepth ≤ input.toJson.objectDepth + 1 := by
      omega
    refine ⟨_, check?_of_keepsDepth keepsDepth member enough, ?_, ?_⟩
    · intro value writable isPresent accepted
      have castDepth :=
        (written model member name property has).builtin.keepsDepth raw value accepted
      have rawDepth := Record.objectDepth_lt_of_get? brought
      exact embedsAlone_checkWith written named member has isEmbedded found writable brought
        isPresent accepted (by omega)
    · intro updates readOnly
      exact refused_checkWith has updates readOnly brought descends_checkRecord

/-- A document of tenants, who keep their address and list at least two earlier ones. -/
def tenantDocument : Json.Document :=
  .ofJson
    (.object
      [("Address",
        .object
          [("embedded", .bool true),
            ("properties",
              .array
                [.object [("name", .string "street"), ("type", .string "string")],
                  .object [("name", .string "floor"), ("type", .string "integer")]])]),
        ("Tenant",
          .object
            [("properties",
              .array
                [.object
                  [("name", .string "address"), ("type", .string "embedded"),
                    ("linkedClass", .string "Address"), ("readOnly", .bool true)],
                  .object
                    [("name", .string "earlier"), ("type", .string "embeddedlist"),
                      ("linkedClass", .string "Address"), ("minItems", .ofInt 2)]])])])

/-- An address. -/
def mainStreet : List (String × Json) :=
  [("street", .string "Main")]

/-- An address on no floor that is a number. -/
def upstairs : List (String × Json) :=
  [("floor", .string "upstairs")]

/-- A tenant with one earlier address. -/
def tenant : Record :=
  .ofList [("address", .object mainStreet), ("earlier", .array [.object upstairs])]

private theorem tenant_observed :
    ((DefinitionSet.ofDocument? tenantDocument).bind fun set =>
      (compile [set]).result.toOption.bind fun registry =>
        (registry.get? "Tenant").bind fun model =>
          (model.effective.get? "earlier").bind fun earlier =>
            (registry.linkedClass? earlier).map fun linked =>
              (registry.classes.all fun model => !model.effective.contains "",
                earlier.type.isEmbedded, earlier.castValue (.array [.object upstairs]),
                valueReports registry ⟨fun _ => "", fun _ => 0⟩ {} linked [.key "earlier"]
                  (.array [.object upstairs]))) =
      some (true, true, .ok (.array [.object upstairs]),
        [⟨"earlier.0.floor", .string "upstairs",
          .cast ⟨"integer", "'upstairs' is not an integer"⟩⟩]) := by
  unfold valueReports recordReports
  simp only [validateRecord, check?_eq_or]
  with_unfolding_all rfl

/-- The floor of an earlier address is reported below its item, and the list is not stored. -/
theorem embedded_checked_alone_tenant :
    ∃ set registry model earlier linked outcome,
      DefinitionSet.ofDocument? tenantDocument = some set ∧
        (compile [set]).result = .ok registry ∧
          registry.IsNamed ∧
            registry.get? "Tenant" = some model ∧
              model.effective.get? "earlier" = some earlier ∧
                registry.linkedClass? earlier = some linked ∧
                  check? registry ⟨fun _ => "", fun _ => 0⟩ {} model [] tenant = some outcome ∧
                    (outcome.failures.filter fun failure =>
                        failure.location.Below [.key "earlier"]).map Failure.report =
                      [⟨"earlier.0.floor", .string "upstairs",
                        .cast ⟨"integer", "'upstairs' is not an integer"⟩⟩] ∧
                      outcome.record.contains "earlier" = false := by
  have observed := tenant_observed
  simp only [Option.bind_eq_some_iff, Option.map_eq_some_iff, Prod.mk.injEq] at observed
  obtain ⟨set, isRead, registry, compiled, model, found, earlier, has, linked, isLinked, tested,
    isEmbedded, accepted, reports⟩ := observed
  have compiled := Registry.ok_of_toOption compiled
  have loaded := DefinitionSet.isLoaded_of_ofDocument? isRead
  have named := Registry.isNamed_of_all tested
  obtain ⟨outcome, isOutcome, embeds, _⟩ :=
    (embedded_checked_alone loaded compiled named).2 model (Registry.mem_classes_of_get? found)
      ⟨fun _ => "", fun _ => 0⟩ {} [] tenant "earlier" earlier linked _ has isEmbedded isLinked
      rfl
  have alone := embeds _ (fun updates => nomatch updates) rfl accepted
  refine ⟨set, registry, model, earlier, linked, outcome, isRead, compiled, named, found, has,
    isLinked, isOutcome, alone.below.trans reports, ?_⟩
  rw [← Bool.not_eq_true, alone.stored]
  intro clean
  cases reports.symm.trans clean

private theorem moved_observed :
    ((DefinitionSet.ofDocument? tenantDocument).bind fun set =>
      (compile [set]).result.toOption.bind fun registry =>
        (registry.get? "Tenant").bind fun model =>
          (model.effective.get? "address").bind fun address =>
            (registry.linkedClass? address).bind fun _ =>
              (check? registry ⟨fun _ => "", fun _ => 0⟩ { mode := .update } model []
                  tenant).map fun outcome =>
                (registry.classes.all fun model => !model.effective.contains "", address.type,
                  match address.cast with
                  | some (.builtin kind) => some kind
                  | _ => none,
                  outcome.record.contains "address",
                  (outcome.failures.filter fun failure =>
                    failure.location.Below [.key "address"]).isEmpty)) =
      some (true, .embedded, some .object, false, true) := by
  simp only [check?_eq_or]
  with_unfolding_all rfl

/-- A record in which nothing fails is not stored where it may not be changed. -/
theorem not_forall_embedded_alone :
    ¬∀ sets registry,
      (∀ set ∈ sets, set.IsLoaded) →
      (compile sets).result = .ok registry →
      registry.IsNamed →
      ∀ model ∈ registry.classes, ∀ draws options input name property linked members outcome,
        model.effective.get? name = some property →
        property.type = .embedded →
        property.HasDefaultCast →
        registry.linkedClass? property = some linked →
        input.get? name = some (.object members) →
        check? registry draws options model [] input = some outcome →
        (outcome.failures.filter fun failure =>
            failure.location.Within [.key name]).map Failure.report =
            recordReports registry draws options linked [.key name] (.object members) ∧
          (outcome.record.contains name = true ↔
            (outcome.failures.filter fun failure => failure.location.Below [.key name]) = []) := by
  intro alwaysAlone
  have observed := moved_observed
  simp only [Option.bind_eq_some_iff, Option.map_eq_some_iff, Prod.mk.injEq] at observed
  obtain ⟨set, isRead, registry, compiled, model, found, address, has, linked, isLinked, outcome,
    isOutcome, tested, type, isCast, notStored, nothingFails⟩ := observed
  have loaded := DefinitionSet.isLoaded_of_ofDocument? isRead
  have defaultCast : address.HasDefaultCast := by
    rw [Property.HasDefaultCast, type]
    split at isCast
    · rename_i kind isBuiltin
      cases isCast
      exact isBuiltin
    · cases isCast
  have isStored :=
    (alwaysAlone [set] registry loaded (Registry.ok_of_toOption compiled)
      (Registry.isNamed_of_all tested) model (Registry.mem_classes_of_get? found) _ _ tenant
      "address" address linked mainStreet outcome has type defaultCast isLinked rfl isOutcome).2.mpr
      (List.isEmpty_iff.mp nothingFails)
  rw [notStored] at isStored
  cases isStored

end Validation

end RecordSchema
