import RecordSchema.Proofs.Validation.Conformance
import RecordSchema.Proofs.Validation.Origins

namespace RecordSchema

/-!
# Null under properties that do not admit it

Whether null is admitted is decided on what the record brings, before it is cast.  A cast
that is a function can still make null of another value, and then null is in the accepted
record.  Nothing else puts it there, whatever the other functions of a registry do.
-/

open Registry (compile)

namespace Property

variable
  {property : Property}

/-- Of a value that is not null only a cast that is a function makes null. -/
theorem castValue_eq_null_iff
    {raw : Json}
    (present : raw.isNull = false) :
    property.castValue raw = .ok .null ↔
      property.type.isCollection = false ∧
        ∃ cast, property.cast = some (.custom cast) ∧ cast.apply raw = .ok .null := by
  cases isCollection : property.type.isCollection with
  | true =>
      refine iff_of_false (fun accepted => ?_) (by simp)
      obtain ⟨_, _, _, isArray⟩ := exists_of_castValue_collection isCollection accepted
      cases isArray
  | false =>
      rw [castValue_of_single isCollection, castItem]
      cases isCast : property.cast with
      | none =>
          refine iff_of_false (fun accepted => ?_) (by simp)
          cases accepted
          cases present
      | some cast =>
          cases cast with
          | builtin kind =>
              refine iff_of_false (fun accepted => ?_) (by simp)
              cases CastKind.isNull_of_apply accepted
          | custom cast =>
              simp [Cast.apply]

end Property

namespace Validation

variable
  {check : ClassModel → List Step → Record → Outcome}
  {registry : Registry}
  {draws : Draws}
  {options : Options}
  {model : ClassModel}
  {steps : List Step}
  {input output : Record}
  {name : String}
  {property : Property}

/--
A value that a property is given before it is cast: the record brings it, or it is that of
the default, for as much of the record as a default sees.
-/
inductive IsGiven
    (draws : Draws)
    (options : Options)
    (steps : List Step)
    (input output : Record)
    (name : String)
    (property : Property)
    (raw : Json) : Prop where
  | brought :
      input.get? name = some raw →
      IsGiven draws options steps input output name property raw
  | byDefault {default : DefaultValue} :
      input.get? name = none →
      options.mode = .create →
      property.generated = false →
      property.default = some default →
      default.resolve draws (steps ++ [.key name]) (seenBy name input output) = .ok raw →
      IsGiven draws options steps input output name property raw

/-- Of null the check of records makes nothing else, and it makes null of nothing else. -/
theorem nestedForm_null_iff
    {value : Json} :
    NestedForm check registry property value .null ↔ value = .null := by
  constructor
  · intro nested
    cases nested with
    | plain _ => rfl
    | record _ _ passes =>
        obtain ⟨_, _, _, _, _, isObject⟩ := passes
        cases isObject
  · rintro rfl
    refine .plain ?_
    rintro ⟨_, _, ⟨_, isArray⟩ | ⟨_, _, isObject⟩⟩
    · cases isArray
    · cases isObject

/-- A property without a value of its own gets null only if it admits null. -/
theorem withoutDefault_ne_null
    (strict : property.nullable = false) :
    withoutDefault steps property ≠ ⟨some .null, []⟩ := by
  rw [withoutDefault]
  split
  · intro same
    cases same
  · rw [if_neg (by simp [strict])]
    intro same
    cases same

/-- The default gives null exactly if the cast makes null of what it resolves to. -/
theorem checkAbsent_eq_null_iff
    {record : Record}
    (strict : property.nullable = false) :
    checkAbsent draws steps property record = ⟨some .null, []⟩ ↔
      ∃ default raw,
        property.default = some default ∧ default.resolve draws steps record = .ok raw ∧
          raw.isNull = false ∧ property.castValue raw = .ok .null := by
  cases isDefault : property.default with
  | none =>
      simp only [checkAbsent, isDefault, withoutDefault_ne_null strict, false_iff]
      rintro ⟨_, _, same, _⟩
      cases same
  | some default =>
      simp only [checkAbsent, isDefault]
      cases resolved : default.resolve draws steps record with
      | error reason =>
          refine iff_of_false (fun same => by cases same) ?_
          rintro ⟨other, raw, same, isRaw, _⟩
          cases same
          cases resolved.symm.trans isRaw
      | ok raw =>
          dsimp only
          split
          · rename_i isNull
            refine iff_of_false (withoutDefault_ne_null strict) ?_
            rintro ⟨other, value, same, isValue, present, _⟩
            cases same
            cases resolved.symm.trans isValue
            cases isNull.symm.trans present
          · rename_i notNull
            constructor
            · intro isNull
              refine ⟨default, raw, rfl, resolved, by simpa using notNull, ?_⟩
              split at isNull
              · cases isNull
              · rename_i accepted
                cases isNull
                exact accepted
            · rintro ⟨other, value, same, isValue, _, accepted⟩
              cases same
              cases resolved.symm.trans isValue
              rw [accepted]
              rfl

/-- Null comes from a cast of a given value that is not null itself. -/
theorem origin_null_iff
    {value? : Option Json}
    (strict : property.nullable = false)
    (origin : Origin check registry draws options steps input output name property value?) :
    value? = some .null ↔
      ∃ raw,
        raw.isNull = false ∧ IsGiven draws options steps input output name property raw ∧
          property.castValue raw = .ok .null := by
  cases origin with
  | @brought raw form found isBrought =>
      cases isBrought with
      | null _ _ nullable =>
          rw [strict] at nullable
          cases nullable
      | @cast value form _ present accepted nested =>
          constructor
          · intro isNull
            cases isNull
            rw [nestedForm_null_iff.mp nested] at accepted
            exact ⟨raw, present, .brought found, accepted⟩
          · rintro ⟨other, _, given, otherAccepted⟩
            cases given with
            | brought otherFound =>
                cases found.symm.trans otherFound
                cases accepted.symm.trans otherAccepted
                cases nested with
                | plain _ => rfl
                | record _ _ passes =>
                    obtain ⟨_, _, _, isObject, _⟩ := passes
                    cases isObject
            | byDefault absent => cases found.symm.trans absent
  | omitted absent reason =>
      refine iff_of_false (by simp) ?_
      rintro ⟨raw, _, given, _⟩
      cases given with
      | brought found => cases absent.symm.trans found
      | byDefault _ creates notGenerated =>
          rcases reason with updates | generated
          · cases creates.symm.trans updates
          · cases notGenerated.symm.trans generated
  | completed absent creates notGenerated isValue =>
      have null_iff :
          checkAbsent draws (steps ++ [.key name]) property (seenBy name input output) =
              ⟨some .null, []⟩ ↔ _ :=
        checkAbsent_eq_null_iff strict
      rw [isValue] at null_iff
      constructor
      · intro isNull
        obtain ⟨default, raw, isDefault, resolved, present, accepted⟩ :=
          null_iff.mp (by rw [isNull])
        exact ⟨raw, present, .byDefault absent creates notGenerated isDefault resolved, accepted⟩
      · rintro ⟨raw, present, given, accepted⟩
        cases given with
        | brought found => cases absent.symm.trans found
        | byDefault _ _ _ isDefault resolved =>
            have isNull := null_iff.mpr ⟨_, raw, isDefault, resolved, present, accepted⟩
            cases isNull
            rfl

/--
An accepted record has null under a property that does not admit it exactly when the cast
of the property is a function that makes null of the value that the property is given.
-/
theorem null_under_strict_iff
    (accepted : validateRecord registry draws options model input = .ok output)
    (has : model.effective.get? name = some property)
    (strict : property.nullable = false) :
    output.get? name = some .null ↔
      property.type.isCollection = false ∧
        ∃ cast raw,
          property.cast = some (.custom cast) ∧ raw.isNull = false ∧
            IsGiven draws options [] input output name property raw ∧
              cast.apply raw = .ok .null := by
  obtain ⟨levels, _, isOutput⟩ := validateRecord_ok accepted
  have origin := origin_of_clean has (congrArg Outcome.failures isOutput)
  rw [isOutput] at origin
  rw [origin_null_iff strict origin]
  constructor
  · rintro ⟨raw, present, given, castAccepted⟩
    obtain ⟨single, cast, isCast, applied⟩ := (Property.castValue_eq_null_iff present).mp castAccepted
    exact ⟨single, cast, raw, isCast, present, given, applied⟩
  · rintro ⟨single, cast, raw, isCast, present, given, applied⟩
    exact ⟨raw, present, given, (Property.castValue_eq_null_iff present).mpr
      ⟨single, cast, isCast, applied⟩⟩

/-- A class with a property that admits no null, and a cast for it that gives nothing else. -/
def nullingSets : List DefinitionSet :=
  [.ofList
    [("Thing",
      { properties :=
          [{ PropertyDefinition.ofType .string "name" none with
              nullable := false
              customCast := some ⟨0, "null", fun _ => .ok .null⟩ }] })]]

/-- A thing with a name. -/
def namedThing : Record :=
  .ofList [("name", .string "x")]

/-- What the check of the named thing shows. -/
private theorem nulling_observed :
    ((compile nullingSets).result.toOption.bind fun registry =>
      (registry.get? "Thing").bind fun model =>
        (model.effective.get? "name").bind fun property =>
          (validateRecord registry ⟨fun _ => "", fun _ => 0⟩ {} model
              namedThing).toOption.map fun output =>
            (property.nullable, output.get? "name")) =
      some (false, some .null) := by
  simp only [validateRecord, check?_eq_or]
  with_unfolding_all rfl

/-- The name is accepted, and it is null afterwards. -/
private theorem nulling_accepted :
    ∃ registry model property output,
      (compile nullingSets).result = .ok registry ∧ model ∈ registry.classes ∧
        validateRecord registry ⟨fun _ => "", fun _ => 0⟩ {} model namedThing = .ok output ∧
          model.effective.get? "name" = some property ∧ property.nullable = false ∧
            output.get? "name" = some .null := by
  have observed := nulling_observed
  simp only [Option.bind_eq_some_iff, Option.map_eq_some_iff, Prod.mk.injEq] at observed
  obtain ⟨registry, compiled, model, found, property, has, output, accepted, strict, isNull⟩ :=
    observed
  exact ⟨registry, model, property, output, Registry.ok_of_toOption compiled,
    Registry.mem_classes_of_get? found, Registry.ok_of_toOption accepted, has, strict, isNull⟩

/-- Behind the null of the named thing stands the cast that gives null. -/
theorem null_under_strict_iff_nulling :
    ∃ registry model property output,
      (compile nullingSets).result = .ok registry ∧ model ∈ registry.classes ∧
        validateRecord registry ⟨fun _ => "", fun _ => 0⟩ {} model namedThing = .ok output ∧
          model.effective.get? "name" = some property ∧ property.nullable = false ∧
            property.type.isCollection = false ∧
              ∃ cast raw,
                property.cast = some (.custom cast) ∧ raw.isNull = false ∧
                  IsGiven ⟨fun _ => "", fun _ => 0⟩ {} [] namedThing output "name" property raw ∧
                    cast.apply raw = .ok .null := by
  obtain ⟨registry, model, property, output, compiled, member, accepted, has, strict, isNull⟩ :=
    nulling_accepted
  exact ⟨registry, model, property, output, compiled, member, accepted, has, strict,
    (null_under_strict_iff accepted has strict).mp isNull⟩

/-- That a property admits no null does not keep null out of accepted records. -/
theorem not_forall_strict_ne_null :
    ¬∀ sets registry,
      (compile sets).result = .ok registry →
      ∀ model ∈ registry.classes, ∀ draws options input output name property,
        validateRecord registry draws options model input = .ok output →
        model.effective.get? name = some property →
        property.nullable = false →
        output.get? name ≠ some .null := by
  intro neverNull
  obtain ⟨registry, model, property, output, compiled, member, accepted, has, strict, isNull⟩ :=
    nulling_accepted
  exact neverNull nullingSets registry compiled model member _ _ _ output "name" property accepted
    has strict isNull

end Validation

end RecordSchema
