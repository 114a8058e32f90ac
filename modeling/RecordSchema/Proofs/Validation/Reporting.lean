import RecordSchema.Proofs.Validation.Standalone

namespace RecordSchema

/-!
# Which violations are reported

A cast value that violates a constraint is never accepted.  The violation itself is
reported unless something fails in the records that the value holds: such a value has no
stored form, and only what has one is tested against the constraints.
-/

open Registry (compile)

namespace Validation

variable
  {check : ClassModel → List Step → Record → Outcome}
  {registry : Registry}
  {draws : Draws}
  {options : Options}
  {model : ClassModel}
  {steps : List Step}
  {input : Record}
  {name : String}
  {property : Property}
  {kind : FailureKind}

/-- Of a property that embeds records only a missing item can violate a constraint. -/
theorem exists_of_violates_embedded
    {value : Json}
    (written : property.IsWritten)
    (isEmbedded : property.type.isEmbedded = true)
    (violates : property.constraints.Violates value kind) :
    ∃ bound items,
      kind = .tooFewItems bound ∧ property.constraints.minItems = some bound ∧
        value = .array items ∧ items.length < bound.toNat := by
  obtain ⟨minItems, shape⟩ := written.constraints isEmbedded
  rw [shape] at violates ⊢
  cases violates with
  | minItems isBound isArray fewer => exact ⟨_, _, rfl, isBound, isArray, fewer⟩
  | nonEmpty demanded => cases demanded
  | choices isChoices => cases isChoices
  | pattern isPattern => cases isPattern
  | min isBound => cases isBound
  | max isBound => cases isBound

/-- What the records in a value become does not mend a violation. -/
theorem violates_of_nestedForm
    {value form : Json}
    (written : property.IsWritten)
    (nested : NestedForm check registry property value form)
    (violates : property.constraints.Violates value kind) :
    property.constraints.Violates form kind := by
  cases nested with
  | plain => exact violates
  | record _ type passes =>
      have isEmbedded : property.type.isEmbedded = true := by
        rw [type]
        rfl
      obtain ⟨_, _, _, _, isArray, _⟩ := exists_of_violates_embedded written isEmbedded violates
      obtain ⟨_, _, _, isObject, _⟩ := passes
      cases isArray.symm.trans isObject
  | records _ isEmbedded passes =>
      obtain ⟨bound, items, rfl, isBound, isArray, fewer⟩ :=
        exists_of_violates_embedded written isEmbedded violates
      cases isArray
      exact .minItems isBound rfl (passes.length_eq ▸ fewer)

/-- A form of a value that is not null is not null. -/
theorem isNull_of_nestedForm
    {value form : Json}
    (nested : NestedForm check registry property value form)
    (isPresent : value.isNull = false) :
    form.isNull = false := by
  cases nested with
  | plain => exact isPresent
  | record _ _ passes =>
      obtain ⟨_, _, _, _, _, rfl⟩ := passes
      rfl
  | records => rfl

/-- A failure of some cause at the value of a key. -/
def ReportsAt (steps : List Step) (name : String) (kind : FailureKind)
    (failures : List Failure) : Prop :=
  ∃ failure ∈ failures, failure.location = .part (steps ++ [.key name]) ∧ failure.kind = kind

theorem reportsAt_root_iff
    {failures : List Failure} :
    ReportsAt [] name kind failures ↔
      ∃ failure ∈ failures,
        failure.location = .part [.key name] ∧ failure.location.path = name ∧
          failure.kind = kind := by
  have isName : (Location.part [.key name]).path = name := rfl
  constructor
  · rintro ⟨failure, member, isHere, isKind⟩
    exact ⟨failure, member, isHere, by rw [isHere]; exact isName, isKind⟩
  · rintro ⟨failure, member, isHere, _, isKind⟩
    exact ⟨failure, member, isHere, isKind⟩

section Cast

variable
  {raw value : Json}
  (written : property.IsWritten)
  (has : model.effective.get? name = some property)
  (notGenerated : property.generated = false)
  (found : input.get? name = some raw)
  (writable : options.mode = .update → property.readOnly = false)
  (isPresent : raw.isNull = false)
  (accepted : property.castValue raw = .ok value)
  (violates : property.constraints.Violates value kind)
  (descends : Descends check)

include written has notGenerated found writable isPresent accepted violates descends

/-- A violation is reported if nothing fails in the records of the value. -/
theorem reportsAt_of_clean
    (clean : (checkNested check registry property (steps ++ [.key name]) value).failures = []) :
    ReportsAt steps name kind
      (checkWith check registry draws options model steps input).failures := by
  obtain ⟨form, isForm, nested⟩ := nestedForm_of_clean clean
  have formPresent :=
    isNull_of_nestedForm nested (Property.isNull_of_castValue written.builtin accepted)
  have isViolation : kind ∈ property.constraints.violations form :=
    Constraints.mem_violations_iff.mpr (violates_of_nestedForm written nested violates)
  have among :
      (⟨.part (steps ++ [.key name]), form, kind⟩ : Failure) ∈
        violations model steps (name, form) := by
    rw [violations, ClassModel.property?, has]
    dsimp only
    rw [if_neg (by simp [notGenerated, formPresent])]
    exact List.mem_map_of_mem isViolation
  refine ⟨⟨.part (steps ++ [.key name]), form, kind⟩, ?_, rfl, rfl⟩
  rw [mem_failures_of_castValue_iff has found writable isPresent accepted descends (by simp)]
  exact .inr ⟨form, by rw [isForm]; rfl, among⟩

/-- The violation is reported exactly if nothing fails below the value. -/
theorem reportsAt_iff
    (settled :
      Settled (checkNested check registry property (steps ++ [.key name]) value).failures) :
    ReportsAt steps name kind
        (checkWith check registry draws options model steps input).failures ↔
      ∀ failure ∈ (checkWith check registry draws options model steps input).failures,
        ¬failure.location.Below (steps ++ [.key name]) := by
  constructor
  · rintro ⟨failure, member, isHere, _⟩ other otherMember below
    have inNested :
        other ∈ (checkNested check registry property (steps ++ [.key name]) value).failures := by
      rcases (mem_failures_of_castValue_iff has found writable isPresent accepted descends
        below.within).mp otherMember with inRecords | ⟨_, _, isViolation⟩
      · exact inRecords
      · simp [location_of_mem_violations isViolation] at below
    have notStored :
        (checkNested check registry property (steps ++ [.key name]) value).value = none := by
      rw [← Option.not_isSome_iff_eq_none, isSome_value_checkNested_iff]
      exact List.ne_nil_of_mem inNested
    rw [mem_failures_of_castValue_iff has found writable isPresent accepted descends
      (by simp [isHere]), notStored] at member
    rcases member with inRecords | ⟨_, isForm, _⟩
    · have strictly := below_of_mem_checkNested descends settled inRecords
      simp [isHere] at strictly
    · cases isForm
  · intro nothingBelow
    refine reportsAt_of_clean written has notGenerated found writable isPresent accepted violates
      descends (List.eq_nil_iff_forall_not_mem.mpr fun failure member => ?_)
    have below := below_of_mem_checkNested descends settled member
    refine nothingBelow failure ?_ below
    rw [mem_failures_of_castValue_iff has found writable isPresent accepted descends below.within]
    exact .inl member

/-- A violation by a value that holds no records is reported. -/
theorem reportsAt_of_kind
    (notItems : ∀ bound, kind ≠ .tooFewItems bound) :
    ReportsAt steps name kind
      (checkWith check registry draws options model steps input).failures := by
  have holdsNone : ¬HoldsRecords registry property value := by
    rintro ⟨isEmbedded, _⟩
    obtain ⟨bound, _, isKind, _⟩ := exists_of_violates_embedded written isEmbedded violates
    exact notItems bound isKind
  refine reportsAt_of_clean written has notGenerated found writable isPresent accepted violates
    descends ?_
  rw [checkNested_of_not_holdsRecords holdsNone]
  rfl

end Cast

/--
A record is rejected if a cast value in it violates a constraint.  The violation is among the
failures exactly if none of these stands below the value, and always if it is not about the
number of items.
-/
theorem violation_reported_iff
    {sets : List DefinitionSet}
    (loaded : ∀ set ∈ sets, set.IsLoaded)
    (compiled : (compile sets).result = .ok registry)
    (member : model ∈ registry.classes)
    (has : model.effective.get? name = some property)
    (notGenerated : property.generated = false)
    {raw value : Json}
    (found : input.get? name = some raw)
    (writable : options.mode = .update → property.readOnly = false)
    (isPresent : raw.isNull = false)
    (accepted : property.castValue raw = .ok value)
    (violates : property.constraints.Violates value kind) :
    ∃ rejection,
      validateRecord registry draws options model input = .error rejection ∧
        ((∃ failure ∈ rejection.failures,
            failure.location = .part [.key name] ∧ failure.location.path = name ∧
              failure.kind = kind) ↔
          ∀ failure ∈ rejection.failures, ¬failure.location.Below [.key name]) ∧
          ((∀ bound, kind ≠ .tooFewItems bound) →
            ∃ failure ∈ rejection.failures,
              failure.location = .part [.key name] ∧ failure.location.path = name ∧
                failure.kind = kind) := by
  have isWritten := Registry.isWritten_of_compile loaded compiled
  have keepsDepth := Registry.keepsDepth_of_isWritten isWritten
  have written := isWritten model member name property has
  have enough : input.toJson.objectDepth ≤ input.toJson.objectDepth + 1 := by
    omega
  have isOutcome :
      check? registry draws options model [] input =
        some (checkRecord registry draws options (input.toJson.objectDepth + 1) model [] input) :=
    check?_of_keepsDepth keepsDepth member enough
  have castDepth := written.builtin.keepsDepth raw value accepted
  have rawDepth := Record.objectDepth_lt_of_get? found
  have settled :
      Settled (checkNested (checkRecord registry draws options input.toJson.objectDepth) registry
        property ([] ++ [.key name]) value).failures :=
    settled_checkNested_of_keepsDepth keepsDepth (by omega)
  have reported :
      ReportsAt [] name kind
          (checkRecord registry draws options (input.toJson.objectDepth + 1) model []
            input).failures ↔ _ :=
    reportsAt_iff written has notGenerated found writable isPresent accepted violates
      descends_checkRecord settled
  have reportedAlways :
      (∀ bound, kind ≠ .tooFewItems bound) →
      ReportsAt [] name kind
        (checkRecord registry draws options (input.toJson.objectDepth + 1) model []
          input).failures :=
    reportsAt_of_kind written has notGenerated found writable isPresent accepted violates
      descends_checkRecord
  have fails :
      (checkRecord registry draws options (input.toJson.objectDepth + 1) model []
        input).failures ≠ [] := by
    intro clean
    obtain ⟨failure, inFailures, _⟩ := reported.mpr fun failure inFailures => by
      rw [checkRecord] at clean
      simp [clean] at inFailures
    rw [clean] at inFailures
    cases inFailures
  simp only [← reportsAt_root_iff]
  exact ⟨_, validateRecord_of_failures isOutcome fails, reported, reportedAlways⟩

/-- A tenant with one earlier address, in which nothing is wrong. -/
def sparseTenant : Record :=
  .ofList [("earlier", .array [.object mainStreet])]

private theorem earlier_observed :
    ((DefinitionSet.ofDocument? tenantDocument).bind fun set =>
      (compile [set]).result.toOption.bind fun registry =>
        (registry.get? "Tenant").bind fun model =>
          (model.effective.get? "earlier").map fun earlier =>
            (earlier.generated, earlier.constraints.minItems,
              earlier.castValue (.array [.object upstairs]),
              earlier.castValue (.array [.object mainStreet]),
              (failuresOf (validateRecord registry ⟨fun _ => "", fun _ => 0⟩ {} model tenant)).any
                fun failure => failure.kind == .tooFewItems 2,
              (failuresOf (validateRecord registry ⟨fun _ => "", fun _ => 0⟩ {} model
                sparseTenant)).any fun failure => failure.location.Below [.key "earlier"])) =
      some (false, some 2, .ok (.array [.object upstairs]), .ok (.array [.object mainStreet]),
        false, false) := by
  simp only [validateRecord, check?_eq_or]
  with_unfolding_all rfl

/-- That an address is missing is reported of the tenant in whose addresses nothing is wrong. -/
theorem violation_reported_iff_sparseTenant :
    ∃ set registry model earlier rejection,
      DefinitionSet.ofDocument? tenantDocument = some set ∧
        (compile [set]).result = .ok registry ∧
          registry.get? "Tenant" = some model ∧
            model.effective.get? "earlier" = some earlier ∧
              earlier.constraints.Violates (.array [.object mainStreet]) (.tooFewItems 2) ∧
                validateRecord registry ⟨fun _ => "", fun _ => 0⟩ {} model sparseTenant =
                    .error rejection ∧
                  ∃ failure ∈ rejection.failures,
                    failure.location = .part [.key "earlier"] ∧
                      failure.location.path = "earlier" ∧ failure.kind = .tooFewItems 2 := by
  have observed := earlier_observed
  simp only [Option.bind_eq_some_iff, Option.map_eq_some_iff, Prod.mk.injEq] at observed
  obtain ⟨set, isRead, registry, compiled, model, found, earlier, has, notGenerated, isBound, _,
    accepted, _, nothingBelow⟩ := observed
  have compiled := Registry.ok_of_toOption compiled
  have loaded := DefinitionSet.isLoaded_of_ofDocument? isRead
  have violates :
      earlier.constraints.Violates (.array [.object mainStreet]) (.tooFewItems 2) :=
    .minItems isBound rfl (by decide)
  have writable : ({} : Options).mode = .update → earlier.readOnly = false := by
    simp
  obtain ⟨rejection, isRejected, reported, _⟩ :
      ∃ rejection,
        validateRecord registry ⟨fun _ => "", fun _ => 0⟩ {} model sparseTenant =
          .error rejection ∧ (_ ↔ _) ∧ _ :=
    violation_reported_iff loaded compiled (Registry.mem_classes_of_get? found) has notGenerated
      rfl writable rfl accepted violates
  refine ⟨set, registry, model, earlier, rejection, isRead, compiled, found, has, violates,
    isRejected, reported.mpr fun failure member below => ?_⟩
  rw [isRejected, failuresOf, ← Bool.not_eq_true, List.any_eq_true] at nothingBelow
  exact nothingBelow ⟨failure, member, by simpa using below⟩

/-- That an address is missing is not reported of the tenant in whose addresses one fails. -/
theorem not_forall_violation_reported :
    ¬∀ sets registry,
      (∀ set ∈ sets, set.IsLoaded) →
      (compile sets).result = .ok registry →
      ∀ model ∈ registry.classes, ∀ draws options input name property raw value kind,
        model.effective.get? name = some property →
        property.generated = false →
        input.get? name = some raw →
        (options.mode = .update → property.readOnly = false) →
        raw.isNull = false →
        property.castValue raw = .ok value →
        property.constraints.Violates value kind →
        ∃ failure ∈ failuresOf (validateRecord registry draws options model input),
          failure.location.path = name ∧ failure.kind = kind := by
  intro alwaysReported
  have observed := earlier_observed
  simp only [Option.bind_eq_some_iff, Option.map_eq_some_iff, Prod.mk.injEq] at observed
  obtain ⟨set, isRead, registry, compiled, model, found, earlier, has, notGenerated, isBound,
    accepted, _, notReported, _⟩ := observed
  obtain ⟨failure, member, _, isKind⟩ :=
    alwaysReported [set] registry (by simpa using DefinitionSet.isLoaded_of_ofDocument? isRead)
      (Registry.ok_of_toOption compiled) model (Registry.mem_classes_of_get? found)
      ⟨fun _ => "", fun _ => 0⟩ {} tenant "earlier" earlier _ _ (.tooFewItems 2) has notGenerated
      rfl (by simp) rfl accepted (.minItems isBound rfl (by simp))
  rw [← Bool.not_eq_true, List.any_eq_true] at notReported
  exact notReported ⟨failure, member, by simp [isKind]⟩

end Validation

end RecordSchema
