import RecordSchema.Proofs.Cast
import RecordSchema.Proofs.SortedMap
import RecordSchema.Proofs.Validation.Constraints
import RecordSchema.Validation.Checking

namespace RecordSchema

/-!
# The passes over a record

A pass without failures leaves a record whose values fit the properties that they belong
to.  The first pass has a value for each property that the record brings, the second
one adds what a new record must have, and the third one changes nothing.
-/

namespace Property

/-- A property whose cast is built in and whose constant default is not null. -/
structure IsPlain (property : Property) : Prop where
  builtin : property.HasBuiltinCast
  constant : ∀ value, property.default = some (.constant value) → value.isNull = false

/-- A value that a property admits, constraints aside. -/
structure Fits (property : Property) (value : Json) : Prop where
  nullable : value.isNull = true → property.nullable = true
  holds : value.isNull = false → property.HasDefaultCast → property.type.Holds value

/-- A property that a new record has a value of, unless that is generated later. -/
def IsProvided (property : Property) : Prop :=
  property.mandatory = true ∨
    (∃ value, property.default = some (.constant value)) ∨
      ∃ source, property.default = some (.generator source)

theorem fits_null
    {property : Property}
    (nullable : property.nullable = true) :
    property.Fits .null where
  nullable _ := nullable
  holds present := by cases present

theorem fits_of_castValue
    {property : Property}
    {raw value : Json}
    (builtin : property.HasBuiltinCast)
    (accepted : property.castValue raw = .ok value) :
    property.Fits value where
  nullable isNull := by
    rw [isNull_of_castValue builtin accepted] at isNull
    cases isNull
  holds _ default := holds_of_castValue default accepted

end Property

namespace Validation

theorem Verdict.value_unlessFailed
    {value : Json}
    {failures : List Failure}
    (clean : failures = []) :
    (Verdict.unlessFailed value failures).value = some value := by
  rw [unlessFailed, clean]
  rfl

/-- The check of embedded records keeps what kind of value it is. -/
theorem checkNested_value
    {check : ClassModel → List Step → Record → Outcome}
    {registry : Registry}
    {property : Property}
    {steps : List Step}
    {value : Json}
    (clean : (checkNested check registry property steps value).failures = []) :
    ∃ checked,
      (checkNested check registry property steps value).value = some checked ∧
        checked.isNull = value.isNull ∧
          (property.type.Holds value → property.type.Holds checked) := by
  revert clean
  rw [checkNested]
  split
  · exact fun _ => ⟨value, rfl, rfl, id⟩
  · rename_i embedded
    split
    · exact fun _ => ⟨value, rfl, rfl, id⟩
    · split
      · rename_i members isEmbedded
        intro clean
        refine ⟨_, Verdict.value_unlessFailed clean, rfl, fun _ => ?_⟩
        rw [isEmbedded]
        exact ⟨_, rfl⟩
      · rename_i items _
        intro clean
        refine ⟨_, Verdict.value_unlessFailed clean, rfl, fun holds => ?_⟩
        cases type : property.type with
        | embedded =>
            rw [type] at holds
            obtain ⟨_, isObject⟩ := holds
            cases isObject
        | embeddedlist =>
            exact ⟨_, rfl⟩
        | embeddedset =>
            exact ⟨_, rfl⟩
        | _ => simp [type, PropertyType.isEmbedded] at embedded
      · exact fun _ => ⟨_, rfl, rfl, id⟩

/-- A property that the record brings without failures has a value that fits. -/
theorem checkPresent_value
    {check : ClassModel → List Step → Record → Outcome}
    {registry : Registry}
    {options : Options}
    {steps : List Step}
    {property : Property}
    {raw : Json}
    (builtin : property.HasBuiltinCast)
    (clean : (checkPresent check registry options steps property raw).failures = []) :
    ∃ value,
      (checkPresent check registry options steps property raw).value = some value ∧
        property.Fits value := by
  revert clean
  rw [checkPresent]
  split
  · intro clean
    cases clean
  · split
    · split
      · rename_i nullable
        exact fun _ => ⟨.null, rfl, Property.fits_null nullable⟩
      · intro clean
        cases clean
    · split
      · intro clean
        cases clean
      · rename_i cast accepted
        intro clean
        obtain ⟨checked, isValue, sameNull, keepsType⟩ := checkNested_value clean
        have castFits := Property.fits_of_castValue builtin accepted
        refine ⟨checked, isValue, fun isNull => ?_, fun present default => ?_⟩
        · exact castFits.nullable (sameNull ▸ isNull)
        · exact keepsType (castFits.holds (sameNull ▸ present) default)

/-- Without a default a property has null or no value, and null if it must have one. -/
theorem withoutDefault_value
    {steps : List Step}
    {property : Property}
    (clean : (withoutDefault steps property).failures = []) :
    (∀ value, (withoutDefault steps property).value = some value → property.Fits value) ∧
      (property.mandatory = true →
        ∃ value, (withoutDefault steps property).value = some value) := by
  revert clean
  rw [withoutDefault]
  split
  · rename_i optional
    intro _
    refine ⟨fun value found => ?_, fun mandatory => ?_⟩
    · cases found
    · simp [mandatory] at optional
  · split
    · rename_i nullable
      intro _
      refine ⟨fun value found => ?_, fun _ => ⟨.null, rfl⟩⟩
      cases found
      exact Property.fits_null nullable
    · intro clean
      cases clean

/-- An absent property has a value that fits if it has one, and it has one that is provided. -/
theorem checkAbsent_value
    {draws : Draws}
    {steps : List Step}
    {property : Property}
    {record : Record}
    (plain : property.IsPlain)
    (clean : (checkAbsent draws steps property record).failures = []) :
    (∀ value,
      (checkAbsent draws steps property record).value = some value → property.Fits value) ∧
      (property.IsProvided →
        ∃ value, (checkAbsent draws steps property record).value = some value) := by
  revert clean
  rw [checkAbsent]
  split
  · rename_i noDefault
    intro clean
    obtain ⟨fits, provided⟩ := withoutDefault_value clean
    refine ⟨fits, fun isProvided => ?_⟩
    rcases isProvided with mandatory | ⟨value, isDefault⟩ | ⟨source, isDefault⟩
    · exact provided mandatory
    · cases noDefault.symm.trans isDefault
    · cases noDefault.symm.trans isDefault
  · rename_i default isDefault
    split
    · intro clean
      cases clean
    · rename_i value resolved
      split
      · rename_i isNull
        intro clean
        obtain ⟨fits, provided⟩ := withoutDefault_value clean
        refine ⟨fits, fun isProvided => ?_⟩
        rcases isProvided with mandatory | ⟨constant, isConstant⟩ | ⟨source, isGenerator⟩
        · exact provided mandatory
        · cases isDefault.symm.trans isConstant
          cases resolved
          rw [plain.constant value isConstant] at isNull
          cases isNull
        · cases isDefault.symm.trans isGenerator
          cases resolved
          cases source <;> cases isNull
      · split
        · intro clean
          cases clean
        · rename_i cast accepted
          intro _
          refine ⟨fun value found => ?_, fun _ => ⟨cast, rfl⟩⟩
          cases found
          exact Property.fits_of_castValue plain.builtin accepted

/-- A record of effective properties with values that fit. -/
def IsFitting (model : ClassModel) (record : Record) : Prop :=
  ∀ name value,
    record.get? name = some value →
    ∃ property, model.effective.get? name = some property ∧ property.Fits value

/-- What the record brings has verdicts, and the accepted ones make up a record that fits. -/
theorem acceptedRecord_present
    {check : ClassModel → List Step → Record → Outcome}
    {registry : Registry}
    {options : Options}
    {model : ClassModel}
    {steps : List Step}
    {input : Record}
    (builtin :
      ∀ name property, model.effective.get? name = some property → property.HasBuiltinCast)
    (clean :
      (present check registry options model steps input).flatMap
        (fun entry => entry.2.failures) = []) :
    IsFitting model (acceptedRecord (present check registry options model steps input)) ∧
      ∀ name property,
        model.effective.get? name = some property →
        input.contains name = true →
        (acceptedRecord (present check registry options model steps input)).contains name =
          true := by
  have cleanEach := List.flatMap_eq_nil_iff.mp clean
  constructor
  · intro name value found
    have member := SortedMap.mem_of_get?_ofList found
    obtain ⟨⟨verdictName, verdict⟩, verdictMember, accepted⟩ := List.mem_filterMap.mp member
    obtain ⟨verdictValue, isValue, same⟩ := Option.map_eq_some_iff.mp accepted
    cases same
    obtain ⟨⟨entryName, property⟩, entryMember, brought⟩ := List.mem_filterMap.mp verdictMember
    obtain ⟨raw, _, same⟩ := Option.map_eq_some_iff.mp brought
    cases same
    have declared := SortedMap.get?_eq_some_iff.mpr entryMember
    obtain ⟨checked, isChecked, fits⟩ :=
      checkPresent_value (builtin _ _ declared) (cleanEach _ verdictMember)
    cases isChecked.symm.trans isValue
    exact ⟨property, declared, fits⟩
  · intro name property declared brought
    obtain ⟨raw, rawFound⟩ := SortedMap.contains_iff.mp brought
    have verdictMember :
        (name,
            checkPresent check registry options (steps ++ [.key name]) property raw) ∈
          present check registry options model steps input :=
      List.mem_filterMap.mpr ⟨(name, property), SortedMap.get?_eq_some_iff.mp declared,
        by rw [rawFound]; rfl⟩
    obtain ⟨checked, isChecked, _⟩ :=
      checkPresent_value (builtin _ _ declared) (cleanEach _ verdictMember)
    exact SortedMap.contains_ofList
      (List.mem_filterMap.mpr ⟨_, verdictMember, by rw [isChecked]; rfl⟩)

/--
What the addition of absent properties does to a record: values keep fitting, none is
lost, and each of the given properties that is provided has one.
-/
structure Completes
    (model : ClassModel)
    (input : Record)
    (entries : List (String × Property))
    (before after : Outcome) : Prop where
  clean : before.failures = []
  fitting : IsFitting model before.record → IsFitting model after.record
  keeps : ∀ name, before.record.contains name = true → after.record.contains name = true
  provides :
    ∀ entry ∈ entries,
      input.contains entry.1 = false → entry.2.generated = false → entry.2.IsProvided →
      after.record.contains entry.1 = true

/-- One more absent property is added. -/
theorem completes_addAbsent
    {draws : Draws}
    {steps : List Step}
    {model : ClassModel}
    {input : Record}
    {outcome : Outcome}
    {entry : String × Property}
    (declared : model.effective.get? entry.1 = some entry.2)
    (plain : entry.2.IsPlain)
    (clean : (addAbsent draws steps input outcome entry).failures = []) :
    Completes model input [entry] outcome (addAbsent draws steps input outcome entry) := by
  revert clean
  rw [addAbsent]
  split
  · rename_i skipped
    intro clean
    refine ⟨clean, id, fun _ => id, fun other member absent notGenerated _ => ?_⟩
    rw [List.mem_singleton.mp member] at absent notGenerated
    simp [absent, notGenerated] at skipped
  · intro clean
    obtain ⟨outcomeClean, verdictClean⟩ := List.append_eq_nil_iff.mp clean
    obtain ⟨fits, provided⟩ := checkAbsent_value plain verdictClean
    dsimp only
    cases added :
        (checkAbsent draws (steps ++ [.key entry.1]) entry.2 outcome.record).value with
    | none =>
        refine ⟨outcomeClean, id, fun _ => id, fun other member _ _ isProvided => ?_⟩
        rw [List.mem_singleton.mp member] at isProvided
        obtain ⟨value, found⟩ := provided isProvided
        cases added.symm.trans found
    | some value =>
        refine ⟨outcomeClean, fun fitting name other found => ?_, fun name contained => ?_,
          fun other member _ _ _ => ?_⟩
        · rw [SortedMap.get?_insert] at found
          split at found
          · rename_i atEntry
            cases found
            exact ⟨entry.2, atEntry ▸ declared, fits _ added⟩
          · exact fitting name other found
        · rw [SortedMap.contains, SortedMap.get?_insert]
          split
          · rfl
          · exact contained
        · rw [List.mem_singleton.mp member, SortedMap.contains, SortedMap.get?_insert_self]
          rfl

/-- All absent properties are added one after the other. -/
theorem completes_foldl
    {draws : Draws}
    {steps : List Step}
    {model : ClassModel}
    {input : Record}
    {outcome : Outcome}
    {entries : List (String × Property)}
    (declared : ∀ entry ∈ entries, model.effective.get? entry.1 = some entry.2)
    (plain : ∀ entry ∈ entries, entry.2.IsPlain)
    (clean : (entries.foldl (addAbsent draws steps input) outcome).failures = []) :
    Completes model input entries outcome
      (entries.foldl (addAbsent draws steps input) outcome) := by
  induction entries generalizing outcome with
  | nil =>
      exact ⟨clean, id, fun _ => id, by simp⟩
  | cons first rest inductionHypothesis =>
      rw [List.foldl_cons] at clean ⊢
      have later := inductionHypothesis
        (fun entry member => declared entry (List.mem_cons_of_mem _ member))
        (fun entry member => plain entry (List.mem_cons_of_mem _ member)) clean
      have step := completes_addAbsent (declared first List.mem_cons_self)
        (plain first List.mem_cons_self) later.clean
      refine ⟨step.clean, later.fitting ∘ step.fitting,
        fun name => later.keeps name ∘ step.keeps name, fun entry member => ?_⟩
      rcases List.mem_cons.mp member with rfl | inRest
      · intro absent notGenerated isProvided
        exact later.keeps _
          (step.provides _ (List.mem_singleton.mpr rfl) absent notGenerated isProvided)
      · exact later.provides entry inRest

/-- A new record is completed with the values of all absent properties. -/
theorem completes_addDefaults
    {draws : Draws}
    {options : Options}
    {model : ClassModel}
    {steps : List Step}
    {input record : Record}
    (plain : ∀ name property, model.effective.get? name = some property → property.IsPlain)
    (creates : options.mode = .create)
    (clean : (addDefaults draws options model steps input record).failures = []) :
    Completes model input model.effective.entries ⟨record, []⟩
      (addDefaults draws options model steps input record) := by
  simp only [addDefaults, creates] at clean ⊢
  have declared :
      ∀ entry ∈ model.effective.entries, model.effective.get? entry.1 = some entry.2 :=
    fun _ member => SortedMap.get?_eq_some_iff.mpr member
  exact completes_foldl declared (fun entry member => plain _ _ (declared entry member)) clean

/-- A value violates nothing exactly when it satisfies what the class demands of it. -/
theorem violations_eq_nil_iff
    {model : ClassModel}
    {steps : List Step}
    {name : String}
    {value : Json} :
    violations model steps (name, value) = [] ↔
      ∀ property,
        model.effective.get? name = some property →
        value.isNull = false →
        property.generated = false →
        property.constraints.Satisfied value := by
  rw [violations, ClassModel.property?]
  cases model.effective.get? name with
  | none =>
      simp
  | some property =>
      dsimp only
      split
      · rename_i skipped
        refine iff_of_true rfl fun other same present notGenerated => ?_
        cases same
        simp [present, notGenerated] at skipped
      · rename_i demanded
        have notSkipped : property.generated = false ∧ value.isNull = false := by
          simpa using demanded
        rw [List.map_eq_nil_iff, Constraints.violations_eq_nil_iff]
        exact ⟨fun satisfied other same _ _ => Option.some.inj same ▸ satisfied,
          fun satisfied => satisfied property rfl notSkipped.2 notSkipped.1⟩

/-- A record after all passes: its values fit, satisfy the constraints, and none is missing. -/
structure IsChecked (options : Options) (model : ClassModel) (record : Record) : Prop where
  fitting : IsFitting model record
  satisfied :
    ∀ name value property,
      record.get? name = some value →
      model.effective.get? name = some property →
      value.isNull = false →
      property.generated = false →
      property.constraints.Satisfied value
  provided :
    options.mode = .create →
    ∀ name property,
      model.effective.get? name = some property →
      property.generated = false →
      property.IsProvided →
      record.contains name = true

/-- All passes over a record without failures leave a checked record. -/
theorem isChecked_checkWith
    {check : ClassModel → List Step → Record → Outcome}
    {registry : Registry}
    {draws : Draws}
    {options : Options}
    {model : ClassModel}
    {steps : List Step}
    {input : Record}
    (plain : ∀ name property, model.effective.get? name = some property → property.IsPlain)
    (clean : (checkWith check registry draws options model steps input).failures = []) :
    IsChecked options model
      (checkWith check registry draws options model steps input).record := by
  simp only [checkWith, List.append_eq_nil_iff] at clean ⊢
  obtain ⟨⟨⟨_, presentClean⟩, completedClean⟩, constraintsClean⟩ := clean
  obtain ⟨presentFitting, presentContains⟩ :=
    acceptedRecord_present (fun name property found => (plain name property found).builtin)
      presentClean
  refine ⟨?_, ?_, ?_⟩
  · cases mode : options.mode with
    | update =>
        simpa only [addDefaults, mode] using presentFitting
    | create =>
        exact (completes_addDefaults plain mode completedClean).fitting presentFitting
  · intro name value property found declared present notGenerated
    have valueClean :=
      List.flatMap_eq_nil_iff.mp constraintsClean (name, value)
        (SortedMap.get?_eq_some_iff.mp found)
    exact violations_eq_nil_iff.mp valueClean property declared present notGenerated
  · intro creates name property declared notGenerated isProvided
    have completes := completes_addDefaults plain creates completedClean
    cases brought : input.contains name with
    | true =>
        exact completes.keeps name (presentContains name property declared brought)
    | false =>
        exact completes.provides (name, property) (SortedMap.get?_eq_some_iff.mp declared)
          brought notGenerated isProvided

end Validation

end RecordSchema
