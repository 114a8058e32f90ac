import RecordSchema.Proofs.Registry.Recursion
import RecordSchema.Proofs.Validation.Conformance

namespace RecordSchema

/-!
# The permissions carrier

The carrier has a property for each class that is not embedded.  A carrier that nobody
declares has no others, and whatever it accepts is a mask for each of these classes; one that
is declared keeps what it declares.
-/

open DefinitionSet (carrierName carrierProperty)
open Validation (Options WriteMode validateRecord)

namespace Registry

/-- The classes that the carrier has a property for: those not embedded, itself aside. -/
def IsCarried (registry : Registry) (name : String) : Prop :=
  name ≠ carrierName ∧ ∃ model, registry.get? name = some model ∧ model.embedded = false

/-- The property that completion gives the carrier for a class, before any index flags it. -/
def maskProperty (className : String) : Property where
  name := className
  type := .integer
  nullable := false
  constraints := { min := some 0, max := some 15 }
  cast := some (.builtin .integer)
  default := some (.constant (.ofInt 0))
  declaredOn := carrierName

theorem ofDefinition_carrierProperty
    (className : String) :
    Property.ofDefinition carrierName (carrierProperty className) = .ok (maskProperty className) :=
  rfl

/-- A class of a registry with what its definition declares, flags of indices aside. -/
structure IsDeclaredBy
    (registry : Registry)
    (className : String)
    (definition : ClassDefinition)
    (model : ClassModel) : Prop where
  found : registry.get? className = some model
  embedded : model.embedded = definition.embedded
  readable :
    ∀ declared ∈ definition.properties,
      ∃ draft, Property.ofDefinition className declared = .ok draft
  own :
    ∀ name property,
      (model.own.get? name).map Property.unflagged = some property ↔
        ∃ declared ∈ definition.properties,
          declared.name = name ∧
            ∃ draft,
              Property.ofDefinition className declared = .ok draft ∧
                property = draft.linkIn registry.hierarchy
  recursive : IsRecursive registry definition model

namespace IsLinked

variable
  {definitions : DefinitionSet}
  {base : Foundation}
  {registry : Registry}

/-- Every definition is that of a class. -/
theorem exists_isDeclaredBy
    (linked : IsLinked definitions base registry)
    {className : String}
    {definition : ClassDefinition}
    (declared : definitions.get? className = some definition) :
    ∃ model, IsDeclaredBy registry className definition model := by
  have founded := linked.founded
  obtain ⟨id, idFound, entryFound⟩ := founded.declares.exists_id declared
  obtain ⟨model, modelFound, isFounded⟩ := founded.models id className definition entryFound
  obtain ⟨attached, found⟩ := linked.exists_attached modelFound
  obtain ⟨other, otherFound, flagged⟩ := linked.origin found
  cases modelFound.symm.trans otherFound
  have named : attached.name = className := flagged.name_eq.trans isFounded.name
  obtain ⟨recursiveDefinition, sameDefinition, recursive⟩ := linked.isRecursive found
  rw [named, declared] at sameDefinition
  cases sameDefinition
  refine ⟨attached, ?_, ?_, ?_, ?_, recursive⟩
  · rw [← named]
    exact (linked.get?_name found).2
  · exact (congrArg ClassModel.embedded flagged.frame).trans isFounded.embedded
  · obtain ⟨_, _, drafted⟩ := founded.drafted _ _ declared
    obtain ⟨_, _, ownRead, _⟩ := ClassModel.ofDefinition_ok drafted
    exact fun property member => ((ClassModel.declareProperties_ok ownRead).2.1 property member).2
  · intro name property
    have bare : (model.own.get? name).map Property.unflagged = model.own.get? name := by
      cases own : model.own.get? name with
      | none => rfl
      | some property => exact congrArg some (founded.unflagged_own modelFound own)
    rw [flagged.own.unflagged_eq, bare, isFounded.own]
    simp only [linked.linkIn_eq]

end IsLinked

section Carrier

variable
  {united : DefinitionSet}
  {base : Foundation}
  {registry : Registry}

/-- The carrier has a property for a class exactly if the definitions have it standing alone. -/
theorem isCarried_iff
    (linked : IsLinked united.withCarrier base registry)
    {name : String} :
    registry.IsCarried name ↔
      name ≠ carrierName ∧
        ∃ definition, united.get? name = some definition ∧ definition.embedded = false := by
  refine and_congr_right fun other => ?_
  constructor
  · rintro ⟨model, found, standing⟩
    obtain ⟨id, _, foundById, named⟩ := linked.exists_id_of_get? found
    obtain ⟨completed, declared, _⟩ := linked.isRecursive foundById
    rw [named] at declared
    obtain ⟨same, declaredBy⟩ := linked.exists_isDeclaredBy declared
    cases found.symm.trans declaredBy.found
    obtain ⟨definition, rfl, isDeclared | ⟨isCarrier, _⟩⟩ :=
      DefinitionSet.get?_of_withCarrier declared
    · exact ⟨definition, isDeclared, declaredBy.embedded.symm.trans standing⟩
    · exact absurd isCarrier other
  · rintro ⟨definition, declared, standing⟩
    obtain ⟨model, declaredBy⟩ :=
      linked.exists_isDeclaredBy (DefinitionSet.withCarrier_of_get? declared)
    exact ⟨model, declaredBy.found, declaredBy.embedded.trans standing⟩

/-- The carrier of a registry: what is declared for it, and a mask for every class without one. -/
structure IsCarrier
    (registry : Registry)
    (declared : List PropertyDefinition)
    (model : ClassModel) : Prop where
  contains_iff :
    ∀ name,
      model.own.contains name = true ↔
        (∃ property ∈ declared, property.name = name) ∨ registry.IsCarried name
  kept :
    ∀ definition ∈ declared,
      ∃ draft,
        Property.ofDefinition carrierName definition = .ok draft ∧
          (model.own.get? definition.name).map Property.unflagged =
            some (draft.linkIn registry.hierarchy)
  added :
    ∀ name,
      registry.IsCarried name →
      (∀ property ∈ declared, property.name ≠ name) →
      (model.own.get? name).map Property.unflagged = some (maskProperty name)
  effective :
    ∀ name,
      model.own.contains name = true →
      (model.effective.get? name).map Property.unflagged =
        (model.own.get? name).map Property.unflagged

theorem mem_addedProperties_carrierName_iff
    (linked : IsLinked united.withCarrier base registry)
    {definition : PropertyDefinition} :
    definition ∈ united.addedProperties carrierName ↔
      ∃ name,
        registry.IsCarried name ∧
          (∀ property ∈ united.carrier.properties, property.name ≠ name) ∧
            definition = carrierProperty name := by
  simp only [DefinitionSet.mem_addedProperties_iff, isCarried_iff linked, true_and]
  constructor
  · rintro ⟨name, carried, declared, standing, other, missing, shape⟩
    exact ⟨name, ⟨other, carried, declared, standing⟩, missing, shape⟩
  · rintro ⟨name, ⟨other, carried, declared, standing⟩, missing, shape⟩
    exact ⟨name, carried, declared, standing, other, missing, shape⟩

theorem isCarrier_of_isDeclaredBy
    (linked : IsLinked united.withCarrier base registry)
    {completed : ClassDefinition}
    {model : ClassModel}
    (declaredBy : IsDeclaredBy registry carrierName completed model)
    (properties :
      completed.properties =
        united.carrier.properties ++ united.addedProperties carrierName) :
    IsCarrier registry united.carrier.properties model where
  contains_iff name := by
    have contains_iff :
        model.own.contains name = true ↔
          ∃ definition ∈ completed.properties, definition.name = name := by
      have sameIsSome :
          (model.own.get? name).isSome = ((model.own.get? name).map Property.unflagged).isSome :=
        Option.isSome_map.symm
      rw [SortedMap.contains, sameIsSome, Option.isSome_iff_exists]
      simp only [declaredBy.own]
      constructor
      · rintro ⟨_, definition, member, named, _⟩
        exact ⟨definition, member, named⟩
      · rintro ⟨definition, member, named⟩
        obtain ⟨draft, read⟩ := declaredBy.readable definition member
        exact ⟨_, definition, member, named, draft, read, rfl⟩
    rw [contains_iff, properties]
    simp only [List.mem_append, mem_addedProperties_carrierName_iff linked]
    constructor
    · rintro ⟨definition, declared | ⟨carried, isCarried, _, rfl⟩, named⟩
      · exact .inl ⟨definition, declared, named⟩
      · obtain rfl : carried = name := named
        exact .inr isCarried
    · intro given
      by_cases declared : ∃ property ∈ united.carrier.properties, property.name = name
      · obtain ⟨property, member, named⟩ := declared
        exact ⟨property, .inl member, named⟩
      · have isCarried := given.resolve_left declared
        have missing : ∀ property ∈ united.carrier.properties, property.name ≠ name :=
          fun property member named => declared ⟨property, member, named⟩
        exact ⟨carrierProperty name, .inr ⟨name, isCarried, missing, rfl⟩, rfl⟩
  kept definition member := by
    have inCompleted : definition ∈ completed.properties := by
      rw [properties]
      exact List.mem_append_left _ member
    obtain ⟨draft, read⟩ := declaredBy.readable definition inCompleted
    exact ⟨draft, read, (declaredBy.own _ _).mpr ⟨definition, inCompleted, rfl, draft, read, rfl⟩⟩
  added name isCarried missing := by
    have inCompleted : carrierProperty name ∈ completed.properties := by
      rw [properties]
      exact List.mem_append_right _
        ((mem_addedProperties_carrierName_iff linked).mpr ⟨name, isCarried, missing, rfl⟩)
    exact (declaredBy.own _ _).mpr
      ⟨carrierProperty name, inCompleted, rfl, _, ofDefinition_carrierProperty name, rfl⟩
  effective name has := by
    obtain ⟨property, found⟩ := SortedMap.contains_iff.mp has
    rw [declaredBy.recursive.effective, ← declaredBy.recursive.own, found, Option.map_some,
      Option.some_or, Option.some_or]

/-- A class without parents that is no edge has nothing but what it declares. -/
theorem contains_own_of_effective
    {definition : ClassDefinition}
    {model : ClassModel}
    (recursive : IsRecursive registry definition model)
    (noParents : definition.inherits = [])
    (noEdge : definition.isEdge = false)
    (name : String) :
    model.effective.contains name = model.own.contains name := by
  have same :
      (model.effective.get? name).map Property.unflagged =
        (model.own.get? name).map Property.unflagged := by
    rw [recursive.effective, recursive.own, noParents, noEdge]
    simp
  have sameIsSome := congrArg Option.isSome same
  rwa [Option.isSome_map, Option.isSome_map] at sameIsSome

/-- There is a carrier; one that nobody declares is embedded and has only its own properties. -/
theorem exists_isCarrier
    (linked : IsLinked united.withCarrier base registry) :
    ∃ model,
      registry.get? carrierName = some model ∧
        IsCarrier registry united.carrier.properties model ∧
          (united.get? carrierName = none →
            model.embedded = true ∧
              ∀ name, model.effective.contains name = model.own.contains name) := by
  have completed := united.get?_withCarrier carrierName
  rw [if_pos rfl, Option.map_some] at completed
  obtain ⟨model, declaredBy⟩ := linked.exists_isDeclaredBy completed
  refine ⟨model, declaredBy.found, isCarrier_of_isDeclaredBy linked declaredBy rfl, ?_⟩
  intro undeclared
  have isDefault : united.carrier = { embedded := true } := by
    rw [DefinitionSet.carrier, undeclared, Option.getD_none]
  refine ⟨?_, contains_own_of_effective declaredBy.recursive ?_ ?_⟩
  · exact declaredBy.embedded.trans (congrArg ClassDefinition.embedded isDefault)
  · exact congrArg ClassDefinition.inherits isDefault
  · exact congrArg ClassDefinition.isEdge isDefault

end Carrier

/-- What a mask of the carrier admits is an integer from 0 to 15. -/
theorem exists_mask
    {property : Property}
    {name : String}
    (isMask : property.unflagged = maskProperty name)
    {value : Json}
    (fits : property.Fits value)
    (satisfied : value.isNull = false → property.constraints.Satisfied value) :
    ∃ mask : Int64, value = .ofInt64 mask ∧ 0 ≤ mask ∧ mask ≤ 15 := by
  have notNull : value.isNull = false := by
    cases isNull : value.isNull with
    | false => rfl
    | true =>
        have nullable : property.nullable = false := congrArg Property.nullable isMask
        rw [fits.nullable isNull] at nullable
        cases nullable
  have type : property.type = .integer := congrArg Property.type isMask
  have cast : property.cast = some (.builtin .integer) := congrArg Property.cast isMask
  have constraints : property.constraints = { min := some 0, max := some 15 } :=
    congrArg Property.constraints isMask
  have holds := fits.holds notNull (by rw [Property.HasDefaultCast, cast, type]; rfl)
  rw [type] at holds
  obtain ⟨mask, rfl⟩ := holds
  have inBounds := satisfied notNull
  rw [constraints] at inBounds
  exact ⟨mask, rfl, inBounds.min 0 mask rfl rfl, inBounds.max 15 mask rfl rfl⟩

theorem isPlain_of_isMask
    {property : Property}
    {name : String}
    (isMask : property.unflagged = maskProperty name) :
    property.IsPlain where
  builtin := .inl ⟨.integer, congrArg Property.cast isMask⟩
  constant value isConstant := by
    have default : property.default = some (.constant (.ofInt 0)) :=
      congrArg Property.default isMask
    cases default.symm.trans isConstant
    rfl

/-- A new record of a class of masks has a mask from 0 to 15 for each of its properties. -/
theorem masks_of_validateRecord
    {registry : Registry}
    {model : ClassModel}
    (masks :
      ∀ name property,
        model.effective.get? name = some property → property.unflagged = maskProperty name)
    {draws : Draws}
    {options : Options}
    (creates : options.mode = .create)
    {input output : Record}
    (accepted : validateRecord registry draws options model input = .ok output) :
    (∀ name, output.contains name = true ↔ model.effective.contains name = true) ∧
      ∀ name value,
        output.get? name = some value →
        ∃ mask : Int64, value = .ofInt64 mask ∧ 0 ≤ mask ∧ mask ≤ 15 := by
  have isChecked :=
    Validation.isChecked_of_validateRecord
      (fun name property has => isPlain_of_isMask (masks name property has)) accepted
  constructor
  · intro name
    constructor
    · intro contained
      obtain ⟨value, found⟩ := SortedMap.contains_iff.mp contained
      obtain ⟨property, has, _⟩ := isChecked.fitting name value found
      exact SortedMap.contains_iff.mpr ⟨property, has⟩
    · intro contained
      obtain ⟨property, has⟩ := SortedMap.contains_iff.mp contained
      have isMask := masks name property has
      exact isChecked.provided creates name property has (congrArg Property.generated isMask)
        (.inr (.inl ⟨_, congrArg Property.default isMask⟩))
  · intro name value found
    obtain ⟨property, has, fits⟩ := isChecked.fitting name value found
    have isMask := masks name property has
    exact exists_mask isMask fits fun notNull =>
      isChecked.satisfied name value property found has notNull
        (congrArg Property.generated isMask)

/--
A registry has the class that carries the permissions.  If nobody declares it, then it is
embedded, has exactly one property for each class that is not embedded, and a new record of
it that is accepted has a mask from 0 to 15 for each of them.  If some set declares it, then
what is declared is kept, and exactly the missing classes are added with masks.
-/
theorem carrier_sound
    {sets : List DefinitionSet}
    {registry : Registry}
    (compiled : (compile sets).result = .ok registry) :
    ∃ model,
      registry.get? carrierName = some model ∧
        ((∀ definition, ¬Declarations.ofSets sets carrierName definition) →
          model.embedded = true ∧
            (∀ name, model.effective.contains name = true ↔ registry.IsCarried name) ∧
              ∀ draws options input output,
                options.mode = .create →
                validateRecord registry draws options model input = .ok output →
                (∀ name, output.contains name = true ↔ registry.IsCarried name) ∧
                  ∀ name value,
                    output.get? name = some value →
                    ∃ mask : Int64, value = .ofInt64 mask ∧ 0 ≤ mask ∧ mask ≤ 15) ∧
          ∀ definition,
            Declarations.ofSets sets carrierName definition →
            IsCarrier registry definition.properties model := by
  obtain ⟨united, base, unitedAccepted, linked⟩ := compile_ok compiled
  have sameDeclarations := DefinitionSet.declarations_of_unite unitedAccepted
  obtain ⟨model, found, isCarrier, ofUndeclared⟩ := exists_isCarrier linked
  refine ⟨model, found, fun undeclared => ?_, fun definition declared => ?_⟩
  · have absent : united.get? carrierName = none :=
      Option.eq_none_iff_forall_ne_some.mpr fun definition isDeclared =>
        undeclared definition (sameDeclarations ▸ isDeclared)
    have noProperties : united.carrier.properties = [] := by
      rw [DefinitionSet.carrier, absent, Option.getD_none]
    obtain ⟨embedded, onlyOwn⟩ := ofUndeclared absent
    rw [noProperties] at isCarrier
    have contains_iff :
        ∀ name, model.effective.contains name = true ↔ registry.IsCarried name := by
      intro name
      rw [onlyOwn, isCarrier.contains_iff]
      simp
    -- Nothing is declared or inherited, so every property is one that completion added.
    have masks :
        ∀ name property,
          model.effective.get? name = some property → property.unflagged = maskProperty name := by
      intro name property has
      have contained : model.effective.contains name = true :=
        SortedMap.contains_iff.mpr ⟨property, has⟩
      have isMask := isCarrier.added name ((contains_iff name).mp contained) (by simp)
      rw [← isCarrier.effective name (onlyOwn name ▸ contained), has] at isMask
      exact Option.some.inj isMask
    refine ⟨embedded, contains_iff, fun draws options input output creates accepted => ?_⟩
    obtain ⟨sameNames, inBounds⟩ := masks_of_validateRecord masks creates accepted
    exact ⟨fun name => (sameNames name).trans (contains_iff name), inBounds⟩
  · have isDeclared : united.get? carrierName = some definition := by
      rw [← sameDeclarations] at declared
      exact declared
    have isCarrierDefinition : united.carrier = definition := by
      rw [DefinitionSet.carrier, isDeclared, Option.getD_some]
    rwa [isCarrierDefinition] at isCarrier

/-- A class, an edge and an embedded class, none of which is the carrier. -/
def hospital : List DefinitionSet :=
  [.ofList [("Address", { embedded := true }), ("Disease", {}), ("Treats", { isEdge := true })]]

/-- The same classes with a carrier that has a label, and a property of its own for one class. -/
def labelled : DefinitionSet :=
  .ofList
    [(carrierName,
      {
        embedded := true
        properties := [.ofType .string "label" none, .ofType .boolean "Disease" none]
      })]

private theorem hospital_observed :
    ((compile hospital).result.toOption.bind fun registry =>
      (registry.get? carrierName).bind fun carrier =>
        (validateRecord registry ⟨fun _ => "", fun _ => 0⟩ {} carrier
          (.ofList [("Disease", .string "7")])).toOption.map SortedMap.entries) =
      some [("Disease", .ofInt 7), ("Treats", .ofInt 0)] := by
  simp only [validateRecord, Validation.check?_eq_or]
  with_unfolding_all rfl

private theorem labelled_observed :
    (compile (labelled :: hospital)).result.toOption.map names =
      some ["Address", "Disease", "Permissions", "Treats"] := by
  decide +kernel

/-- A new record has masks for the class and for the edge; a declared carrier keeps its own. -/
theorem carrier_sound_hospital :
    (∃ registry model output,
      (compile hospital).result = .ok registry ∧ registry.get? carrierName = some model ∧
        validateRecord registry ⟨fun _ => "", fun _ => 0⟩ {} model
            (.ofList [("Disease", .string "7")]) = .ok output ∧
          output.entries = [("Disease", .ofInt 7), ("Treats", .ofInt 0)] ∧
            ∀ name, output.contains name = true ↔ registry.IsCarried name) ∧
      ∃ registry model definition,
        (compile (labelled :: hospital)).result = .ok registry ∧
          registry.get? carrierName = some model ∧
            labelled.get? carrierName = some definition ∧
              IsCarrier registry definition.properties model := by
  constructor
  · have observed := hospital_observed
    simp only [Option.bind_eq_some_iff, Option.map_eq_some_iff] at observed
    obtain ⟨registry, compiled, model, found, output, accepted, entries⟩ := observed
    have compiled := ok_of_toOption compiled
    obtain ⟨other, otherFound, ofUndeclared, _⟩ := carrier_sound compiled
    cases found.symm.trans otherFound
    have undeclared :
        ∀ definition, ¬Declarations.ofSets hospital carrierName definition := by
      rintro definition ⟨set, member, declared⟩
      cases List.mem_singleton.mp member
      have inSet := SortedMap.mem_of_get?_ofList declared
      simp [carrierName] at inSet
    obtain ⟨_, _, ofRecords⟩ := ofUndeclared undeclared
    have accepted := ok_of_toOption accepted
    exact ⟨registry, model, output, compiled, found, accepted, entries,
      (ofRecords _ {} _ output rfl accepted).1⟩
  · obtain ⟨registry, compiled, _⟩ := Option.map_eq_some_iff.mp labelled_observed
    have compiled := ok_of_toOption compiled
    obtain ⟨model, found, _, ofDeclared⟩ := carrier_sound compiled
    have isDeclared : labelled.get? carrierName = some _ :=
      SortedMap.get?_insert_self _ _ _
    exact ⟨registry, model, _, compiled, found, isDeclared,
      ofDeclared _ ⟨labelled, List.mem_cons_self, isDeclared⟩⟩

end Registry

end RecordSchema
